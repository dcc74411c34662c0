import PageServer.Proofs.Word
import PageServer.Store.Select

/-!
What is read from tokens, step by step.

A selection of plain names is read as these names: each is a formula of its own, since no word among
them starts or continues one in any other way.
-/

namespace PageServer.Store

namespace Parse

variable {α β : Type} {tokens middle rest : List Token} {kept between left : Nat}

/-- From the tokens and with so many parts in mind, a value is read, and so much is left. -/
def Reads (read : Parse α) (tokens : List Token) (kept : Nat) (value : α) (rest : List Token)
    (left : Nat) : Prop :=
  read { tokens, kept } = .ok (value, { tokens := rest, kept := left })

/-- The token that is next, if there is one, can be looked at. -/
def Legal (tokens : List Token) : Prop := ∀ token ∈ tokens.head?, token.kind ≠ .illegal

/-- Tokens of which the next is legal. -/
theorem Legal.cons {token : Token} (legal : token.kind ≠ .illegal) : Legal (token :: rest) :=
  fun _ same => Option.some.inj (Option.mem_def.mp same) ▸ legal

namespace Reads

/-- Nothing is read for a value that is there. -/
theorem pure (value : α) : Reads (pure value) tokens kept value tokens kept := rfl

/-- What is read in two steps. -/
theorem bind {read : Parse α} {next : α → Parse β} {value : α} {found : β}
    (first : Reads read tokens kept value middle between)
    (second : Reads (next value) middle between found rest left) :
    Reads (read >>= next) tokens kept found rest left := by
  -- The state after the first step is the one in which the second starts.
  unfold Reads at *
  simp only [Bind.bind, StateT.bind, first, Except.bind]
  exact second

/-- The state is read without changing it. -/
theorem get : Reads get tokens kept { tokens, kept } tokens kept := rfl

/-- What is kept is set without reading anything. -/
theorem keeping (count : Nat) : Reads (keeping count) tokens kept () tokens count := rfl

/-- What is next is looked at and left where it is. -/
theorem peek (legal : Legal tokens) : Reads peek tokens kept tokens.head? tokens kept := by
  -- Only an illegal token would be refused here.
  refine get.bind ?_
  cases tokens with
  | nil => exact .pure none
  | cons token rest =>
    simp only [List.head?_cons, legal token rfl, if_false]
    exact .pure _

/-- A token is passed over while there is room to keep it in mind. -/
theorem skip {token : Token} (room : kept < keptLimit) :
    Reads skip (token :: rest) kept () rest (kept + 1) := by
  -- The token is kept in mind first, and then left behind.
  have kept : Reads keep (token :: rest) kept () (token :: rest) (kept + 1) := by
    refine get.bind ?_
    simp only [ge_iff_le, Nat.not_le.mpr room, if_false]
    rfl
  exact kept.bind rfl

/-- What is read as one part counts for one, whatever it kept in mind. -/
theorem asOne {read : Parse α} {value : α} (found : Reads read tokens kept value rest left) :
    Reads (asOne read) tokens kept value rest (kept + 1) :=
  -- The count is set back to what it was, and then up by one.
  get.bind (found.bind rfl)

/-- What is read as joined counts for nothing. -/
theorem joined {read : Parse α} {value : α} (found : Reads read tokens kept value rest left) :
    Reads (joined read) tokens kept value rest kept :=
  get.bind (found.bind rfl)

/-- Whether a word is next is seen without passing it. -/
theorem atWord (legal : Legal tokens) (word : String) :
    Reads (atWord word) tokens kept (tokens.head?.any (·.isWord word)) tokens kept :=
  (peek legal).bind (.pure _)

/-- Whether a symbol is next is seen without passing it. -/
theorem atSymbol (legal : Legal tokens) (symbol : String) :
    Reads (atSymbol symbol) tokens kept (tokens.head?.any (·.isSymbol symbol)) tokens kept :=
  (peek legal).bind (.pure _)

/-- A word that is not next is not passed over. -/
theorem noWord (legal : Legal tokens) {word : String}
    (other : tokens.head?.any (·.isWord word) = false) :
    Reads (takeWord word) tokens kept false tokens kept := by
  -- It is looked for, and nothing further is done.
  refine (atWord legal word).bind ?_
  rw [other]
  exact .pure false

/-- A symbol that is not next is not passed over. -/
theorem noSymbol (legal : Legal tokens) {symbol : String}
    (other : tokens.head?.any (·.isSymbol symbol) = false) :
    Reads (takeSymbol symbol) tokens kept false tokens kept := by
  -- It is looked for, and nothing further is done.
  refine (atSymbol legal symbol).bind ?_
  rw [other]
  exact .pure false

/-- A word that is next is passed over. -/
theorem takeWord {token : Token} {word : String} (here : token.isWord word = true)
    (legal : token.kind ≠ .illegal) (room : kept < keptLimit) :
    Reads (takeWord word) (token :: rest) kept true rest (kept + 1) := by
  -- It is looked for, and then passed over as a token is.
  refine (atWord (.cons legal) word).bind ?_
  simp only [List.head?_cons, Option.any_some, here, if_true]
  exact (skip room).bind (.pure true)

/-- A symbol that is next is passed over. -/
theorem takeSymbol {token : Token} {symbol : String} (here : token.isSymbol symbol = true)
    (legal : token.kind ≠ .illegal) (room : kept < keptLimit) :
    Reads (takeSymbol symbol) (token :: rest) kept true rest (kept + 1) := by
  -- It is looked for, and then passed over as a token is.
  refine (atSymbol (.cons legal) symbol).bind ?_
  simp only [List.head?_cons, Option.any_some, here, if_true]
  exact (skip room).bind (.pure true)

/-- A word that must be next is passed over. -/
theorem expectWord {token : Token} {word : String} (here : token.isWord word = true)
    (legal : token.kind ≠ .illegal) (room : kept < keptLimit) :
    Reads (expectWord word) (token :: rest) kept () rest (kept + 1) :=
  (takeWord here legal room).bind (.pure ())

end Reads

end Parse

/-- Words that start a formula of their own kind, though they may also name a column. -/
def formulaWords : List String :=
  ["cast", "raise", "current_date", "current_time", "current_timestamp"]

/-- A word that is read as a name wherever a formula may stand. -/
structure IsPlainName (name : String) : Prop where
  word : Sql.isWord name = true
  free : isKeyword name = false
  apart : fold name ∉ formulaWords

/-- A plain name is no word that has a meaning of its own, in any case. -/
theorem IsPlainName.fold_ne {name word : String} (plain : IsPlainName name)
    (reserved : word ∈ keywords ++ formulaWords) : fold name ≠ word := by
  -- Reserved are the keywords, and the words that start or continue a formula.
  rintro rfl
  rcases List.mem_append.mp reserved with keyword | formula
  · have free := plain.free
    simp only [isKeyword, List.contains_eq_mem, decide_eq_false_iff_not] at free
    exact free keyword
  · exact plain.apart formula

namespace Parse

/-- A token after which a name cannot go on: a comma, or the word before the table. -/
inductive Ends : Token → Prop where
  | comma : Ends (.ofSymbol ",")
  | source : Ends (.ofWord "FROM")

/-- Such a token is legal. -/
theorem Ends.legal {token : Token} (ends : Ends token) : Legal (token :: rest) := by
  cases ends <;> exact .cons (by decide)

/-- No operator starts with such a token. -/
theorem Ends.operation {token : Token} (ends : Ends token) (left : Formula) (fuel : Nat) :
    Reads (operation? 0 false left token (fuel + 2)) (token :: rest) kept none (token :: rest)
      kept := by
  -- Such a token is a comma, or the word before the table.
  cases ends <;> rfl

/-- A formula is complete before such a token. -/
theorem Ends.operators {token : Token} (ends : Ends token) (left : Formula) (fuel : Nat) :
    Reads (operators 0 false left (fuel + 3)) (token :: rest) kept left (token :: rest) kept := by
  -- There is no operator, so the operand on the left is all.
  rw [Parse.operators]
  exact (Reads.peek ends.legal).bind ((ends.operation left fuel).joined.bind (.pure left))

/-- A name that such a token follows is neither qualified nor a function. -/
theorem Ends.named {token : Token} (ends : Ends token) {name : String}
    (free : isKeyword name = false) (fuel : Nat) :
    Reads (named (.ofWord name) (fuel + 1)) (token :: rest) kept (.name { name }) (token :: rest)
      kept := by
  -- Only a point or a parenthesis after the name would make it part of something longer.
  rw [Parse.named]
  -- The word is a name that stands for itself.
  have first : nameOf? (.ofWord name) = some name := by simp [nameOf?, Token.ofWord, free]
  have point : Reads (takeSymbol ".") (token :: rest) kept false (token :: rest) kept :=
    .noSymbol ends.legal (by cases ends <;> rfl)
  have opening : Reads (takeSymbol "(") (token :: rest) kept false (token :: rest) kept :=
    .noSymbol ends.legal (by cases ends <;> rfl)
  refine point.bind (opening.bind ?_)
  simp only [first]
  exact .pure _

/-- A plain name is none of the words that have a meaning of their own. -/
theorem isWord_ofWord {name : String} (plain : IsPlainName name) {word : String}
    (reserved : word ∈ keywords ++ formulaWords) : (Token.ofWord name).isWord word = false := by
  -- In any case its letters are not those of such a word.
  simp [Token.isWord, Token.ofWord, plain.fold_ne reserved]

/-- A plain name is no value by itself. -/
theorem literal?_ofWord {name : String} (plain : IsPlainName name) :
    literal? (.ofWord name) = none := by
  -- Literals that are words are looked up among the reserved ones.
  have kind : (Token.ofWord name).kind = .word := rfl
  have words : ∀ word ∈ keywords ++ formulaWords, (Token.ofWord name).isWord word = false :=
    fun word reserved => isWord_ofWord plain reserved
  simp only [literal?, kind, words "null" (by decide), words "current_time" (by decide),
    words "current_date" (by decide), words "current_timestamp" (by decide), Bool.or_false,
    Bool.false_eq_true, if_false]

/-- A plain name that such a token follows is read as the name of a column. -/
theorem Ends.operand {token : Token} (ends : Ends token) {name : String} (plain : IsPlainName name)
    (room : kept < keptLimit) (fuel : Nat) :
    Reads (operand (fuel + 2)) (.ofWord name :: token :: rest) kept (.name { name })
      (token :: rest) (kept + 1) := by
  rw [Parse.operand]
  refine (Reads.peek (.cons (by simp [Token.ofWord]))).bind ?_
  -- The word starts nothing but a name, so every other branch is passed by.
  have symbols : ∀ symbol, (Token.ofWord name).isSymbol symbol = false := fun _ => rfl
  have words : ∀ word ∈ keywords ++ formulaWords, (Token.ofWord name).isWord word = false :=
    fun word reserved => isWord_ofWord plain reserved
  have named : (nameOf? (.ofWord name)).isSome = true := by
    simp [nameOf?, Token.ofWord, plain.free]
  have kind : (Token.ofWord name).kind = .word := rfl
  simp only [List.head?_cons, symbols, words "not" (by decide), words "case" (by decide),
    words "cast" (by decide), words "exists" (by decide), words "raise" (by decide),
    Bool.false_eq_true, if_false, kind, literal?_ofWord plain, named, if_true]
  exact (Reads.skip room).bind (ends.named plain.free fuel)

/-- A plain name that such a token follows is a formula. -/
theorem Ends.formula {token : Token} (ends : Ends token) {name : String} (plain : IsPlainName name)
    (room : kept < keptLimit) (fuel : Nat) :
    Reads (formula 0 (fuel + 4)) (.ofWord name :: token :: rest) kept (.name { name })
      (token :: rest) (kept + 1) := by
  -- The name is an operand, and it stands alone.
  rw [Parse.formula]
  refine (ends.operand plain room (fuel + 1)).asOne.bind ?_
  have shallow : Reads (checked (.name { name })) (token :: rest) (kept + 1) (.name { name })
      (token :: rest) (kept + 1) := rfl
  exact shallow.bind (ends.operators _ fuel)

/-- A plain name that such a token follows is a column, which is written as it is named. -/
theorem Ends.column {token : Token} (ends : Ends token) {name : String} (plain : IsPlainName name)
    (room : kept < keptLimit) :
    Reads (joined do Parse.formula 0 (← steps)) (.ofWord name :: token :: rest) kept
      (.name { name }) (token :: rest) kept := by
  -- The fuel that the reader starts with is enough for one name.
  have fuel : Reads steps (.ofWord name :: token :: rest) kept (4 * (rest.length + 2) + 4)
      (.ofWord name :: token :: rest) kept := Reads.get.bind (.pure _)
  exact (fuel.bind (ends.formula plain room _)).joined

/-- The text of a column that took one token is that of the token. -/
theorem join_taken (token : Token) (rest : List Token) :
    String.join (((token :: rest).take ((token :: rest).length - rest.length)).map Token.text) =
      token.text := by
  -- One token has been taken, so one is left of the text.
  simp [String.join]

/-- The tokens of names with commas between them. -/
def nameTokens (names : List String) : List Token :=
  separated (names.map fun name => [.ofWord name])

/-- Plain names before the table are read as columns. -/
theorem reads_columns {first : String} {names : List String}
    (plain : ∀ name ∈ first :: names, IsPlainName name) (room : kept < keptLimit) {fuel : Nat}
    (enough : names.length < fuel) :
    Reads (columns fuel) (nameTokens (first :: names) ++ .ofWord "FROM" :: rest) kept
      ((first :: names).map fun name => (.name { name }, name)) (.ofWord "FROM" :: rest) kept := by
  -- A comma after a name leads to the next one, and the last name is before the table.
  induction names generalizing first fuel with
  | nil =>
    -- The last name is before the table.
    obtain ⟨less, rfl⟩ := Nat.exists_eq_add_of_lt enough
    have here := plain first (List.mem_cons_self ..)
    have tokens : nameTokens [first] ++ .ofWord "FROM" :: rest =
      .ofWord first :: .ofWord "FROM" :: rest := rfl
    rw [columns, tokens]
    refine Reads.get.bind ((Ends.source.column here room).bind (Reads.get.bind ?_))
    refine (Reads.noSymbol Ends.source.legal rfl).joined.bind ?_
    simp only [join_taken]
    exact .pure _
  | cons second names ih =>
    -- There is a name after a comma.
    obtain ⟨less, rfl⟩ := Nat.exists_eq_add_of_lt enough
    have here := plain first (List.mem_cons_self ..)
    have later := @ih second (fun name member => plain name (List.mem_cons_of_mem _ member))
      ((second :: names).length + less) (by simp; omega)
    have tokens : nameTokens (first :: second :: names) ++ .ofWord "FROM" :: rest =
      .ofWord first :: .ofSymbol "," :: (nameTokens (second :: names) ++ .ofWord "FROM" :: rest) := rfl
    rw [columns, tokens]
    refine Reads.get.bind ((Ends.comma.column here room).bind (Reads.get.bind ?_))
    refine (Reads.takeSymbol rfl (by decide) room).joined.bind ?_
    simp only [join_taken]
    exact later.bind (.pure _)

/-- There are at least as many tokens as names. -/
theorem length_le_nameTokens (names : List String) :
    names.length ≤ (nameTokens names).length := by
  -- Every name is a token of its own; the commas between them only add to these.
  unfold nameTokens
  induction names with
  | nil => simp
  | cons first names ih =>
    cases names with
    | nil => simp [separated]
    | cons second names =>
      simp only [List.map_cons, separated, List.length_append, List.length_cons] at ih ⊢
      omega

/-- A selection of plain names from a table is read as such. -/
theorem reads_selection {first table : String} {names : List String}
    (plain : ∀ name ∈ first :: names, IsPlainName name) (free : isKeyword table = false) :
    Reads selection
      (.ofWord "SELECT" :: nameTokens (first :: names) ++ [.ofWord "FROM", .ofWord table]) 0
      { columns := (first :: names).map fun name => (.name { name }, name), table } [] 8 := by
  -- The table is one word, with nothing behind it.
  have named : Reads name [.ofWord table] 2 table [] 3 := by
    have found : nameOf? (.ofWord table) = some table := by simp [nameOf?, Token.ofWord, free]
    refine (Reads.peek (.cons (by simp [Token.ofWord]))).bind ?_
    simp only [List.head?_cons, Option.bind_some, found]
    exact (Reads.skip (by decide)).bind (.pure table)
  have here := plain first (List.mem_cons_self ..)
  -- Each name takes up tokens, so there is fuel enough for the list.
  have many := length_le_nameTokens (first :: names)
  rw [List.cons_append]
  generalize tokens : nameTokens (first :: names) ++ [.ofWord "FROM", .ofWord table] = after
  have columns : Reads (columns (4 * (after.length + 1) + 4)) after 1
      ((first :: names).map fun name => (.name { name }, name))
      [.ofWord "FROM", .ofWord table] 1 := by
    rw [← tokens]
    apply reads_columns plain (by decide)
    simp only [List.length_cons, List.length_append] at many ⊢
    omega
  -- The first name is neither of the words that may follow `SELECT`.
  have head : after.head? = some (.ofWord first) := by
    rw [← tokens]
    cases names <;> rfl
  have legal : Legal after := by
    intro token same
    cases head.symm.trans same
    simp [Token.ofWord]
  have distinct : Reads (takeWord "distinct") after 1 false after 1 :=
    .noWord legal (by rw [head]; exact isWord_ofWord here (by decide))
  have all : Reads (takeWord "all") after 1 false after 1 :=
    .noWord legal (by rw [head]; exact isWord_ofWord here (by decide))
  -- What is left is to put the readings in a row.
  refine (Reads.get.bind (.pure _)).bind ?_
  refine (Reads.expectWord rfl (by decide) (by decide)).bind ?_
  refine distinct.bind (all.bind (columns.bind ?_))
  refine (Reads.expectWord rfl (by decide) (by decide)).bind ?_
  -- Nothing follows the table.
  exact named.bind rfl

end Parse

/-- The tokens of plain names from a table spell their selection. -/
theorem Selection.ofTokens_names {names : List String} (filled : names ≠ [])
    (plain : ∀ name ∈ names, IsPlainName name) {table : String} (free : isKeyword table = false) :
    Selection.ofTokens
        (.ofWord "SELECT" :: Parse.nameTokens names ++ [.ofWord "FROM", .ofWord table]) =
      .ok { columns := names.map fun name => (.name { name }, name), table } := by
  -- Reading starts with no tokens kept, and nothing is left when it ends.
  cases names with
  | nil => exact absurd rfl filled
  | cons first names =>
    have read := Parse.reads_selection plain free
    unfold Parse.Reads at read
    simp only [Selection.ofTokens, StateT.run, read]
    rfl

end PageServer.Store

import PageServer.Proofs.Fragment
import PageServer.Proofs.Rendering

/-!
Elements can be read back from their markup.

The reader splits an opening tag into names and quoted texts, takes the text up to the closing tag, and
replaces entities in one pass. That is enough to learn what an element was made of: its name, its
attributes in order, and the text it is around.
-/

namespace PageServer.Markup

/-! The reader -/

/-- What an element is made of. -/
structure Element where
  name : String
  attributes : Fields String
  body : String

/-- Replaces entities by the characters they stand for, in one pass from the left. -/
def unescape : List Char → List Char
  | '&' :: 'a' :: 'm' :: 'p' :: ';' :: rest => '&' :: unescape rest
  | '&' :: 'l' :: 't' :: ';' :: rest => '<' :: unescape rest
  | '&' :: 'g' :: 't' :: ';' :: rest => '>' :: unescape rest
  | '&' :: 'q' :: 'u' :: 'o' :: 't' :: ';' :: rest => '"' :: unescape rest
  | c :: rest => c :: unescape rest
  | [] => []

/-- Whether a character may stand in a name: it is no space, and none that tags are made of. -/
def isNameChar (c : Char) : Bool := !([' ', '=', '"', '<', '>', '/'].contains c)

/-- A name that can be told from what is around it. -/
def IsName (name : String) : Prop := name ≠ "" ∧ name.toList.all isNameChar = true

instance (name : String) : Decidable (IsName name) := inferInstanceAs (Decidable (_ ∧ _))

/-- What follows the marks that have to come first. -/
def skip? : List Char → List Char → Option (List Char)
  | [], chars => some chars
  | mark :: marks, c :: chars => if mark = c then skip? marks chars else none
  | _ :: _, [] => none

/-- Splits a name from what follows it. -/
def splitName? (chars : List Char) : Option (String × List Char) :=
  match chars.takeWhile isNameChar with
  | [] => none
  | name => some (String.ofList name, chars.dropWhile isNameChar)

/-- Splits a text from the mark that ends it, and replaces its entities. -/
def splitText? (mark : Char) (chars : List Char) : Option (String × List Char) :=
  match chars.dropWhile (· != mark) with
  | [] => none
  | _ :: rest => some (String.ofList (unescape (chars.takeWhile (· != mark))), rest)

/-- Reads one attribute: a space, a name, and a quoted text. -/
def readAttribute? (chars : List Char) : Option ((String × String) × List Char) := do
  let chars ← skip? [' '] chars
  let (name, chars) ← splitName? chars
  let chars ← skip? ['=', '"'] chars
  let (text, chars) ← splitText? '"' chars
  return ((name, text), chars)

/-- What is left after skipped marks is no longer than before. -/
theorem length_skip? {marks chars rest : List Char} (skipped : skip? marks chars = some rest) :
    rest.length ≤ chars.length := by
  -- Each mark takes one character.
  fun_induction skip? marks chars with
  | case1 chars =>
    cases skipped
    exact le_rfl
  | case2 mark marks chars ih => exact (ih skipped).trans (Nat.le_succ _)
  | case3 => cases skipped
  | case4 => cases skipped

/-- What is left after a name is no longer than before. -/
theorem length_splitName? {chars rest : List Char} {name : String}
    (found : splitName? chars = some (name, rest)) : rest.length ≤ chars.length := by
  unfold splitName? at found
  split at found
  · cases found
  -- The name is what stands before the first character that no name has.
  · cases found
    exact (List.dropWhile_sublist _).length_le

/-- What is left after a text is shorter, by its closing mark at least. -/
theorem length_splitText? {mark : Char} {chars rest : List Char} {text : String}
    (found : splitText? mark chars = some (text, rest)) : rest.length < chars.length := by
  -- What follows the mark is what is left of the text without it.
  unfold splitText? at found
  split at found
  · cases found
  · rename_i first after dropped
    cases found
    have shorter := (List.dropWhile_sublist (l := chars) (· != mark)).length_le
    rwa [dropped, List.length_cons] at shorter

/-- An attribute takes some of the markup it is read from. -/
theorem length_readAttribute? {chars rest : List Char} {entry : String × String}
    (read : readAttribute? chars = some (entry, rest)) : rest.length < chars.length := by
  -- Only the quoted text is known to take something, and that is enough.
  simp only [readAttribute?, Option.bind_eq_bind, Option.bind_eq_some_iff] at read
  obtain ⟨spaced, space, ⟨name, named⟩, split, quoted, quote, ⟨text, after⟩, held, built⟩ := read
  cases built
  calc
    after.length < quoted.length := length_splitText? held
    _ ≤ named.length := length_skip? quote
    _ ≤ spaced.length := length_splitName? split
    _ ≤ chars.length := length_skip? space

/-- Reads attributes as long as there are any, and leaves what follows them. -/
def readAttributes (chars : List Char) : Fields String × List Char :=
  match read : readAttribute? chars with
  | none => ([], chars)
  | some (entry, rest) =>
    have := length_readAttribute? read
    let (others, after) := readAttributes rest
    (entry :: others, after)
termination_by chars.length

/-- Reads an element around a text. -/
def readElement? (markup : String) : Option Element := do
  let chars ← skip? ['<'] markup.toList
  let (name, chars) ← splitName? chars
  let (attributes, chars) := readAttributes chars
  let chars ← skip? ['>'] chars
  let (body, chars) ← splitText? '<' chars
  if chars = '/' :: name.toList ++ ['>'] then some { name, attributes, body } else none

/-! Reading what was written -/

/-- One pass takes each escaped character back. -/
theorem unescape_escapeChar (c : Char) (rest : List Char) :
    unescape (escapeChar c ++ rest) = c :: unescape rest := by
  -- The entities are told apart by their letters, and any other character begins none.
  unfold escapeChar
  split_ifs with ampersand less greater quote
  · rw [ampersand]
    rfl
  · rw [less]
    rfl
  · rw [greater]
    rfl
  · rw [quote]
    rfl
  · simp [unescape, ampersand]

/-- What was escaped is taken back to what it was. -/
theorem unescape_escape (text : String) : unescape (escape text).toList = text.toList := by
  -- The pass never stops inside an entity, so it meets the characters as they were written.
  rw [escape, String.toList_ofList]
  induction text.toList with
  | nil => rfl
  | cons c rest ih => rw [List.flatMap_cons, unescape_escapeChar, ih]

/-- A piece of a text shows no quote and no bracket. -/
theorem Piece.no_mark {piece : String} (single : Piece piece) {c : Char} (member : c ∈ piece.toList) :
    c ∉ ['<', '>', '"'] := by
  -- A plain character is none of them, and an entity is spelled without them.
  cases single with
  | plain ordinary =>
    obtain rfl : c = _ := by simpa using member
    exact fun mark => ordinary (List.mem_cons_of_mem _ mark)
  | entity listed =>
    have clean : ∀ name ∈ entities, name.toList.all (fun c => !(['<', '>', '"'].contains c)) := by
      decide
    simpa using List.all_eq_true.mp (clean _ listed) c member

/-- What is quoted shows no quote and no bracket. -/
theorem Quoted.no_mark {text : String} (quoted : Quoted text) {c : Char} (member : c ∈ text.toList) :
    c ∉ ['<', '>', '"'] := by
  -- The character is in one of the pieces.
  induction quoted with
  | empty => simp at member
  | piece first _ ih =>
    rw [String.toList_append, List.mem_append] at member
    exact member.elim first.no_mark ih

/-- Nothing to skip leaves everything. -/
theorem skip?_nil (rest : List Char) : skip? [] rest = some rest := rfl

/-- A mark that comes first is passed. -/
theorem skip?_cons_self (mark : Char) (marks rest : List Char) :
    skip? (mark :: marks) (mark :: rest) = skip? marks rest := if_pos rfl

/-- A name is split off where something else begins. -/
theorem splitName?_append {name : String} (named : IsName name) {rest : List Char}
    (ends : rest.dropWhile isNameChar = rest) : splitName? (name.toList ++ rest) = some (name, rest) := by
  obtain ⟨nonempty, allowed⟩ := named
  rw [List.all_eq_true] at allowed
  -- What is left whole has nothing taken from it.
  have nothing : rest.takeWhile isNameChar = [] := by
    have parts := List.takeWhile_append_dropWhile (p := isNameChar) (l := rest)
    rwa [ends, List.append_left_eq_self] at parts
  have taken : (name.toList ++ rest).takeWhile isNameChar = name.toList := by
    rw [List.takeWhile_append_of_pos allowed, nothing, List.append_nil]
  have left : (name.toList ++ rest).dropWhile isNameChar = rest := by
    rw [List.dropWhile_append_of_pos allowed, ends]
  unfold splitName?
  rw [taken, left]
  split
  · rename_i blank
    exact absurd (String.toList_eq_nil_iff.mp blank) nonempty
  · rw [String.ofList_toList]

/-- An escaped text is split off at the mark that ends it, and comes back as it was. -/
theorem splitText?_append {mark : Char} (special : mark ∈ ['<', '>', '"']) (text : String)
    (rest : List Char) : splitText? mark ((escape text).toList ++ mark :: rest) = some (text, rest) := by
  -- The text does not show the mark, so the search goes through to the one behind it.
  have inside : ∀ c ∈ (escape text).toList, (c != mark) = true := by
    intro c member
    rw [bne_iff_ne]
    rintro rfl
    exact (escape_isQuoted text).no_mark member special
  unfold splitText?
  rw [List.dropWhile_append_of_pos inside, List.takeWhile_append_of_pos inside]
  simp [unescape_escape]

/-- An attribute is read back from between what is around it. -/
theorem readAttribute?_append {name : String} (named : IsName name) (text : String) (rest : List Char) :
    readAttribute? ((" " ++ name ++ "=\"" ++ escape text ++ "\"").toList ++ rest) =
      some ((name, text), rest) := by
  -- The name ends at the sign behind it, and the text at the second quote.
  let held := (escape text).toList ++ '"' :: rest
  have written : (" " ++ name ++ "=\"" ++ escape text ++ "\"").toList ++ rest =
      ' ' :: (name.toList ++ '=' :: '"' :: held) := by
    simp [held]
  have split : splitName? (name.toList ++ '=' :: '"' :: held) = some (name, '=' :: '"' :: held) :=
    splitName?_append named rfl
  have quoted : splitText? '"' held = some (text, rest) := splitText?_append (by simp) text rest
  simp only [readAttribute?, written, skip?_cons_self, skip?_nil, Option.bind_eq_bind, Option.bind_some,
    split, quoted]
  rfl

/-- Where no attribute begins, none is read. -/
theorem readAttributes_of_none {chars : List Char} (read : readAttribute? chars = none) :
    readAttributes chars = ([], chars) := by
  -- The reader looks for an attribute before all else, and there is none.
  rw [readAttributes]
  split <;> simp_all

/-- Where an attribute begins, it is read before those that follow it. -/
theorem readAttributes_of_some {chars rest : List Char} {entry : String × String}
    (read : readAttribute? chars = some (entry, rest)) :
    readAttributes chars = (entry :: (readAttributes rest).1, (readAttributes rest).2) := by
  -- What is left is shorter, so the reader goes on with it.
  rw [readAttributes]
  split <;> simp_all

/-- Attributes with their texts escaped. -/
def escaped (attributes : Fields String) : Fields String :=
  attributes.map fun entry => (entry.1, escape entry.2)

/-- Attributes are read back in order, up to where no other begins. -/
theorem readAttributes_append {attributes : Fields String} (named : ∀ entry ∈ attributes, IsName entry.1)
    {rest : List Char} (ends : readAttribute? rest = none) :
    readAttributes ((attributeRun (escaped attributes)).toList ++ rest) = (attributes, rest) := by
  -- The induction is on the attributes, of which the reader takes one at a time.
  induction attributes with
  | nil => exact readAttributes_of_none ends
  | cons entry others ih =>
    obtain ⟨here, later⟩ := List.forall_mem_cons.mp named
    -- The reader takes the first attribute, and leaves the run of the others.
    have first := readAttribute?_append here entry.2 ((attributeRun (escaped others)).toList ++ rest)
    rw [← List.append_assoc, ← String.toList_append] at first
    change readAttribute? ((attributeRun (escaped (entry :: others))).toList ++ rest) = _ at first
    rw [readAttributes_of_some first, ih later]

/-- Behind the name of an element, no character of a name follows. -/
theorem dropWhile_attributeRun (attributes : Fields String) (rest : List Char) :
    ((attributeRun attributes).toList ++ '>' :: rest).dropWhile isNameChar =
      (attributeRun attributes).toList ++ '>' :: rest := by
  -- A space follows if there are attributes, and a bracket if there are none.
  cases attributes with
  | nil => rfl
  | cons entry others =>
    have blank : isNameChar ' ' = false := by rfl
    simp [attributeRun, blank]

/-- An element around a text is read back. -/
theorem readElement?_written {name : String} {attributes : Fields String} (named : IsName name)
    (names : ∀ entry ∈ attributes, IsName entry.1) (body : String) :
    readElement? (opening name (escaped attributes) ++ escape body ++ closing name) =
      some { name, attributes, body } := by
  -- The parts of the element, as they follow each other.
  let after := '/' :: name.toList ++ ['>']
  let inner := (escape body).toList ++ '<' :: after
  let run := (attributeRun (escaped attributes)).toList ++ '>' :: inner
  have written : (opening name (escaped attributes) ++ escape body ++ closing name).toList =
      '<' :: (name.toList ++ run) := by
    simp [opening, closing, run, inner, after]
  have split : splitName? (name.toList ++ run) = some (name, run) :=
    splitName?_append named (dropWhile_attributeRun _ _)
  have ends : readAttribute? ('>' :: inner) = none := by rfl
  have listed : readAttributes run = (attributes, '>' :: inner) := readAttributes_append names ends
  have held : splitText? '<' inner = some (body, after) := splitText?_append (by simp) body after
  simp only [readElement?, written, skip?_cons_self, skip?_nil, Option.bind_eq_bind, Option.bind_some,
    split, listed, held]
  exact if_pos rfl

/-! Writing -/

/-- The text of a value as an attribute, if it has one. -/
def plainText : Value → String
  | .text text => text
  | .int n => Text.decimal n
  | _ => ""

/-- Attributes by the texts of their values. -/
def plainTexts (fields : Fields Value) : Fields String :=
  fields.map fun entry => (entry.1, plainText entry.2)

/-- A value that has a text is written as that text. -/
theorem attributeText_of_hasText {value : Value} (has : value.HasText) :
    attributeText value = .ok (plainText value) := by
  cases value with
  | text text => rfl
  | int n =>
    -- A number has a text if it is short enough to be written.
    have within : Text.withinLimit n = true := (withinLimit_iff n).mpr has
    simp only [attributeText, numberText, within, if_true, plainText]
  | _ => exact has.elim

/-- Attributes with texts are written one by one. -/
theorem attributeList_of_hasText {fields : Fields Value} (texts : ∀ entry ∈ fields, entry.2.HasText) :
    ∃ written, attributeList fields = .ok written ∧
      String.join (written.map (" " ++ ·)) = attributeRun (escaped (plainTexts fields)) := by
  -- None of them fails, so all are written in the order of the record.
  induction fields with
  | nil => exact ⟨[], rfl, rfl⟩
  | cons entry rest ih =>
    obtain ⟨here, later⟩ := List.forall_mem_cons.mp texts
    obtain ⟨others, listed, run⟩ := ih later
    refine ⟨(entry.1 ++ "=\"" ++ escape (plainText entry.2) ++ "\"") :: others, ?_, ?_⟩
    · simp only [attributeList, attributePair, attributeText_of_hasText here, listed]
      rfl
    · simp [run, plainTexts, escaped, attributeRun, String.append_assoc]

/-- An element whose attributes have texts is an opening tag, a body, and a closing tag. -/
theorem element_of_hasText {fields : Fields Value} (texts : ∀ entry ∈ fields, entry.2.HasText)
    (name body : String) : element name body fields =
      .ok (opening name (escaped (plainTexts fields)) ++ body ++ closing name) := by
  -- The attributes are written as a run, and the element is put around it.
  obtain ⟨written, listed, run⟩ := attributeList_of_hasText texts
  exact element_of_attributeList listed run name body

/-- Attributes that can be written and read: names, and values that have a text. -/
def AreLegible (fields : Fields Value) : Prop := ∀ entry ∈ fields, IsName entry.1 ∧ entry.2.HasText

/-- Applies an element to its attributes, and what that makes to the text it is around. -/
def applied (depth : Nat) (name : String) (fields : Fields Value) (body : String) : Run Value := do
  apply depth (← apply depth (.tag name) (.record fields)) (.text body)

/-- An element with legible attributes is applied to a text without faults. -/
theorem applied_of_legible {fields : Fields Value} (legible : AreLegible fields) (depth : Nat)
    (name body : String) (machine : Machine) :
    applied depth name fields body machine =
      (.done (.raw (opening name (escaped (plainTexts fields)) ++ escape body ++ closing name)),
        machine) := by
  -- The first application only keeps the attributes; the second writes all at once.
  have written := element_of_hasText (fun entry member => (legible entry member).2) name (escape body)
  have made : applied depth name fields body =
      Run.lift (do return .raw (← element name (escape body) fields)) := rfl
  rw [made, written]
  rfl

/-- The reader takes an element with legible attributes back apart. -/
theorem readElement?_of_legible {name : String} {fields : Fields Value} (named : IsName name)
    (legible : AreLegible fields) (body : String) :
    readElement? (opening name (escaped (plainTexts fields)) ++ escape body ++ closing name) =
      some { name, attributes := plainTexts fields, body } := by
  -- The names of the attributes are those of the fields.
  refine readElement?_written named ?_ body
  intro entry member
  obtain ⟨field, inside, rfl⟩ := List.mem_map.mp member
  exact (legible field inside).1

/--
An element can be read back from its markup.

Applied to its attributes and then to a text, an element makes markup from which its name, the names of
its attributes in order with their texts, and the text come back. So no other element makes that markup.
-/
theorem element_read_back {name : String} {fields : Fields Value} (named : IsName name)
    (legible : AreLegible fields) (body : String) (depth : Nat) (machine : Machine) :
    ∃ markup, applied depth name fields body machine = (.done (.raw markup), machine) ∧
      readElement? markup = some { name, attributes := plainTexts fields, body } ∧
      ∀ otherName otherFields otherBody otherDepth otherMachine,
        IsName otherName → AreLegible otherFields →
        applied otherDepth otherName otherFields otherBody otherMachine =
          (.done (.raw markup), otherMachine) →
        name = otherName ∧ plainTexts fields = plainTexts otherFields ∧ body = otherBody := by
  have read := readElement?_of_legible named legible body
  refine ⟨opening name (escaped (plainTexts fields)) ++ escape body ++ closing name,
    applied_of_legible legible depth name body machine, read, ?_⟩
  intro otherName otherFields otherBody otherDepth otherMachine otherNamed otherLegible same
  -- Equal markup is read alike.
  have otherRead := readElement?_of_legible otherNamed otherLegible otherBody
  rw [applied_of_legible otherLegible, Prod.mk.injEq, Outcome.done.injEq, Value.raw.injEq] at same
  rw [same.1, read, Option.some.injEq, Element.mk.injEq] at otherRead
  exact otherRead

/-- A link whose attributes and text hold what markup is made of. -/
def link : Fields Value := [("href", .text "/?q=\"&quot;\""), ("title", .text "<i> =\"")]

/-- Texts that look like markup, or like entities, come back as they were. -/
theorem element_read_back_link : IsName "a" ∧ AreLegible link ∧
    ∃ markup, applied 0 "a" link "&lt;/a>" { clock := fun _ => 0 } =
        (.done (.raw markup), { clock := fun _ => 0 }) ∧
      readElement? markup = some {
        name := "a"
        attributes := [("href", "/?q=\"&quot;\""), ("title", "<i> =\"")]
        body := "&lt;/a>" } := by
  -- The names are legible as they stand; the texts in them may be anything.
  have named : IsName "a" := by decide
  have legible : AreLegible link := by
    have names : IsName "href" ∧ IsName "title" := by decide
    simp [AreLegible, link, names, Value.HasText]
  obtain ⟨markup, made, read, _⟩ := element_read_back named legible "&lt;/a>" 0 { clock := fun _ => 0 }
  exact ⟨named, legible, markup, made, read⟩

end PageServer.Markup

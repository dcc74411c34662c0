import PageServer.Sql.Name
import PageServer.Store.Keyword

/-! Plain words: names of letters, digits and underscores with nothing after them. -/

namespace PageServer.Sql

/-- Whether a text is a word: a letter or an underscore, then letters, digits and underscores. -/
def isWord (text : String) : Bool :=
  match text.toList with
  | [] => false
  | c :: rest => isNameStart c && rest.all isNameChar

/-- What may start a name may also stand in it. -/
theorem isNameChar_of_isNameStart {c : Char} (start : isNameStart c = true) :
    isNameChar c = true := by
  -- A name may have digits besides what may start it.
  simp only [isNameStart, isNameChar, Char.isAlphanum, Bool.or_eq_true] at start ⊢
  exact start.imp_left Or.inl

/-- A word is a first character that may start a name and others that may stand in one. -/
theorem isWord_cases {text : String} (word : isWord text = true) :
    ∃ c rest, text.toList = c :: rest ∧ isNameStart c = true ∧
      ∀ d ∈ c :: rest, isNameChar d = true := by
  -- The first character has to start a name, which one that stands in a name need not do.
  unfold isWord at word
  split at word
  · cases word
  · rename_i c rest spelled
    simp only [Bool.and_eq_true, List.all_eq_true] at word
    refine ⟨c, rest, spelled, word.1, ?_⟩
    intro d member
    rcases List.mem_cons.mp member with rfl | member
    · exact isNameChar_of_isNameStart word.1
    · exact word.2 d member

/-- Every character of a word may stand in a name. -/
theorem isNameChar_of_isWord {text : String} (word : isWord text = true) {c : Char}
    (member : c ∈ text.toList) : isNameChar c = true := by
  -- A word begins with a character, so it is one of those that were checked.
  obtain ⟨first, rest, spelled, _, chars⟩ := isWord_cases word
  exact chars c (spelled ▸ member)

/-- A word may stand in a statement as a name. -/
theorem isName_of_isWord {text : String} (word : isWord text = true) : isName text = true := by
  obtain ⟨c, rest, spelled, start, chars⟩ := isWord_cases word
  -- The rest of a name is checked character by character.
  have named : ∀ rest : List Char, (∀ d ∈ rest, isNameChar d = true) → isNameRest rest = true := by
    intro rest
    induction rest with
    | nil => exact fun _ => rfl
    | cons d rest ih =>
      intro chars
      obtain ⟨here, later⟩ := List.forall_mem_cons.mp chars
      unfold isNameRest
      split
      · rfl
      · rfl
      · rename_i same
        cases same
        simp [here, ih later]
  simp [isName, spelled, start, named rest fun d member => chars d (List.mem_cons_of_mem c member)]

/-- A line feed does not stand in names. -/
theorem ne_linefeed_of_isNameChar {c : Char} (stands : isNameChar c = true) : c ≠ '\n' := by
  rintro rfl
  -- Neither a letter nor a digit nor an underscore is one.
  exact absurd stands (by decide)

end PageServer.Sql

namespace PageServer.Store

/-- A word is read as it is. -/
theorem bareName_of_isWord {name : String} (word : Sql.isWord name = true) :
    bareName name = name := by
  -- Only line feeds are left out, and there are none.
  have kept : (name.toList.filter fun c => c != '\n') = name.toList := by
    rw [List.filter_eq_self]
    intro c member
    simpa using Sql.ne_linefeed_of_isNameChar (Sql.isNameChar_of_isWord word member)
  rw [bareName, kept, String.ofList_toList]

end PageServer.Store

import PageServer.Library
import PageServer.Markup
import PageServer.Proofs.Basic

/-!
The grammar of finished markup, and rendering as a way to stay inside it.

A word of the grammar is a sequence of plain characters, entities, and two-sided elements around such
words. Attribute values hold no elements. Whatever is escaped is a word without elements.
-/

namespace PageServer.Markup

/-- The characters that markup gives a meaning of its own. -/
def special : List Char := ['&', '<', '>', '"']

/-- The entities that stand for them. -/
def entities : List String := ["&amp;", "&lt;", "&gt;", "&quot;"]

/-- One piece of a text in markup. -/
inductive Piece : String → Prop where
  /-- A character without a meaning of its own. -/
  | plain {c : Char} : c ∉ special → Piece (String.singleton c)
  /-- An entity. -/
  | entity {name : String} : name ∈ entities → Piece name

/-- A text in markup: pieces one after the other, and no elements. -/
inductive Quoted : String → Prop where
  | empty : Quoted ""
  | piece {first rest : String} : Piece first → Quoted rest → Quoted (first ++ rest)

/-- Attributes as an opening tag has them, each after a space. -/
def attributeRun : Fields String → String
  | [] => ""
  | (name, value) :: rest => " " ++ name ++ "=\"" ++ value ++ "\"" ++ attributeRun rest

/-- The opening tag of an element. -/
def opening (name : String) (attributes : Fields String) : String :=
  "<" ++ name ++ attributeRun attributes ++ ">"

/-- The closing tag of an element. -/
def closing (name : String) : String := "</" ++ name ++ ">"

/-- Markup whose attributes have allowed names: pieces and balanced elements, one after the other. -/
inductive Fragment (allowed : String → Prop) : String → Prop where
  | empty : Fragment allowed ""
  | piece {first rest : String} :
    Piece first → Fragment allowed rest → Fragment allowed (first ++ rest)
  | element {name inner rest : String} {attributes : Fields String} :
    name ∈ Library.elements → (∀ entry ∈ attributes, allowed entry.1 ∧ Quoted entry.2) →
    Fragment allowed inner → Fragment allowed rest →
    Fragment allowed (opening name attributes ++ inner ++ closing name ++ rest)

namespace Fragment

variable {allowed : String → Prop}

/-- A text without elements is markup under any names. -/
theorem ofQuoted {text : String} (quoted : Quoted text) : Fragment allowed text := by
  -- Every rule of texts is one of markup too.
  induction quoted with
  | empty => exact .empty
  | piece first _ ih => exact .piece first ih

/-- Markup after markup is markup. -/
theorem append {first second : String} (before : Fragment allowed first)
    (after : Fragment allowed second) : Fragment allowed (first ++ second) := by
  -- The first word is taken apart from the left, and the second waits at its end.
  induction before with
  | empty => simpa using after
  | piece head _ ih =>
    rw [String.append_assoc]
    exact .piece head ih
  | element known attributes inner _ _ ih =>
    rw [String.append_assoc]
    exact .element known attributes inner ih

/-- An element by itself is markup. -/
theorem single {name inner : String} {attributes : Fields String}
    (known : name ∈ Library.elements)
    (quoted : ∀ entry ∈ attributes, allowed entry.1 ∧ Quoted entry.2)
    (held : Fragment allowed inner) :
    Fragment allowed (opening name attributes ++ inner ++ closing name) := by
  -- The general rule has more markup behind the element, here there is none.
  simpa using Fragment.element known quoted held .empty

end Fragment

/-- Each character is written as one piece. -/
theorem escapeChar_isPiece (c : Char) : Piece (String.ofList (escapeChar c)) := by
  -- The four special characters have their entities; any other stands for itself.
  unfold escapeChar
  split
  · exact .entity (by decide)
  · split
    · exact .entity (by decide)
    · split
      · exact .entity (by decide)
      · split
        · exact .entity (by decide)
        · exact .plain (by simp_all [special])

/-- An escaped text has no elements in it. -/
theorem escape_isQuoted (text : String) : Quoted (escape text) := by
  -- Escaping goes character by character, and each becomes one piece.
  unfold escape
  induction text.toList with
  | nil => exact .empty
  | cons c rest ih =>
    rw [List.flatMap_cons, String.ofList_append]
    exact .piece (escapeChar_isPiece c) ih

/-- Characters without a meaning of their own make a text in markup. -/
theorem quoted_ofList {cs : List Char} (plain : ∀ c ∈ cs, c ∉ special) :
    Quoted (String.ofList cs) := by
  -- Each character is a piece of its own.
  induction cs with
  | nil => exact .empty
  | cons c rest ih =>
    rw [String.ofList_cons]
    exact .piece (.plain (plain c (by simp))) (ih fun d member => plain d (by simp [member]))

/-- A natural number in decimal has digits only. -/
theorem decimal_nat_isQuoted (n : Nat) : Quoted (toString n) := by
  -- Digits are none of the four special characters.
  rw [Nat.toString_eq_ofList_toDigits]
  apply quoted_ofList
  intro c member
  have digit : c.isDigit := Nat.isDigit_of_mem_toDigits (by omega) (by omega) member
  intro listed
  simp only [special, List.mem_cons, List.not_mem_nil, or_false] at listed
  rcases listed with rfl | rfl | rfl | rfl <;> simp [Char.isDigit] at digit

/-- A whole number in decimal has digits only, and perhaps a sign. -/
theorem decimal_isQuoted (n : Int) : Quoted (Text.decimal n) := by
  -- A negative number is a sign before a natural one.
  cases n with
  | ofNat n => exact decimal_nat_isQuoted n
  | negSucc n =>
    have signed : Text.decimal (.negSucc n) = String.singleton '-' ++ toString (n + 1) := by
      rfl
    rw [signed]
    exact .piece (.plain (by decide)) (decimal_nat_isQuoted (n + 1))

/-- A number that is written has digits only, and perhaps a sign. -/
theorem numberText_isQuoted {n : Int} {text : String} (written : numberText n = .ok text) :
    Quoted text := by
  -- A number with too many digits is not written at all.
  unfold numberText at written
  split at written
  · cases written
    exact decimal_isQuoted n
  · cases written

/-- Written attributes are those of an opening tag, each value quoted. -/
theorem attributeList_written {fields : Fields Value} {written : List String}
    (listed : attributeList fields = .ok written) :
    ∃ attributes : Fields String, attributes.keys = fields.keys ∧
      (∀ entry ∈ attributes, Quoted entry.2) ∧
      String.join (written.map (" " ++ ·)) = attributeRun attributes := by
  -- The induction follows the record, and each attribute keeps its place.
  induction fields generalizing written with
  | nil =>
    cases listed
    exact ⟨[], rfl, by simp, rfl⟩
  | cons entry rest ih =>
    obtain ⟨name, value⟩ := entry
    simp only [attributeList, bind_eq_ok] at listed
    obtain ⟨first, paired, others, later, built⟩ := listed
    cases built
    -- The value of the attribute is a text, which is escaped between the quotes.
    simp only [attributePair, bind_eq_ok] at paired
    obtain ⟨text, _, built⟩ := paired
    cases built
    obtain ⟨attributes, keys, quoted, joined⟩ := ih later
    refine ⟨(name, escape text) :: attributes, ?_, ?_, ?_⟩
    · simpa [Fields.keys] using keys
    · intro entry member
      rcases List.mem_cons.mp member with rfl | member
      · exact escape_isQuoted text
      · exact quoted entry member
    · simp [attributeRun, ← joined, String.append_assoc]

/-- Texts with a space between them, behind a space, are texts behind a space each. -/
theorem space_intercalate {written : List String} (present : written ≠ []) :
    " " ++ " ".intercalate written = String.join (written.map (" " ++ ·)) := by
  -- A space stands before each text on the right, and between them on the left.
  induction written with
  | nil => exact absurd rfl present
  | cons first rest ih =>
    cases rest with
    | nil => simp
    | cons second others =>
      rw [String.intercalate_cons_cons, List.map_cons, String.join_cons, ← ih (by simp)]
      simp [String.append_assoc]

/-- An element whose attributes are written is its opening tag, its body and its closing tag. -/
theorem element_of_attributeList {fields : Fields Value} {written : List String}
    {attributes : Fields String} (listed : attributeList fields = .ok written)
    (run : String.join (written.map (" " ++ ·)) = attributeRun attributes) (name body : String) :
    element name body fields = .ok (opening name attributes ++ body ++ closing name) := by
  cases fields with
  | nil =>
    -- Without attributes the opening tag is bare.
    cases listed
    simp [element, opening, ← run, closing, String.append_assoc]
  | cons entry rest =>
    -- As there is a field, something is written for it.
    have present : written ≠ [] := by
      rintro rfl
      simp only [attributeList, bind_eq_ok] at listed
      obtain ⟨_, _, _, _, impossible⟩ := listed
      cases impossible
    have opened : opening name attributes =
        "<" ++ name ++ (" " ++ " ".intercalate written) ++ ">" := by
      rw [opening, ← run, space_intercalate present]
    simp [element, Markup.attributes, listed, opened, closing, String.append_assoc, Bind.bind,
      Except.bind, Pure.pure, Except.pure]

/-- An element that is written had its attributes written. -/
theorem attributeList_of_element {name body markup : String} {fields : Fields Value}
    (built : element name body fields = .ok markup) : ∃ written, attributeList fields = .ok written := by
  -- Without attributes the list is empty, and with some it is written first.
  unfold element at built
  split at built
  · rename_i bare
    rw [List.isEmpty_iff.mp bare]
    exact ⟨[], rfl⟩
  · simp only [attributes, bind_eq_ok] at built
    obtain ⟨_, ⟨written, listed, _⟩, _⟩ := built
    exact ⟨written, listed⟩

/-- An element that is written around markup, under allowed attribute names, is markup. -/
theorem element_isFragment {allowed : String → Prop} {name body markup : String}
    {fields : Fields Value} (known : name ∈ Library.elements)
    (names : ∀ key ∈ fields.keys, allowed key) (inner : Fragment allowed body)
    (built : element name body fields = .ok markup) : Fragment allowed markup := by
  -- What is written is compared with the opening and closing tags of the grammar.
  obtain ⟨written, listed⟩ := attributeList_of_element built
  obtain ⟨attributes, keys, quoted, run⟩ := attributeList_written listed
  rw [element_of_attributeList listed run] at built
  cases built
  -- Each attribute has a name of the record and a value without quotes.
  have allowedNames : ∀ entry ∈ attributes, allowed entry.1 ∧ Quoted entry.2 := by
    intro entry member
    refine ⟨names entry.1 ?_, quoted entry member⟩
    rw [← keys]
    exact List.mem_map_of_mem member
  exact Fragment.single known allowedNames inner

/-- Values that each render as markup render as markup one after the other. -/
theorem renderAll_isFragment {allowed : String → Prop} {items : List Value} {markup : String}
    (each : ∀ item ∈ items, ∀ {written}, render item = .ok written → Fragment allowed written)
    (rendered : renderAll items = .ok markup) : Fragment allowed markup := by
  -- The induction is on the items, whose markup is joined in order.
  induction items generalizing markup with
  | nil =>
    simp only [renderAll, Except.ok.injEq] at rendered
    subst rendered
    exact .empty
  | cons item rest ih =>
    simp only [renderAll, bind_eq_ok] at rendered
    obtain ⟨first, here, others, later, built⟩ := rendered
    cases built
    -- The first item's markup stands in front of the markup of the others.
    have before := each item (by simp) here
    exact before.append (ih (fun other member => each other (by simp [member])) later)

end PageServer.Markup

import Mathlib.Data.List.Nodup
import PageServer.Proofs.Path
import PageServer.Proofs.Word
import PageServer.Web.Site

/-!
The router and the patterns agree.

The route that is written for a pattern accepts a path exactly when the pattern matches it, and captures
the same texts. So requests are dispatched by the patterns of the endpoints.
-/

namespace PageServer.Web

open PageServer.Path

/-- The rule of the router: captures take pieces, the rest is exact, and the whole path is taken. -/
inductive Follows : List Step → List Char → Taken → Prop where
  | nil : Follows [] [] []
  | exact (c : Char) {steps : List Step} {path : List Char} {taken : Taken} :
    Follows steps path taken → Follows (.exact c :: steps) (c :: path) taken
  | capture (name : String) {piece : List Char} {steps : List Step} {path : List Char}
    {taken : Taken} : IsPiece piece → Follows steps path taken →
    Follows (.capture name .segment :: steps) (piece ++ path) ((name, .segment, piece) :: taken)

/-- The router reads the whole path: what a route accepts, it accepts by the rule. -/
def ReadsWhole (route path : String) : Prop :=
  ∀ found taken, steps route = .ok found → follow found path.toList = some taken →
    Follows found path.toList taken

/-- The steps of a segment. -/
def segmentSteps : Segment → List Step
  | .literal text => text.toList.map .exact
  | .capture name => [.capture name .segment]

/-- The steps of segments, a slash before each. -/
def slashedSteps (segments : List Segment) : List Step :=
  segments.flatMap fun segment => .exact '/' :: segmentSteps segment

/-- The steps of a pattern. -/
def patternSteps (pattern : Pattern) : List Step :=
  if pattern.segments = [] then [.exact '/'] else slashedSteps pattern.segments

/-- A pattern that was read, with words for names, none of them twice, and no braces elsewhere. -/
structure IsPlainPattern (pattern : Pattern) : Prop where
  read : ∃ text, Pattern.parse text = .ok pattern
  words : ∀ name ∈ pattern.captures, Sql.isWord name = true
  distinct : pattern.captures.Nodup
  unbraced : ∀ literal, .literal literal ∈ pattern.segments →
    '\x7b' ∉ literal.toList ∧ '\x7d' ∉ literal.toList

section Reading

/-- A text is read as these steps, however much fuel is left over. -/
def Spells (text : List Char) (found : List Step) : Prop :=
  ∀ fuel, text.length ≤ fuel → stepsFrom fuel text = .ok found

/-- An empty text is read as no steps. -/
theorem Spells.nil : Spells [] [] := by
  intro fuel _
  cases fuel <;> rfl

/-- A character other than an opening brace stands for itself. -/
theorem Spells.exact {c : Char} (plain : c ≠ '\x7b') {text : List Char} {found : List Step}
    (rest : Spells text found) : Spells (c :: text) (.exact c :: found) := by
  -- The reader takes one character, and needs that much fuel less for the rest.
  intro fuel enough
  cases fuel with
  | zero => simp at enough
  | succ fuel =>
    have later := rest fuel (by simpa using enough)
    simp [stepsFrom, plain, later]

/-- A text without opening braces stands for itself. -/
theorem Spells.literal {text : List Char} (plain : '\x7b' ∉ text) {later : List Char}
    {found : List Step} (rest : Spells later found) :
    Spells (text ++ later) (text.map .exact ++ found) := by
  -- The induction is on the text, one exact step for each character.
  induction text with
  | nil => exact rest
  | cons c text ih =>
    simp only [List.mem_cons, not_or] at plain
    exact (ih plain.2).exact (Ne.symm plain.1)

/-- A word in braces is a capture of a piece. -/
theorem Spells.capture {name : String} (word : Sql.isWord name = true) {later : List Char}
    {found : List Step} (rest : Spells later found) :
    Spells ('\x7b' :: name.toList ++ '\x7d' :: later) (.capture name .segment :: found) := by
  obtain ⟨c, others, spelled, start, chars⟩ := Sql.isWord_cases word
  have brace : Sql.isNameChar '\x7d' = false := by decide
  -- The word ends at the closing brace, which may not stand in a name.
  have split : splitWord? (name.toList ++ '\x7d' :: later) = some (name, '\x7d' :: later) := by
    have plain : ∀ d ∈ others, Sql.isNameChar d = true := fun d member =>
      chars d (List.mem_cons_of_mem c member)
    have name_eq : name = String.ofList (c :: others) := by rw [← spelled, String.ofList_toList]
    rw [spelled, List.cons_append, splitWord?, if_pos start, List.takeWhile_append_of_pos plain,
      List.dropWhile_append_of_pos plain]
    simp [brace, name_eq]
  -- What stands between the braces is the word alone, so any piece may be captured.
  have captured : capture? (name.toList ++ '\x7d' :: later) = some (name, "str", later) := by
    simp [capture?, split]
  intro fuel enough
  cases fuel with
  | zero => simp at enough
  | succ fuel =>
    have after := rest fuel (by simp at enough; omega)
    simp [stepsFrom, captured, Shape.ofName?, after]

/-- The routes of segments are read as their steps. -/
theorem Spells.segments {segments : List Segment}
    (words : ∀ name, .capture name ∈ segments → Sql.isWord name = true)
    (unbraced : ∀ literal, .literal literal ∈ segments → '\x7b' ∉ literal.toList) :
    Spells (slashed (segments.map Segment.route)) (slashedSteps segments) := by
  -- The induction is on the segments, each of which follows a slash.
  induction segments with
  | nil => exact .nil
  | cons segment segments ih =>
    have rest := ih (fun name member => words name (List.mem_cons_of_mem _ member))
      (fun literal member => unbraced literal (List.mem_cons_of_mem _ member))
    cases segment with
    | literal text =>
      -- A literal stands for itself.
      have here := unbraced text (List.mem_cons_self ..)
      exact (rest.literal here).exact (by decide)
    | capture name =>
      -- A capture is its name in braces.
      have here := words name (List.mem_cons_self ..)
      have spelled : slashed ((Segment.capture name :: segments).map Segment.route) =
          '/' :: ('\x7b' :: name.toList ++ '\x7d' :: slashed (segments.map Segment.route)) := by
        simp [slashed, Segment.route]
      rw [spelled]
      exact (rest.capture here).exact (by decide)

/-- Steps capture the names of the segments. -/
theorem captures_slashedSteps (segments : List Segment) :
    captures (slashedSteps segments) = Pattern.captures ⟨segments⟩ := by
  -- Only the step of a capture has a name.
  induction segments with
  | nil => rfl
  | cons segment segments ih =>
    simp only [captures, slashedSteps, List.flatMap_cons, List.filterMap_append] at ih ⊢
    rw [ih]
    cases segment with
    | literal text => simp [segmentSteps, Pattern.captures]
    | capture name => simp [segmentSteps, Pattern.captures]

/-- Among distinct names, none is repeated. -/
theorem repeated_of_nodup {names : List String} (distinct : names.Nodup) : repeated names = [] := by
  -- No name is counted more than once.
  have single : (names.filter fun name => names.count name > 1) = [] := by
    rw [List.filter_eq_nil_iff]
    intro name _
    have := List.nodup_iff_count_le_one.mp distinct name
    simp
    omega
  simp [repeated, single]

/-- The route of a plain pattern is read as its steps. -/
theorem steps_route {pattern : Pattern} (plain : IsPlainPattern pattern) :
    steps pattern.route = .ok (patternSteps pattern) := by
  -- The captures of a plain pattern are words.
  have words : ∀ name, .capture name ∈ pattern.segments → Sql.isWord name = true := by
    intro name member
    exact plain.words name (List.mem_filterMap.mpr ⟨_, member, rfl⟩)
  -- The root is a route of one slash, any other one has a slash before each segment.
  have spelled : Spells pattern.route.toList (patternSteps pattern) := by
    have route : pattern.route = ofPieces (pattern.segments.map Segment.route) := rfl
    rw [route, toList_ofPieces]
    by_cases none : pattern.segments = []
    · simp only [none, List.map_nil, if_true, patternSteps]
      exact Spells.nil.exact (by decide)
    · simp only [List.map_eq_nil_iff, none, if_false, patternSteps]
      exact .segments words fun literal member => (plain.unbraced literal member).1
  -- No name is captured twice, as the names of the steps are those of the pattern.
  have names : captures (patternSteps pattern) = pattern.captures := by
    by_cases none : pattern.segments = []
    · simp [patternSteps, none, captures, Pattern.captures]
    · simp only [patternSteps, none, if_false]
      exact captures_slashedSteps pattern.segments
  have read := spelled pattern.route.length (Nat.le_of_eq String.length_toList)
  simp only [steps, read]
  simp [Bind.bind, Except.bind, names, repeated_of_nodup plain.distinct]
  rfl

end Reading

section Following

/-- Exact characters are followed along a path that starts with them. -/
theorem follows_exact {text : List Char} {steps : List Step} {path : List Char} {taken : Taken} :
    Follows (text.map .exact ++ steps) path taken ↔
      ∃ rest, path = text ++ rest ∧ Follows steps rest taken := by
  -- The induction is on the text, of which each character has to be met in the path.
  induction text generalizing path with
  | nil => simp
  | cons c text ih =>
    constructor
    -- The first character is the same on both sides.
    · intro followed
      cases followed with
      | exact _ later =>
        obtain ⟨rest, rfl, still⟩ := ih.mp later
        exact ⟨rest, rfl, still⟩
    · rintro ⟨rest, rfl, still⟩
      exact .exact c (ih.mpr ⟨rest, rfl, still⟩)

/-- What is taken for captured texts. -/
def takenOf (found : Fields String) : Taken :=
  found.map fun entry => (entry.1, .segment, entry.2.toList)

/-- A path has a slash before each of its pieces, and these match segments. -/
def SlashedMatch (segments : List Segment) (path : List Char) (taken : Taken) : Prop :=
  ∃ pieces found, (∀ piece ∈ pieces, IsPiece piece.toList) ∧ path = slashed pieces ∧
    Pattern.matched segments pieces = some found ∧ taken = takenOf found

/-- No segments match the empty path only. -/
theorem slashedMatch_nil {path : List Char} {taken : Taken} :
    SlashedMatch [] path taken ↔ path = [] ∧ taken = [] := by
  -- Only no pieces match no segments, and no pieces make the empty path.
  constructor
  · rintro ⟨pieces, found, _, rfl, same, rfl⟩
    obtain ⟨rfl, rfl⟩ := Pattern.matched_nil.mp same
    exact ⟨rfl, rfl⟩
  · rintro ⟨rfl, rfl⟩
    exact ⟨[], [], by simp, rfl, rfl, rfl⟩

/-- A literal matches a slash and its own text, and takes nothing. -/
theorem slashedMatch_literal {text : String} (clean : IsPiece text.toList) {segments : List Segment}
    {path : List Char} {taken : Taken} :
    SlashedMatch (.literal text :: segments) path taken ↔
      ∃ rest, path = '/' :: text.toList ++ rest ∧ SlashedMatch segments rest taken := by
  -- The first piece of the path has to be the text.
  constructor
  · rintro ⟨pieces, found, pieced, rfl, same, rfl⟩
    obtain ⟨rest, rfl, later⟩ := Pattern.matched_literal.mp same
    have others := (List.forall_mem_cons.mp pieced).2
    exact ⟨slashed rest, rfl, rest, found, others, rfl, later, rfl⟩
  · rintro ⟨_, rfl, pieces, found, pieced, rfl, same, rfl⟩
    refine ⟨text :: pieces, found, List.forall_mem_cons.mpr ⟨clean, pieced⟩, rfl, ?_, rfl⟩
    exact Pattern.matched_literal.mpr ⟨pieces, rfl, same⟩

/-- A capture matches a slash and any piece, which it takes. -/
theorem slashedMatch_capture {name : String} {segments : List Segment} {path : List Char}
    {taken : Taken} :
    SlashedMatch (.capture name :: segments) path taken ↔
      ∃ piece rest later, path = '/' :: (piece ++ rest) ∧ IsPiece piece ∧
        SlashedMatch segments rest later ∧ taken = (name, .segment, piece) :: later := by
  -- The piece that is captured is what stands between the first two slashes.
  constructor
  -- Forth: the piece that was matched is cut off the path.
  · rintro ⟨pieces, found, pieced, rfl, same, rfl⟩
    obtain ⟨piece, rest, later, rfl, after, rfl⟩ := Pattern.matched_capture.mp same
    obtain ⟨here, others⟩ := List.forall_mem_cons.mp pieced
    exact ⟨piece.toList, slashed rest, takenOf later, rfl, here,
      ⟨rest, later, others, rfl, after, rfl⟩, rfl⟩
  -- And back: the piece is put before those that match the rest.
  · rintro ⟨piece, _, _, rfl, here, ⟨pieces, found, others, rfl, same, rfl⟩, rfl⟩
    refine ⟨String.ofList piece :: pieces, (name, String.ofList piece) :: found, ?_, ?_, ?_, ?_⟩
    · exact List.forall_mem_cons.mpr ⟨by simpa using here, others⟩
    · simp [slashed]
    · exact Pattern.matched_capture.mpr ⟨_, pieces, found, rfl, same, rfl⟩
    · simp [takenOf]

/-- A capture is followed along a piece at the start of a path, and takes it. -/
theorem follows_capture {name : String} {steps : List Step} {path : List Char} {taken : Taken} :
    Follows (.capture name .segment :: steps) path taken ↔
      ∃ piece rest later, path = piece ++ rest ∧ IsPiece piece ∧ Follows steps rest later ∧
        taken = (name, .segment, piece) :: later := by
  -- Only the rule for captures follows one.
  constructor
  · intro followed
    cases followed with
    | capture _ pieced still => exact ⟨_, _, _, rfl, pieced, still, rfl⟩
  · rintro ⟨piece, rest, later, rfl, pieced, still, rfl⟩
    exact .capture name pieced still

/-- Following the steps of segments is matching the pieces of the path. -/
theorem follows_slashed {segments : List Segment}
    (clean : ∀ literal, .literal literal ∈ segments → IsPiece literal.toList) {path : List Char}
    {taken : Taken} :
    Follows (slashedSteps segments) path taken ↔ SlashedMatch segments path taken := by
  -- A segment takes a slash and the piece after it, on either side.
  induction segments generalizing path taken with
  | nil =>
    rw [slashedMatch_nil]
    constructor
    · intro followed
      cases followed
      exact ⟨rfl, rfl⟩
    · rintro ⟨rfl, rfl⟩
      exact .nil
  | cons segment segments ih =>
    have rest {path : List Char} {taken : Taken} :=
      @ih (fun literal member => clean literal (List.mem_cons_of_mem _ member)) path taken
    cases segment with
    | literal text =>
      have steps : slashedSteps (.literal text :: segments) =
          ('/' :: text.toList).map .exact ++ slashedSteps segments := rfl
      rw [steps, follows_exact, slashedMatch_literal (clean text (List.mem_cons_self ..))]
      simp only [rest]
    | capture name =>
      have steps : slashedSteps (.capture name :: segments) =
          ['/'].map .exact ++ .capture name .segment :: slashedSteps segments := rfl
      rw [steps, follows_exact, slashedMatch_capture]
      simp only [follows_capture, rest]
      constructor
      · rintro ⟨_, rfl, piece, after, later, rfl, found⟩
        exact ⟨piece, after, later, rfl, found⟩
      · rintro ⟨piece, after, later, rfl, found⟩
        exact ⟨piece ++ after, rfl, piece, after, later, rfl, found⟩

/-- Following the steps of a pattern is matching the pieces of the path. -/
theorem follows_pattern {pattern : Pattern} (plain : IsPlainPattern pattern) {path : List Char}
    {taken : Taken} :
    Follows (patternSteps pattern) path taken ↔
      ∃ pieces found, (∀ piece ∈ pieces, IsPiece piece.toList) ∧ path = (ofPieces pieces).toList ∧
        Pattern.matched pattern.segments pieces = some found ∧ taken = takenOf found := by
  obtain ⟨text, read⟩ := plain.read
  obtain ⟨segments⟩ := pattern
  cases segments with
  | nil =>
    -- The pattern without segments matches no pieces, and its route is one slash.
    constructor
    · intro followed
      obtain _ | ⟨_, followed⟩ := followed
      cases followed
      exact ⟨[], [], by simp, rfl, rfl, rfl⟩
    · rintro ⟨pieces, found, _, rfl, same, rfl⟩
      cases pieces with
      | nil =>
        cases same
        exact .exact '/' .nil
      | cons piece pieces => cases same
  | cons segment segments =>
    have steps : patternSteps ⟨segment :: segments⟩ = slashedSteps (segment :: segments) := by
      simp [patternSteps]
    rw [steps, follows_slashed fun literal member => isPiece_of_literal read member]
    -- Some piece is there, so the path is not the one slash of the root.
    refine exists_congr fun pieces => exists_congr fun found => and_congr_right fun _ => ?_
    cases pieces with
    | nil => cases segment <;> simp [Pattern.matched]
    | cons piece pieces => rw [toList_ofPieces, if_neg (List.cons_ne_nil piece pieces)]

/-- A capture can take any number of characters from one to the most. -/
theorem mem_descending {length most : Nat} :
    length ∈ Shape.descending most ↔ 0 < length ∧ length ≤ most := by
  simp only [Shape.descending, List.mem_map, List.mem_reverse, List.mem_range]
  constructor
  · rintro ⟨before, small, rfl⟩
    omega
  · rintro ⟨positive, bounded⟩
    exact ⟨length - 1, by omega, by omega⟩

/-- What the rule accepts, the router accepts. -/
theorem Follows.isSome_follow {steps : List Step} {path : List Char} {taken : Taken}
    (followed : Follows steps path taken) : (follow steps path).isSome = true := by
  induction followed with
  | nil => rfl
  | exact c _ ih => simpa [follow] using ih
  | @capture name piece steps path taken pieced _ ih =>
    -- The piece is among the choices, and the rest of the path can be followed after it.
    have plain : ∀ c ∈ piece, (c != '/') = true := by
      intro c member
      simpa using fun same : c = '/' => pieced.2 (same ▸ member)
    have among : piece.length ∈ Shape.lengths (piece ++ path) .segment := by
      rw [Shape.lengths, mem_descending, List.takeWhile_append_of_pos plain, List.length_append]
      exact ⟨List.length_pos_iff.mpr pieced.1, Nat.le_add_right ..⟩
    simp only [follow, List.isSome_findSome?, List.any_eq_true]
    exact ⟨piece.length, among, by simpa using ih⟩

/-- What is taken of a path up to its next slash is a piece. -/
theorem isPiece_take {path : List Char} {length : Nat} (positive : 0 < length)
    (short : length ≤ (path.takeWhile (· != '/')).length) : IsPiece (path.take length) := by
  -- Of the piece at the start of the path, a part is taken.
  have same : path.take length = (path.takeWhile (· != '/')).take length := by
    conv_lhs => rw [← List.takeWhile_append_dropWhile (p := (· != '/')) (l := path)]
    exact List.take_append_of_le_length short
  rw [same]
  constructor
  · intro none
    have := congrArg List.length none
    simp only [List.length_take, List.length_nil] at this
    omega
  · intro slash
    simpa using List.all_eq_true.mp List.all_takeWhile _ (List.mem_of_mem_take slash)

/-- On a path that does not end in a line feed, the router keeps to the rule. -/
theorem follows_of_follow {steps : List Step} {path : List Char} {taken : Taken}
    (shapes : ∀ name shape, .capture name shape ∈ steps → shape = .segment)
    (ended : path.getLast? ≠ some '\n') (found : follow steps path = some taken) :
    Follows steps path taken := by
  -- The induction is on the steps, each of which takes its part of the path.
  induction steps generalizing path taken with
  | nil =>
    -- The router would also accept a line feed after the last step.
    cases path with
    | nil =>
      cases found
      exact .nil
    -- Only a line feed may follow, and the path does not end in one.
    | cons c rest =>
      unfold follow at found
      split at found <;> simp_all
  | cons step steps ih =>
    have others : ∀ name shape, .capture name shape ∈ steps → shape = .segment :=
      fun name shape member => shapes name shape (List.mem_cons_of_mem _ member)
    cases step with
    | exact c =>
      cases path with
      | nil => cases found
      | cons d path =>
        simp only [follow] at found
        split at found
        · rename_i same
          subst same
          -- What is left ends as the path does, or is empty.
          refine .exact c (ih others ?_ found)
          intro final
          simp [List.getLast?_cons, final] at ended
        · cases found
    | capture name shape =>
      obtain rfl := shapes name shape (List.mem_cons_self ..)
      simp only [follow] at found
      obtain ⟨length, among, chosen⟩ := List.exists_of_findSome?_eq_some found
      obtain ⟨rest, followed, rfl⟩ := Option.map_eq_some_iff.mp chosen
      rw [Shape.lengths, mem_descending] at among
      -- What is taken is a part of the piece at the start of the path.
      have pieced : IsPiece (path.take length) := isPiece_take among.1 among.2
      have final : (path.drop length).getLast? ≠ some '\n' := by
        intro final
        rw [← List.take_append_drop length path, List.getLast?_append, final] at ended
        exact ended rfl
      have followed := Follows.capture name pieced (ih others final followed)
      rwa [List.take_append_drop] at followed

/-- The captures of a pattern take pieces. -/
theorem shape_of_mem_patternSteps {pattern : Pattern} {name : String} {shape : Shape}
    (member : .capture name shape ∈ patternSteps pattern) : shape = .segment := by
  -- The steps are those of the segments, and a capture is the only one with a shape.
  unfold patternSteps slashedSteps at member
  split at member
  · simp at member
  · obtain ⟨segment, _, member⟩ := List.mem_flatMap.mp member
    cases segment <;> simp_all [segmentSteps]

/-- The router reads a path whole if it does not end in a line feed. -/
theorem readsWhole_of_getLast? {pattern : Pattern} (plain : IsPlainPattern pattern) {path : String}
    (ended : path.toList.getLast? ≠ some '\n') : ReadsWhole pattern.route path := by
  -- The steps of the route are known, so they are those that were found.
  intro found taken read followed
  cases (steps_route plain).symm.trans read
  exact follows_of_follow (fun _ _ member => shape_of_mem_patternSteps member) ended followed

end Following

section Accepting

variable {pattern : Pattern} {pieces : List String}

/-- Captured pieces stand for themselves. -/
theorem values_takenOf (found : Fields String) : values (takenOf found) = .ok found := by
  -- The shape of a capture is that of a piece, which is its own value.
  induction found with
  | nil => rfl
  | cons entry found ih =>
    have later : values (found.map fun entry => (entry.1, .segment, entry.2.toList)) = .ok found := ih
    simp [takenOf, values, Shape.value, later, Bind.bind, Except.bind, Pure.pure, Except.pure]

/-- The route of a pattern accepts a path exactly when the pattern matches it, with its captures. -/
theorem accepts?_route (plain : IsPlainPattern pattern)
    (clean : ∀ piece ∈ pieces, IsPiece piece.toList)
    (whole : ReadsWhole pattern.route (ofPieces pieces)) :
    accepts? pattern.route (ofPieces pieces) = .ok (pattern.match? (ofPieces pieces)) := by
  have read := steps_route plain
  rw [Pattern.match?_ofPieces plain.distinct clean]
  simp only [accepts?, read]
  -- By the rule, what is taken is what the pattern captures of these pieces.
  have captured : ∀ taken, follow (patternSteps pattern) (ofPieces pieces).toList = some taken →
      ∃ found, Pattern.matched pattern.segments pieces = some found ∧ taken = takenOf found := by
    intro taken followed
    obtain ⟨others, found, pieced, same, captures, rfl⟩ :=
      (follows_pattern plain).mp (whole _ _ read followed)
    have equal : pieces = others := by
      rw [← pieces_ofPieces clean, String.toList_inj.mp same, pieces_ofPieces pieced]
    subst equal
    exact ⟨found, captures, rfl⟩
  -- What the router does not follow, the pattern does not match.
  split
  · rename_i none
    cases some : Pattern.matched pattern.segments pieces with
    | none => rfl
    | some found =>
      have followed := (follows_pattern plain).mpr ⟨pieces, found, clean, rfl, some, rfl⟩
      simpa [none] using followed.isSome_follow
  · rename_i taken followed
    obtain ⟨found, same, rfl⟩ := captured taken followed
    rw [same, values_takenOf]
    rfl

/-- No route accepts a path with one more slash. -/
theorem accepts?_route_slash (plain : IsPlainPattern pattern)
    (clean : ∀ piece ∈ pieces, IsPiece piece.toList) (filled : pieces ≠ []) :
    accepts? pattern.route (ofPieces pieces ++ "/") = .ok none := by
  -- Whatever the router would take on this path, it would take by the rule.
  have read := steps_route plain
  simp only [accepts?, read]
  split
  · rfl
  · rename_i taken followed
    have whole : ReadsWhole pattern.route (ofPieces pieces ++ "/") :=
      readsWhole_of_getLast? plain (by simp)
    obtain ⟨others, found, pieced, same, _, _⟩ :=
      (follows_pattern plain).mp (whole _ _ read followed)
    -- A path of pieces is one slash alone, or does not end in a slash.
    rw [String.toList_append, toList_ofPieces, toList_ofPieces, if_neg filled] at same
    split at same
    · cases pieces with
      | nil => exact absurd rfl filled
      | cons piece pieces => simp [slashed] at same
    · exact absurd (by rw [← same]; simp) (getLast?_slashed pieced)

/-- A path of some pieces gets a slash at its end. -/
theorem toggleSlash_ofPieces (clean : ∀ piece ∈ pieces, IsPiece piece.toList)
    (filled : pieces ≠ []) : toggleSlash (ofPieces pieces) = ofPieces pieces ++ "/" := by
  -- A path of pieces does not end in a slash, so there is none to take away.
  unfold toggleSlash
  split
  · rename_i rest final
    rw [toList_ofPieces, if_neg filled] at final
    have ends : (slashed pieces).getLast? = some '/' := by
      rw [← List.head?_reverse, final]
      rfl
    exact absurd ends (getLast?_slashed clean)
  · rfl

end Accepting

section Dispatching

/-- The first endpoint of a method whose pattern matches the path, and what the pattern captures. -/
def firstOf? (method path : String) (endpoints : List Endpoint) :
    Option (Endpoint × Fields String) :=
  endpoints.findSome? fun endpoint =>
    if endpoint.method = method then (endpoint.path.match? path).map (endpoint, ·) else none

/-- Whether the pattern of some endpoint matches the path. -/
def anyOf (path : String) (endpoints : List Endpoint) : Bool :=
  endpoints.any fun endpoint => (endpoint.path.match? path).isSome

/-- Where a request goes by the patterns of the endpoints. -/
def Site.destination (site : Site) (method path : String) : Destination :=
  match firstOf? method path site.endpoints with
  | some (endpoint, pathVars) => .endpoint endpoint pathVars
  | none => if anyOf path site.endpoints then .wrongMethod else .nowhere

/--
A framework searches the routes in declared order, its own pages aside.

A request goes to the first route that accepts the path and takes the method. If there is none, some
route that accepts the path has the method refused; and where the path is not even known with its final
slash added or removed, it goes nowhere.
-/
structure Framework.Routes (framework : Framework) : Prop where
  first : ∀ {endpoints method path endpoint pathVars}, isOwn path = false →
    firstMatch? method path endpoints = .ok (some (endpoint, pathVars)) →
    framework.dispatch endpoints method path = .ok (.endpoint endpoint pathVars)
  wrongMethod : ∀ {endpoints method path}, isOwn path = false →
    firstMatch? method path endpoints = .ok none → known path endpoints = .ok true →
    framework.dispatch endpoints method path = .ok .wrongMethod
  nowhere : ∀ {endpoints method path}, isOwn path = false →
    firstMatch? method path endpoints = .ok none → known path endpoints = .ok false →
    (path ≠ "/" → isOwn (toggleSlash path) = false ∧ known (toggleSlash path) endpoints = .ok false) →
    framework.dispatch endpoints method path = .ok .nowhere

/-- The standard framework does so. -/
theorem Framework.routes_standard : standard.Routes where
  first apart found := by
    -- Each rule is what the search does in its case.
    simp only [standard, standardDispatch, apart, found]
    rfl
  wrongMethod apart none accepted := by
    simp only [standard, standardDispatch, apart, none, accepted]
    rfl
  nowhere {_ _ path} apart none refused others := by
    simp only [standard, standardDispatch, apart, none, refused]
    by_cases root : path = "/"
    · simp [root, Bind.bind, Except.bind, Pure.pure, Except.pure]
    · -- The path is tried with another slash, and is not known then either.
      obtain ⟨unowned, unknown⟩ := others root
      simp [root, unowned, unknown, Bind.bind, Except.bind, Pure.pure, Except.pure]

/-- No page of the framework's own has a path that ends in a slash. -/
theorem isOwn_slash (path : String) : isOwn (path ++ "/") = false := by
  -- The last character tells them apart.
  have differs : ∀ page : String, page.toList.getLast? ≠ some '/' → path ++ "/" ≠ page := by
    rintro _ ended rfl
    simp at ended
  simp only [isOwn, ownPages, List.any_eq_false, Bool.or_eq_true, beq_iff_eq, not_or]
  intro page member
  constructor <;> apply differs
  · revert page
    decide
  · simp

variable {method path : String} {endpoints : List Endpoint}

/-- Where routes accept what patterns match, the router finds the endpoint that the patterns give. -/
theorem firstMatch?_eq (other : method ≠ "HEAD")
    (agree : ∀ endpoint ∈ endpoints,
      accepts? endpoint.path.route path = .ok (endpoint.path.match? path)) :
    firstMatch? method path endpoints = .ok (firstOf? method path endpoints) := by
  -- The induction is on the endpoints; one that matches under another method is passed by.
  induction endpoints with
  | nil => rfl
  | cons endpoint rest ih =>
    -- A method other than HEAD is taken by endpoints of this method alone.
    obtain ⟨here, later⟩ := List.forall_mem_cons.mp agree
    have takes : takesMethod endpoint method = decide (endpoint.method = method) := by
      simp [takesMethod, other, beq_eq_decide]
    simp only [firstOf?] at ih
    simp only [firstMatch?, here, firstOf?, List.findSome?_cons]
    cases found : endpoint.path.match? path with
    | none => simpa [Bind.bind, Except.bind] using ih later
    | some pathVars =>
      by_cases same : endpoint.method = method
      · simp [Bind.bind, Except.bind, takes, same, Pure.pure, Except.pure]
      · simpa [Bind.bind, Except.bind, takes, same] using ih later

/-- Where routes accept what patterns match, the router knows the paths that some pattern matches. -/
theorem known_eq (agree : ∀ endpoint ∈ endpoints,
      accepts? endpoint.path.route path = .ok (endpoint.path.match? path)) :
    known path endpoints = .ok (anyOf path endpoints) := by
  -- The induction is on the endpoints, of which the first that matches decides.
  induction endpoints with
  | nil => rfl
  | cons endpoint rest ih =>
    obtain ⟨here, later⟩ := List.forall_mem_cons.mp agree
    simp only [anyOf] at ih
    simp only [known, here, anyOf, List.any_cons]
    cases found : endpoint.path.match? path with
    | none => simpa [Bind.bind, Except.bind] using ih later
    | some pathVars => rfl

/-- A path that no route accepts is not known. -/
theorem known_eq_false (refused : ∀ endpoint ∈ endpoints,
      accepts? endpoint.path.route path = .ok none) : known path endpoints = .ok false := by
  -- The search goes through all routes, and none ends it.
  induction endpoints with
  | nil => rfl
  | cons endpoint rest ih =>
    obtain ⟨here, later⟩ := List.forall_mem_cons.mp refused
    simpa [known, here, Bind.bind, Except.bind] using ih later

variable {site : Site} {pieces : List String}

/-- Where routes accept what patterns match, a request goes where the patterns say. -/
theorem Site.dispatch_eq (routes : site.framework.Routes) (apart : isOwn (ofPieces pieces) = false)
    (plain : ∀ endpoint ∈ site.endpoints, IsPlainPattern endpoint.path)
    (clean : ∀ piece ∈ pieces, IsPiece piece.toList)
    (agree : ∀ endpoint ∈ site.endpoints, accepts? endpoint.path.route (ofPieces pieces) =
      .ok (endpoint.path.match? (ofPieces pieces))) (other : method ≠ "HEAD") :
    site.dispatch method (ofPieces pieces) = .ok (site.destination method (ofPieces pieces)) := by
  -- What the router looks for in its routes is what the patterns say.
  have first := firstMatch?_eq other agree
  have accepted := known_eq agree
  simp only [Site.dispatch, Site.destination]
  cases found : firstOf? method (ofPieces pieces) site.endpoints with
  | some hit => exact routes.first apart (first.trans (congrArg _ found))
  | none =>
    rw [found] at first
    cases known : anyOf (ofPieces pieces) site.endpoints with
    | true => exact routes.wrongMethod apart first (accepted.trans (congrArg _ known))
    | false =>
      refine routes.nowhere apart first (accepted.trans (congrArg _ known)) fun other => ?_
      -- A path without pieces is the root, and any other one is tried with another slash in vain.
      have filled : pieces ≠ [] := by
        rintro rfl
        exact other rfl
      rw [toggleSlash_ofPieces clean filled]
      exact ⟨isOwn_slash _, known_eq_false fun endpoint member =>
        accepts?_route_slash (plain endpoint member) clean filled⟩

/--
Requests are routed by the patterns of the endpoints.

Where the router reads the whole path, the route of each endpoint accepts a path of pieces exactly when
the pattern matches it, with the same captures. So a request, unless it is for a page of the framework's
own, goes to the first endpoint of its method whose pattern matches; if patterns match under other
methods only, the method is refused, and if none matches, nothing is found.
-/
theorem Site.dispatch_by_patterns (routes : site.framework.Routes)
    (plain : ∀ endpoint ∈ site.endpoints, IsPlainPattern endpoint.path)
    (clean : ∀ piece ∈ pieces, IsPiece piece.toList)
    (whole : ∀ endpoint ∈ site.endpoints, ReadsWhole endpoint.path.route (ofPieces pieces)) :
    (∀ endpoint ∈ site.endpoints, accepts? endpoint.path.route (ofPieces pieces) =
        .ok (endpoint.path.match? (ofPieces pieces))) ∧
      ∀ request : Request, request.method = "GET" ∨ request.method = "POST" →
        request.path = ofPieces pieces → isOwn request.path = false →
        site.dispatch request.method request.path =
            .ok (site.destination request.method request.path) ∧
          ∀ depth machine,
            (site.destination request.method request.path = .wrongMethod →
              site.serve depth request machine =
                (some (notice 405 "Method Not Allowed"), machine)) ∧
            (site.destination request.method request.path = .nowhere →
              site.serve depth request machine = (some (notice 404 "Not Found"), machine)) := by
  have agree : ∀ endpoint ∈ site.endpoints, accepts? endpoint.path.route (ofPieces pieces) =
      .ok (endpoint.path.match? (ofPieces pieces)) := fun endpoint member =>
    accepts?_route (plain endpoint member) clean (whole endpoint member)
  -- The destination is found by the patterns, and the answer is read off it.
  refine ⟨agree, ?_⟩
  intro request asked located apart
  -- Only a request for the head alone is dispatched as another method.
  have other : request.method ≠ "HEAD" := by
    rcases asked with same | same <;> simp [same]
  have dispatched : site.dispatch request.method request.path =
      .ok (site.destination request.method request.path) := by
    rw [located]
    exact Site.dispatch_eq routes (located ▸ apart) plain clean agree other
  refine ⟨dispatched, fun depth machine => ⟨?_, ?_⟩⟩
  · intro refused
    simp only [Site.serve, dispatched, refused]
  · intro lost
    simp only [Site.serve, dispatched, lost]

/-- A page about one post. -/
def post : Endpoint where
  method := "GET"
  path := ⟨[.literal "posts", .capture "id"]⟩
  body := .app (.var "p") (.var "id")
  type := .primitive "html"

/-- A site with one page. -/
def posts : Site := { tables := [], endpoints := [post] }

/-- The route of the page accepts the path of a post, and a form cannot be posted there. -/
theorem Site.dispatch_by_patterns_posts :
    accepts? post.path.route (ofPieces ["posts", "7"]) = .ok (some [("id", "7")]) ∧
      (posts.serve 4 { method := "POST", host := "testserver", path := ofPieces ["posts", "7"] }
        { clock := fun _ => 0 }).1.map Answer.status = some 405 := by
  -- The pattern of the endpoint is read from its text.
  have plain : IsPlainPattern post.path :=
    { read := ⟨"/posts/:id", rfl⟩
      words := by decide
      distinct := by decide
      unbraced := by simp [post] }
  have every : ∀ endpoint ∈ posts.endpoints, IsPlainPattern endpoint.path :=
    fun endpoint member => List.mem_singleton.mp member ▸ plain
  have clean : ∀ piece ∈ ["posts", "7"], IsPiece piece.toList := by
    simp [IsPiece]
  have routes : posts.framework.Routes := Framework.routes_standard
  obtain ⟨agree, routed⟩ := Site.dispatch_by_patterns routes every clean fun endpoint member =>
    readsWhole_of_getLast? (every endpoint member) (by decide)
  refine ⟨agree post (List.mem_singleton_self post), ?_⟩
  obtain ⟨_, answers⟩ := routed
    { method := "POST", host := "testserver", path := ofPieces ["posts", "7"] } (Or.inr rfl) rfl
    (by decide +kernel)
  rw [(answers 4 { clock := fun _ => 0 }).1 rfl]
  rfl

end Dispatching

end PageServer.Web

import PageServer.Proofs.Merging
import PageServer.Proofs.Path

/-!
Patterns are read, written and matched consistently.

A pattern is written as it is read. A path matches it by its pieces alone, however many slashes stand
between them, and where a name is captured more than once the last piece counts. To fill in a pattern and
to match it undo each other, if its names are distinct.
-/

namespace PageServer.Path

/-! Reading and writing -/

/-- A pattern is refused exactly if a colon stands alone between its slashes. -/
theorem Pattern.parse_fails_iff (text : String) :
    (∃ fault, Pattern.parse text = .error fault) ↔ [':'] ∈ text.toList.splitOn '/' := by
  -- The pieces are the parts that are not empty, and a colon is not.
  have colon : ":" ∈ pieces text ↔ [':'] ∈ text.toList.splitOn '/' := by
    rw [pieces, splitSlashes_eq, List.mem_map]
    constructor
    · rintro ⟨part, member, same⟩
      obtain rfl : part = [':'] := by simpa using congrArg String.toList same
      exact (List.mem_filter.mp member).1
    · exact fun member => ⟨[':'], List.mem_filter.mpr ⟨member, rfl⟩, rfl⟩
  -- A pattern is refused exactly if some segment is.
  rw [← colon, ← segments?_eq_none]
  unfold Pattern.parse
  cases segments? (pieces text) <;> simp

/-- What was read as a pattern is read as that pattern again when it is written. -/
theorem Pattern.parse_text {text : String} {pattern : Pattern}
    (read : Pattern.parse text = .ok pattern) : Pattern.parse pattern.text = .ok pattern := by
  -- The pieces of what is written are the pieces of what was read.
  have texts := texts_of_segments? (parse_eq_ok.mp read)
  have clean : ∀ piece ∈ pattern.segments.map Segment.text, IsPiece piece.toList := by
    rw [texts]
    exact fun piece member => isPiece_of_mem_pieces member
  have again : pieces pattern.text = pieces text := by
    rw [show pattern.text = ofPieces (pattern.segments.map Segment.text) from rfl,
      pieces_ofPieces clean, texts]
  rw [parse_eq_ok, again]
  exact parse_eq_ok.mp read

namespace Pattern

/-! Matching -/

/-- A path matches if it has as many pieces as there are segments, and its pieces are the literal ones. -/
theorem isSome_matched {segments : List Segment} {pieces : List String} :
    (matched segments pieces).isSome ↔ pieces.length = segments.length ∧
      ∀ (i : Nat) (literal : String), segments[i]? = some (.literal literal) →
        pieces[i]? = some literal := by
  -- The first segment is looked at before the others, which stand one place further on.
  induction segments generalizing pieces with
  | nil => cases pieces <;> simp [matched]
  | cons segment segments ih =>
    cases pieces with
    | nil => cases segment <;> simp [matched]
    | cons piece pieces =>
      rw [← Nat.and_forall_add_one]
      simp only [List.length_cons, Nat.add_right_cancel_iff, List.getElem?_cons_zero,
        List.getElem?_cons_succ, Option.some.injEq]
      cases segment with
      | literal text =>
        by_cases same : text = piece
        · simp [matched, same, ih]
        · simp [matched, same, Ne.symm same]
      | capture name => simp [matched, ih]

/-- The piece that stands where a name is captured for the last time. -/
def CapturesLast (segments : List Segment) (pieces : List String) (name piece : String) : Prop :=
  ∃ i : Nat, segments[i]? = some (.capture name) ∧ pieces[i]? = some piece ∧
    ∀ j : Nat, i < j → segments[j]? ≠ some (.capture name)

/-- The last capture of a name is behind the first segment, or it is the first segment itself. -/
theorem capturesLast_cons {segment : Segment} {segments : List Segment} {first : String}
    {pieces : List String} {name piece : String} :
    CapturesLast (segment :: segments) (first :: pieces) name piece ↔
      CapturesLast segments pieces name piece ∨
        .capture name ∉ segments ∧ segment = .capture name ∧ first = piece := by
  -- Places in the longer lists are one further on, and the first place is new.
  constructor
  · rintro ⟨i, here, held, last⟩
    cases i with
    -- The name was captured first, and so not again behind.
    | zero =>
      refine .inr ⟨fun later => ?_, Option.some.inj here, Option.some.inj held⟩
      obtain ⟨j, found⟩ := List.mem_iff_getElem?.mp later
      exact last (j + 1) (by omega) found
    | succ i => exact .inl ⟨i, here, held, fun j behind => last (j + 1) (by omega)⟩
  · rintro (⟨i, here, held, last⟩ | ⟨none, rfl, rfl⟩)
    -- A place behind stays the last.
    · refine ⟨i + 1, here, held, fun j behind => ?_⟩
      obtain ⟨j, rfl⟩ := Nat.exists_eq_add_one.mpr (show 0 < j by omega)
      exact last j (by omega)
    · refine ⟨0, rfl, rfl, fun j behind found => ?_⟩
      obtain ⟨j, rfl⟩ := Nat.exists_eq_add_one.mpr behind
      exact none (List.mem_iff_getElem?.mpr ⟨j, found⟩)

/-- The captured names are those of the captures among the segments. -/
theorem mem_captures {pattern : Pattern} {name : String} :
    name ∈ pattern.captures ↔ .capture name ∈ pattern.segments := by
  -- Only a capture has a name.
  simp only [captures, List.mem_filterMap]
  constructor
  · rintro ⟨segment, member, same⟩
    cases segment with
    | literal text => cases same
    | capture other =>
      cases same
      exact member
  · exact fun member => ⟨_, member, rfl⟩

/-- Of what is captured under a name, the last is the piece at its last capture. -/
theorem last?_matched {segments : List Segment} {pieces : List String} {found : Fields String}
    (same : matched segments pieces = some found) (name piece : String) :
    found.last? name = some piece ↔ CapturesLast segments pieces name piece := by
  -- The induction is on the segments; a segment before others counts only if none of them does.
  induction segments generalizing pieces found with
  | nil =>
    obtain ⟨rfl, rfl⟩ := matched_nil.mp same
    simp [Fields.last?, CapturesLast]
  | cons segment segments ih =>
    cases segment with
    | literal text =>
      obtain ⟨rest, rfl, later⟩ := matched_literal.mp same
      simp [capturesLast_cons, ih later]
    | capture other =>
      obtain ⟨first, rest, others, rfl, later, rfl⟩ := matched_capture.mp same
      have absent : Fields.last? others name = none ↔ .capture name ∉ segments := by
        rw [Fields.last?_eq_none_iff, keys_matched later, mem_captures]
      have front : (other, first) :: others = [(other, first)] ++ others := rfl
      rw [capturesLast_cons, front, Fields.last?_append, ← ih later, ← absent]
      -- A later capture of the name counts, or else this one, if it is of the name.
      cases Fields.last? others name with
      | some held => simp
      | none => by_cases named : other = name <;> simp [Fields.last?, named]

/-! Filling in -/

/-- The pieces of a pattern with its names filled in. -/
def fill (assigned : String → String) (pattern : Pattern) : List String :=
  pattern.segments.map fun segment =>
    match segment with
    | .literal text => text
    | .capture name => assigned name

/-- What was filled in is captured again. -/
theorem matched_fill (assigned : String → String) (segments : List Segment) :
    matched segments (fill assigned ⟨segments⟩) =
      some ((captures ⟨segments⟩).map fun name => (name, assigned name)) := by
  -- The induction is on the segments, of which each takes the piece that was filled in for it.
  induction segments with
  | nil => rfl
  | cons segment segments ih =>
    simp only [fill, captures] at ih
    cases segment <;> simp [fill, captures, matched, ih]

/-- What is captured fills the pattern in again. -/
theorem fill_of_matched {segments : List Segment} {pieces : List String} {found : Fields String}
    (same : matched segments pieces = some found) {assigned : String → String}
    (held : ∀ entry ∈ found, entry.2 = assigned entry.1) : pieces = fill assigned ⟨segments⟩ := by
  -- A literal segment is its piece, and a captured piece is under its name.
  induction segments generalizing pieces found with
  | nil => exact (matched_nil.mp same).1
  | cons segment segments ih =>
    cases segment with
    | literal text =>
      obtain ⟨rest, rfl, later⟩ := matched_literal.mp same
      rw [ih later held]
      rfl
    | capture name =>
      obtain ⟨piece, rest, others, rfl, later, rfl⟩ := matched_capture.mp same
      obtain ⟨here, behind⟩ := List.forall_mem_cons.mp held
      rw [ih later behind]
      exact congrArg (· :: fill assigned ⟨segments⟩) here

/-- With distinct names, a pattern that is filled in matches with what was filled in. -/
theorem match?_fill {text : String} {pattern : Pattern} (read : parse text = .ok pattern)
    (distinct : pattern.captures.Nodup) {assigned : String → String}
    (clean : ∀ name ∈ pattern.captures, IsPiece (assigned name).toList) :
    pattern.match? ("/".intercalate (pattern.fill assigned)) =
      some (pattern.captures.map fun name => (name, assigned name)) := by
  -- Literal segments are pieces because they were read, the others by assumption.
  have pieces : ∀ piece ∈ pattern.fill assigned, IsPiece piece.toList := by
    intro piece member
    obtain ⟨segment, among, rfl⟩ := List.mem_map.mp member
    cases segment with
    | literal literal => exact isPiece_of_literal read among
    | capture name => exact clean name (mem_captures.mpr among)
  rw [match?_of_nodup distinct, pieces_intercalate pieces]
  exact matched_fill assigned pattern.segments

/-- With distinct names, a path that matches has the pieces of the pattern with its captures filled in. -/
theorem pieces_of_match? {pattern : Pattern} (distinct : pattern.captures.Nodup) {path : String}
    {found : Fields String} (same : pattern.match? path = some found) {assigned : String → String}
    (held : ∀ name ∈ pattern.captures, found.get? name = some (assigned name)) :
    pieces path = pattern.fill assigned := by
  -- What is found are the pieces in their order, under the names of the captures.
  rw [match?_of_nodup distinct] at same
  have names : found.keys = pattern.captures := keys_matched same
  apply fill_of_matched same
  intro entry member
  -- As the names are distinct, the entry is what its name holds.
  have located := Fields.get?_of_mem (names ▸ distinct) member
  have named : entry.1 ∈ pattern.captures := names ▸ List.mem_map_of_mem member
  exact Option.some.inj (located.symm.trans (held entry.1 named))

/--
Patterns are read, written and matched consistently.

A text is no pattern exactly if a colon stands alone between its slashes; otherwise it is read as it is
written, and what is written is read as the same pattern. A path is matched by the parts between its
slashes that are not empty. It matches if these are as many as the segments and equal to the literal ones;
each name is then captured once, with the piece where it stands for the last time. With distinct
names, filling in a pattern and matching it undo each other.
-/
theorem patterns_consistent (text : String) :
    ((∃ fault, parse text = .error fault) ↔ [':'] ∈ text.toList.splitOn '/') ∧
    (∀ path, pieces path = ((path.toList.splitOn '/').filter (· ≠ [])).map String.ofList) ∧
    ∀ pattern, parse text = .ok pattern →
      pattern.segments.map Segment.text = pieces text ∧ parse pattern.text = .ok pattern ∧
      (∀ path other, pieces path = pieces other → pattern.match? path = pattern.match? other) ∧
      (∀ before after, pattern.match? ("/" ++ after) = pattern.match? after ∧
        pattern.match? (before ++ "/") = pattern.match? before ∧
        pattern.match? (before ++ "//" ++ after) = pattern.match? (before ++ "/" ++ after)) ∧
      (∀ path, (pattern.match? path).isSome ↔
        (pieces path).length = pattern.segments.length ∧
        ∀ (i : Nat) (literal : String), pattern.segments[i]? = some (.literal literal) →
          (pieces path)[i]? = some literal) ∧
      (∀ path found, pattern.match? path = some found →
        found.keys = pattern.captures.eraseDups ∧ ∀ name piece,
          found.get? name = some piece ↔ CapturesLast pattern.segments (pieces path) name piece) ∧
      (pattern.captures.Nodup → ∀ assigned : String → String,
        ((∀ name ∈ pattern.captures, IsPiece (assigned name).toList) →
          pattern.match? ("/".intercalate (pattern.fill assigned)) =
            some (pattern.captures.map fun name => (name, assigned name))) ∧
        ∀ path found, pattern.match? path = some found →
          (∀ name ∈ pattern.captures, found.get? name = some (assigned name)) →
            pieces path = pattern.fill assigned) := by
  -- The pieces are split off at slashes, and the empty ones left out.
  have parts : ∀ path, pieces path =
      ((path.toList.splitOn '/').filter (· ≠ [])).map String.ofList := by
    intro path
    rw [pieces, splitSlashes_eq]
    congr 2
    funext part
    cases part <;> rfl
  have depends : ∀ (pattern : Pattern) (path other : String), pieces path = pieces other →
      pattern.match? path = pattern.match? other := by
    intro pattern path other same
    rw [match?, match?, same]
  refine ⟨parse_fails_iff text, parts, fun pattern read => ⟨?_, parse_text read, depends pattern, ?_,
    -- What was read is written and read again.
    ?_, ?_, ?_⟩⟩
  · exact texts_of_segments? (parse_eq_ok.mp read)
  · -- At a slash the pieces before it and those behind it are told apart, and nothing is lost.
    intro before after
    refine ⟨depends pattern _ _ (pieces_slash_before after),
      depends pattern _ _ (pieces_slash_after before), depends pattern _ _ ?_⟩
    have doubled : before ++ "//" ++ after = before ++ "/" ++ ("/" ++ after) := by
      simp [← String.toList_inj]
    rw [doubled, pieces_slash, pieces_slash, pieces_slash_before]
  -- A match merges what is captured, which is there exactly if each segment takes its piece.
  · intro path
    rw [match?_eq, Option.isSome_map, isSome_matched]
  · intro path found same
    rw [match?_eq, Option.map_eq_some_iff] at same
    obtain ⟨captured, same, rfl⟩ := same
    refine ⟨by rw [Fields.keys_ofPairs, keys_matched same], fun name piece => ?_⟩
    rw [Fields.get?_ofPairs_eq_last?, last?_matched same]
  · intro distinct assigned
    exact ⟨match?_fill read distinct, fun path found same => pieces_of_match? distinct same⟩

/-- A pattern with a literal piece between two names. -/
def album : Pattern := ⟨[.capture "year", .literal "at", .capture "place"]⟩

/-- What fills in the names of the pattern is what its path matches with, and the other way round. -/
theorem patterns_consistent_album :
    parse "/:year//at/:place/" = .ok album ∧ parse album.text = .ok album ∧
      (∃ fault, parse "a/:/b" = .error fault) ∧
      album.match? "1999/at/rome" = some [("year", "1999"), ("place", "rome")] ∧
      album.match? "/1999/at/rome" = album.match? "1999/at/rome" ∧
      pieces "1999/at/rome" = album.fill fun name => if name = "year" then "1999" else "rome" := by
  -- The pattern is read off the text with its doubled slashes.
  have read : parse "/:year//at/:place/" = .ok album := by decide
  have distinct : album.captures.Nodup := by decide
  have texts : ∀ name ∈ album.captures, IsPiece (if name = "year" then "1999" else "rome").toList := by
    show ∀ name ∈ ["year", "place"], _
    simp [IsPiece]
  obtain ⟨_, _, consistent⟩ := patterns_consistent "/:year//at/:place/"
  obtain ⟨fails, _⟩ := patterns_consistent "a/:/b"
  obtain ⟨_, again, _, slashes, _, _, inverse⟩ := consistent album read
  obtain ⟨filled, back⟩ := inverse distinct fun name => if name = "year" then "1999" else "rome"
  -- What is filled in is captured, and fills the pattern in again.
  have captured : album.match? "1999/at/rome" = some [("year", "1999"), ("place", "rome")] :=
    filled texts
  refine ⟨read, again, fails.mpr (by decide), captured, (slashes "" "1999/at/rome").1,
    back _ _ captured (by decide)⟩

end Pattern

end PageServer.Path

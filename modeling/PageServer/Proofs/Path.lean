import PageServer.Path
import PageServer.Proofs.Basic

/-! Paths made of pieces, and what a pattern captures of their pieces. -/

namespace PageServer.Path

/-- A piece of a path: not empty, and without slashes. -/
def IsPiece (piece : List Char) : Prop := piece ≠ [] ∧ '/' ∉ piece

/-- A path made of pieces: a slash, and the pieces with slashes between them. -/
def ofPieces (pieces : List String) : String := "/" ++ "/".intercalate pieces

/-- Pieces with a slash before each. -/
def slashed (pieces : List String) : List Char := pieces.flatMap fun piece => '/' :: piece.toList

/-- The characters of a path are its pieces with a slash before each, or one slash alone. -/
theorem toList_ofPieces (pieces : List String) :
    (ofPieces pieces).toList = if pieces = [] then ['/'] else slashed pieces := by
  -- The first slash is the one in front; the others stand between the pieces.
  have general : ∀ first rest, "/".toList ++ ("/".intercalate (first :: rest)).toList =
      slashed (first :: rest) := by
    intro first rest
    induction rest generalizing first with
    | nil => simp [slashed]
    | cons next rest ih =>
      have later := ih next
      simp only [String.toList_intercalate, List.map_cons, List.intercalate_cons_cons, slashed,
        List.flatMap_cons, ← List.append_assoc] at later ⊢
      simpa [List.append_assoc] using later
  cases pieces with
  | nil => rfl
  | cons first rest => simpa [ofPieces] using general first rest

/-- There is always a first part. -/
theorem splitSlashes_ne_nil (text : List Char) : splitSlashes text ≠ [] := by
  -- Every case makes a list that has a first part.
  cases text with
  | nil => simp [splitSlashes]
  | cons c rest =>
    simp only [splitSlashes]
    repeat' split
    all_goals simp

/-- The parts between slashes are what the text is split into at its slashes. -/
theorem splitSlashes_eq (text : List Char) : splitSlashes text = text.splitOn '/' := by
  -- Both add a character to the first part, or begin a new one.
  induction text with
  | nil => rfl
  | cons c rest ih =>
    rw [List.splitOn_cons_eq_if_modifyHead, ← ih, splitSlashes]
    cases parts : splitSlashes rest with
    | nil => exact absurd parts (splitSlashes_ne_nil rest)
    | cons first others => by_cases slash : c = '/' <;> simp [slash]

/-- Parts have no slashes. -/
theorem splitSlashes_clean {text part : List Char} (member : part ∈ splitSlashes text) :
    '/' ∉ part := by
  -- A character is added to the first part only if it is no slash.
  induction text generalizing part with
  | nil =>
    cases List.mem_singleton.mp member
    simp
  | cons c rest ih =>
    simp only [splitSlashes] at member
    split at member
    · rename_i none
      exact absurd none (splitSlashes_ne_nil rest)
    · rename_i first others same
      rw [same] at ih
      split at member
      · rcases List.mem_cons.mp member with rfl | member
        · simp
        · exact ih member
      · rename_i other
        rcases List.mem_cons.mp member with rfl | member
        · simp [Ne.symm other, ih (List.mem_cons_self ..)]
        · exact ih (List.mem_cons_of_mem _ member)

/-- The pieces of a path are those before a slash and those behind it. -/
theorem pieces_slash (before after : String) :
    pieces (before ++ "/" ++ after) = pieces before ++ pieces after := by
  -- The text is split at the one slash in between, and further on either side.
  have split : splitSlashes (before ++ "/" ++ after).toList =
      splitSlashes before.toList ++ splitSlashes after.toList := by
    simp only [splitSlashes_eq, List.splitOn_eq_splitOnP, String.toList_append, List.append_assoc]
    exact List.splitOnP_append_cons before.toList after.toList rfl
  simp only [pieces, split, List.filter_append, List.map_append]

/-- A slash in front makes no difference. -/
theorem pieces_slash_before (path : String) : pieces ("/" ++ path) = pieces path :=
  pieces_slash "" path

/-- Neither does one at the end. -/
theorem pieces_slash_after (path : String) : pieces (path ++ "/") = pieces path := by
  -- What stands behind the slash is empty and has no pieces.
  have split := pieces_slash path ""
  rwa [String.append_empty, show pieces "" = [] from rfl, List.append_nil] at split

/-- The pieces of pieces with slashes between them are these pieces. -/
theorem pieces_intercalate {made : List String} (clean : ∀ piece ∈ made, IsPiece piece.toList) :
    pieces ("/".intercalate made) = made := by
  cases made with
  | nil => rfl
  | cons first rest =>
    -- The pieces have no slash of their own, so splitting gives back what was joined.
    have parts : splitSlashes ("/".intercalate (first :: rest)).toList =
        (first :: rest).map String.toList := by
      rw [splitSlashes_eq, String.toList_intercalate]
      refine List.splitOn_intercalate '/' (fun part member => ?_) (by simp)
      obtain ⟨piece, among, rfl⟩ := List.mem_map.mp member
      exact (clean piece among).2
    -- None of the parts is empty, so all of them are kept.
    have filled : (((first :: rest).map String.toList).filter fun piece => !piece.isEmpty) =
        (first :: rest).map String.toList := by
      rw [List.filter_eq_self]
      intro part member
      obtain ⟨piece, among, rfl⟩ := List.mem_map.mp member
      simpa using (clean piece among).1
    rw [pieces, parts, filled]
    simp [Function.comp_def]

/-- The pieces of a path are those it is made of. -/
theorem pieces_ofPieces {made : List String} (clean : ∀ piece ∈ made, IsPiece piece.toList) :
    pieces (ofPieces made) = made := by
  -- The slash in front adds no piece.
  rw [ofPieces, pieces_slash_before, pieces_intercalate clean]

/-- Pieces are pieces. -/
theorem isPiece_of_mem_pieces {path piece : String} (member : piece ∈ pieces path) :
    IsPiece piece.toList := by
  -- A piece is a part that is kept, and empty parts are not.
  simp only [pieces, List.mem_map, List.mem_filter] at member
  obtain ⟨part, ⟨among, filled⟩, rfl⟩ := member
  rw [String.toList_ofList]
  exact ⟨by simpa using filled, splitSlashes_clean among⟩

/-- Pieces with slashes before them do not end in a slash. -/
theorem getLast?_slashed {pieces : List String}
    (clean : ∀ piece ∈ pieces, IsPiece piece.toList) : (slashed pieces).getLast? ≠ some '/' := by
  -- The last character is that of the last piece.
  cases pieces using List.reverseRecOn with
  | nil => simp [slashed]
  | append_singleton pieces last =>
    obtain ⟨filled, plain⟩ := clean last (by simp)
    intro ends
    have same : slashed (pieces ++ [last]) = (slashed pieces ++ ['/']) ++ last.toList := by
      simp [slashed]
    rw [same, List.getLast?_append, List.getLast?_eq_some_getLast filled] at ends
    exact plain (Option.some.inj ends ▸ List.getLast_mem filled)

/-- A piece that is read as a segment is how that segment is written. -/
theorem Segment.text_of_ofPiece? {piece : String} {segment : Segment}
    (read : Segment.ofPiece? piece = some segment) : segment.text = piece := by
  -- A colon alone is refused; a colon before a name is written again, and other pieces stay.
  unfold Segment.ofPiece? at read
  split at read
  · cases read
  · rename_i name _ spelled
    cases read
    rw [← String.toList_inj, spelled]
    simp [Segment.text]
  · cases read
    rfl

/-- Only a colon alone is no segment. -/
theorem Segment.ofPiece?_eq_none {piece : String} :
    Segment.ofPiece? piece = none ↔ piece = ":" := by
  -- A colon alone is neither a capture, which has a name, nor a literal.
  unfold Segment.ofPiece?
  rw [← String.toList_inj]
  split <;> simp_all

/-- The pieces that segments are read from are how these are written. -/
theorem texts_of_segments? {read : List String} {segments : List Segment}
    (found : segments? read = some segments) : segments.map Segment.text = read := by
  -- Each segment is read from its own piece.
  induction read generalizing segments with
  | nil =>
    cases found
    rfl
  | cons piece rest ih =>
    simp only [segments?, Option.bind_eq_bind, Option.bind_eq_some_iff, Option.pure_def,
      Option.some.injEq] at found
    obtain ⟨first, here, others, later, rfl⟩ := found
    rw [List.map_cons, Segment.text_of_ofPiece? here, ih later]

/-- Pieces are read as segments unless one of them is a colon alone. -/
theorem segments?_eq_none {read : List String} : segments? read = none ↔ ":" ∈ read := by
  -- One piece that is no segment spoils the pattern.
  induction read with
  | nil => simp [segments?]
  | cons piece rest ih =>
    rw [List.mem_cons, ← ih, eq_comm (a := ":"), ← Segment.ofPiece?_eq_none]
    cases here : Segment.ofPiece? piece with
    | none => simp [segments?, here]
    | some first => cases later : segments? rest <;> simp [segments?, here, later]

/-- A pattern is read from the pieces of its text. -/
theorem parse_eq_ok {text : String} {pattern : Pattern} :
    Pattern.parse text = .ok pattern ↔ segments? (pieces text) = some pattern.segments := by
  obtain ⟨wanted⟩ := pattern
  unfold Pattern.parse
  cases segments? (pieces text) <;> simp

/-- The literal segments of a pattern that was read are pieces. -/
theorem isPiece_of_literal {text : String} {pattern : Pattern}
    (read : Pattern.parse text = .ok pattern) {literal : String}
    (member : .literal literal ∈ pattern.segments) : IsPiece literal.toList := by
  -- The segment is written as it was read.
  have texts := texts_of_segments? (parse_eq_ok.mp read)
  have written : literal ∈ pattern.segments.map Segment.text := List.mem_map_of_mem member
  exact isPiece_of_mem_pieces (texts ▸ written)

namespace Pattern

/-- What segments capture of pieces, each name with its piece, if they match one by one. -/
def matched : List Segment → List String → Option (Fields String)
  | [], [] => some []
  | .literal text :: segments, piece :: pieces =>
    if text = piece then matched segments pieces else none
  | .capture name :: segments, piece :: pieces =>
    (matched segments pieces).map ((name, piece) :: ·)
  | _, _ => none

/-- What is captured is merged with what was captured before. -/
theorem matchFrom_eq (captured : Fields String) (segments : List Segment) (pieces : List String) :
    matchFrom captured segments pieces = (matched segments pieces).map captured.merge := by
  -- The induction follows the matching, piece by piece.
  induction segments generalizing captured pieces with
  | nil => cases pieces <;> simp [matchFrom, matched, Fields.merge]
  | cons segment segments ih =>
    cases pieces with
    | nil => cases segment <;> rfl
    | cons piece pieces =>
      cases segment with
      | literal text =>
        simp only [matchFrom, matched]
        split
        · exact ih captured pieces
        · rfl
      | capture name =>
        simp only [matchFrom, matched, ih, Option.map_map]
        rfl

/-- No segments match no pieces, and capture nothing. -/
theorem matched_nil {pieces : List String} {found : Fields String} :
    matched [] pieces = some found ↔ pieces = [] ∧ found = [] := by
  -- A piece that is left over is matched by nothing.
  cases pieces with
  | nil => simp [matched, eq_comm]
  | cons piece pieces => simp [matched]

/-- A literal matches the piece that it is, and captures nothing. -/
theorem matched_literal {text : String} {segments : List Segment} {pieces : List String}
    {found : Fields String} :
    matched (.literal text :: segments) pieces = some found ↔
      ∃ rest, pieces = text :: rest ∧ matched segments rest = some found := by
  cases pieces with
  | nil => simp [matched]
  | cons piece pieces =>
    -- Only the same text is passed.
    by_cases same : text = piece
    · simp [matched, same]
    · simp [matched, same, Ne.symm same]

/-- A capture matches any piece, and captures it. -/
theorem matched_capture {name : String} {segments : List Segment} {pieces : List String}
    {found : Fields String} :
    matched (.capture name :: segments) pieces = some found ↔
      ∃ piece rest later, pieces = piece :: rest ∧ matched segments rest = some later ∧
        found = (name, piece) :: later := by
  cases pieces with
  | nil => simp [matched]
  -- The first piece is captured, whatever it is.
  | cons piece pieces =>
    simp only [matched, Option.map_eq_some_iff]
    constructor
    · rintro ⟨later, same, rfl⟩
      exact ⟨piece, pieces, later, rfl, same, rfl⟩
    · rintro ⟨_, _, later, alike, same, rfl⟩
      cases alike
      exact ⟨later, same, rfl⟩

/-- What is captured has the names of the captures in turn. -/
theorem keys_matched {segments : List Segment} {pieces : List String} {found : Fields String}
    (same : matched segments pieces = some found) : found.keys = captures ⟨segments⟩ := by
  -- The induction follows the matching; only a capture adds a name.
  induction segments generalizing pieces found with
  | nil =>
    obtain ⟨_, rfl⟩ := matched_nil.mp same
    rfl
  | cons segment segments ih =>
    cases segment with
    | literal text =>
      obtain ⟨rest, _, later⟩ := matched_literal.mp same
      exact ih later
    | capture name =>
      obtain ⟨piece, rest, others, _, later, rfl⟩ := matched_capture.mp same
      have names := ih later
      simp only [captures, Fields.keys] at names
      simp [captures, Fields.keys, names]

/-- Of a path that matches, what is captured is merged. -/
theorem match?_eq (pattern : Pattern) (path : String) :
    pattern.match? path = (matched pattern.segments (pieces path)).map Fields.ofPairs :=
  matchFrom_eq [] pattern.segments (pieces path)

/-- With distinct names, a pattern captures each piece under its name. -/
theorem match?_of_nodup {pattern : Pattern} (distinct : pattern.captures.Nodup) (path : String) :
    pattern.match? path = matched pattern.segments (pieces path) := by
  -- Merging what is captured changes nothing if no name comes twice.
  rw [match?_eq]
  cases same : matched pattern.segments (pieces path) with
  | none => rfl
  | some found =>
    have once : found.keys.Nodup := by
      rw [keys_matched same]
      exact distinct
    rw [Option.map_some, Fields.ofPairs_of_nodup once]

/-- So it is with the pieces that a path is made of. -/
theorem match?_ofPieces {pattern : Pattern} (distinct : pattern.captures.Nodup)
    {pieces : List String} (clean : ∀ piece ∈ pieces, IsPiece piece.toList) :
    pattern.match? (ofPieces pieces) = matched pattern.segments pieces := by
  -- The pieces are clean, so the path is split into them again.
  rw [match?_of_nodup distinct, pieces_ofPieces clean]

end Pattern

end PageServer.Path

import PageServer.Fields
import PageServer.Text.Quoted

/-! Path patterns, such as `/posts/:id`, and the requests that match them. -/

namespace PageServer.Path

/-- The parts of a text between slashes, the empty ones kept. -/
def splitSlashes : List Char → List (List Char)
  | [] => [[]]
  | c :: rest =>
    match splitSlashes rest with
    -- There is always a first part, so this case does not come up.
    | [] => [[c]]
    | first :: others => if c = '/' then [] :: first :: others else (c :: first) :: others

/-- The non-empty pieces between the slashes of a path. -/
def pieces (path : String) : List String :=
  ((splitSlashes path.toList).filter fun piece => !piece.isEmpty).map String.ofList

/-- One step of a pattern. -/
inductive Segment where
  /-- A piece that must be equal. -/
  | literal (text : String)
  /-- Any one piece, captured under a name. -/
  | capture (name : String)
  deriving DecidableEq, Repr

namespace Segment

/-- A segment as it is written. -/
def text : Segment → String
  | literal text => text
  | capture name => ":" ++ name

/-- A segment as the router writes it. -/
def route : Segment → String
  | literal text => text
  | capture name => "\x7b" ++ name ++ "\x7d"

/-- Reads a piece as a segment; a colon must be followed by a name. -/
def ofPiece? (piece : String) : Option Segment :=
  match piece.toList with
  | [':'] => none
  | ':' :: name => some (capture (String.ofList name))
  | _ => some (literal piece)

end Segment

/-- A path pattern. -/
structure Pattern where
  segments : List Segment
  deriving DecidableEq, Repr

/-- A pattern with a colon that no name follows. -/
structure EmptyCapture where
  pattern : String
  deriving DecidableEq, Repr

/-- What is said of such a pattern. -/
def EmptyCapture.message (fault : EmptyCapture) : String :=
  "empty path variable in pattern " ++ Text.quoted fault.pattern

/-- Reads pieces as segments, if each of them is one. -/
def segments? : List String → Option (List Segment)
  | [] => some []
  | piece :: rest => do
    let first ← Segment.ofPiece? piece
    let others ← segments? rest
    return first :: others

namespace Pattern

/-- Reads a pattern. -/
def parse (text : String) : Except EmptyCapture Pattern :=
  match segments? (pieces text) with
  | some segments => .ok { segments }
  | none => .error { pattern := text }

/-- The names that a pattern captures, in order. -/
def captures (pattern : Pattern) : List String :=
  pattern.segments.filterMap fun segment =>
    match segment with
    | .capture name => some name
    | .literal _ => none

/-- A pattern as it is written. -/
def text (pattern : Pattern) : String := "/" ++ "/".intercalate (pattern.segments.map Segment.text)

/-- A pattern as the router writes it. -/
def route (pattern : Pattern) : String :=
  "/" ++ "/".intercalate (pattern.segments.map Segment.route)

/-- Matches segments with pieces one by one, captures being added to those so far. -/
def matchFrom (captured : Fields String) : List Segment → List String → Option (Fields String)
  | [], [] => some captured
  | .literal text :: segments, piece :: pieces =>
    if text = piece then matchFrom captured segments pieces else none
  | .capture name :: segments, piece :: pieces =>
    matchFrom (captured.put name piece) segments pieces
  | _, _ => none

/-- The captures of a path that matches the pattern; of a repeated name the last piece counts. -/
def match? (pattern : Pattern) (path : String) : Option (Fields String) :=
  matchFrom [] pattern.segments (pieces path)

end Pattern

end PageServer.Path

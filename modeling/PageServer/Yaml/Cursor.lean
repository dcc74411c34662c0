import PageServer.Yaml.Fault

/-! The text of a document, and a place in it. -/

namespace PageServer.Yaml

/-- Ends of lines as one line feed each. -/
def unifyLines : List Char → List Char
  | '\r' :: '\n' :: rest => '\n' :: unifyLines rest
  | '\r' :: rest => '\n' :: unifyLines rest
  | c :: rest => c :: unifyLines rest
  | [] => []

/-- The characters that may stand in a document. -/
def isAllowed (c : Char) : Bool :=
  let code := c.toNat
  code == 0x09 || code == 0x0A || code == 0x0D || (0x20 ≤ code && code ≤ 0x7E) || code == 0x85 ||
    (0xA0 ≤ code && code ≤ 0xD7FF) || (0xE000 ≤ code && code ≤ 0xFFFD) || 0x10000 ≤ code

/-- The characters that end a line, carriage returns being gone. -/
def isBreak (c : Char) : Bool :=
  c == '\n' || c.toNat == 0x85 || c.toNat == 0x2028 || c.toNat == 0x2029

/-- The mark that may stand before a document. -/
def byteOrderMark : Char := Char.ofNat 0xFEFF

/-- Whether a line ends here; no character is the end of the text. -/
def endsLine : Option Char → Bool
  | none => true
  | some c => isBreak c

/-- Whether a line ends here, or a space stands here. -/
def endsField : Option Char → Bool
  | some ' ' => true
  | c => endsLine c

/-- Whether a line ends here, or a space or a tab stands here. -/
def endsWord : Option Char → Bool
  | some '\t' => true
  | c => endsField c

/-- A place in a text: what is left of it, and how far it is from the start. -/
structure Cursor where
  rest : List Char
  index : Nat := 0
  line : Nat := 0
  column : Nat := 0
  deriving DecidableEq, Repr

namespace Cursor

/-- The character here. -/
def here (cursor : Cursor) : Option Char := cursor.rest.head?

/-- The character so many places ahead. -/
def ahead (cursor : Cursor) (places : Nat) : Option Char := cursor.rest[places]?

/-- One character on. -/
def next (cursor : Cursor) : Cursor :=
  match cursor.rest with
  | [] => cursor
  | c :: rest =>
    if isBreak c then
      { rest, index := cursor.index + 1, line := cursor.line + 1, column := 0 }
    -- The mark of byte order takes no column.
    else if c = byteOrderMark then { cursor with rest, index := cursor.index + 1 }
    else { cursor with rest, index := cursor.index + 1, column := cursor.column + 1 }

/-- So many characters on. -/
def advance (cursor : Cursor) : Nat → Cursor
  | 0 => cursor
  | count + 1 => cursor.next.advance count

/-- The characters from here on that satisfy a test, and the place after them. -/
def span (cursor : Cursor) (test : Char → Bool) : List Char × Cursor :=
  let taken := cursor.rest.takeWhile test
  (taken, cursor.advance taken.length)

/-- The place after any spaces. -/
def skipSpaces (cursor : Cursor) : Cursor := (cursor.span (· == ' ')).2

/-- The place after a comment, if one starts here. -/
def skipComment (cursor : Cursor) : Cursor :=
  if cursor.here = some '#' then (cursor.span fun c => !isBreak c).2 else cursor

/-- The end of a line, if one is here: what it counts as, and the place after it. -/
def lineBreak? (cursor : Cursor) : Option (Char × Cursor) :=
  match cursor.here with
  | some c =>
    if c = '\n' || c.toNat = 0x85 then some ('\n', cursor.next)
    else if isBreak c then some (c, cursor.next)
    else none
  | none => none

/-- Whether three such characters and the end of a word stand here. -/
def startsMarker (cursor : Cursor) (mark : Char) : Bool :=
  cursor.rest.take 3 == [mark, mark, mark] && endsWord (cursor.ahead 3)

/-- Whether the start or the end of a document is marked here. -/
def atMarker (cursor : Cursor) : Bool := cursor.startsMarker '-' || cursor.startsMarker '.'

/-- Refuses the character here. -/
def refuse {α : Type} (cursor : Cursor) : Except Fault α := .error (.scanner cursor.index)

/-- The rest of a line that may hold nothing but a comment, and its end. -/
def finishLine (cursor : Cursor) : Except Fault Cursor :=
  let cursor := cursor.skipSpaces.skipComment
  match cursor.lineBreak? with
  | some (_, after) => .ok after
  | none => if cursor.rest.isEmpty then .ok cursor else cursor.refuse

end Cursor

/-- How many characters are taken in at first, and how many each time that more are needed. -/
def pageSizes : Nat × Nat := (8192, 4096)

/-- How much of a text can be read: all pages before the first that holds a bad character. -/
def readable? (characters : List Char) : Option Nat :=
  let (first, other) := pageSizes
  (characters.findIdx? fun c => !isAllowed c).map fun bad =>
    if bad < first then 0 else first + (bad - first) / other * other

end PageServer.Yaml

import PageServer.Store.Basic
import PageServer.Store.Collation
import PageServer.Store.Instant
import PageServer.Store.Mathematics
import PageServer.Store.Pattern
import PageServer.Text.Quoted

/-! The functions that formulas apply to cells. -/

namespace PageServer.Store

open Decimal (Binary)

/-- The part of a list from a place counted from one, or from the end if negative. -/
def slice {α : Type} (items : List α) (start : Int) (count : Option Int) : List α :=
  let size : Int := items.length
  -- The first place, and one beyond the last, both counted from zero.
  let first := if start > 0 then start - 1 else if start < 0 then size + start else 0
  -- A negative count takes what stands before the place.
  let last := match count with
    | none => size
    | some n => if n < 0 then first else if start = 0 then n - 1 else first + n
  let first := match count with
    | some n => if n < 0 then first + n else first
    | none => first
  -- Places outside the list count for the width, but there is nothing at them.
  let low := (max first 0).toNat
  (items.take (max last 0).toNat).drop low

/-- The place of a part in a list, counted from one; zero if it is not there. -/
def placeOf {α : Type} [BEq α] (part : List α) : Nat → List α → Nat
  | place, items =>
    if part.isPrefixOf items then place
    else
      match items with
      -- The end of the list is a place too: an empty part was met there at the latest.
      | [] => 0
      | _ :: rest => placeOf part (place + 1) rest

/-- A text with each occurrence of a part, which is not empty, replaced. -/
def replaced (part new : List Char) : Nat → List Char → List Char
  | 0, text => text
  | _, [] => []
  | fuel + 1, c :: rest =>
    -- What has been put in is not searched again.
    if part.isPrefixOf (c :: rest) then new ++ replaced part new fuel ((c :: rest).drop part.length)
    else c :: replaced part new fuel rest

/-- The greatest of cells, the first of equals; missing if one is missing. -/
def greatest (collation : Collation) : List Cell → Cell
  | [] => .null
  | first :: rest =>
    if (first :: rest).any (· == .null) then .null
    -- Cells of different kinds are ordered too, so any of them can be the greatest.
    else rest.foldl (fun best cell => if collation.order best cell = .lt then cell else best) first

/-- The least of cells, the last of equals; missing if one is missing. -/
def least (collation : Collation) : List Cell → Cell
  | [] => .null
  | first :: rest =>
    if (first :: rest).any (· == .null) then .null
    else rest.foldl (fun best cell => if collation.order best cell = .lt then best else cell) first

/-- A function of one text. -/
def onText (change : String → Cell) (cell : Cell) : Cell :=
  match cell.text? with
  | some content => change content
  | none => .null

/-- The most bytes of a pattern. -/
def patternLimit : Nat := 50000

/--
A test of a text against a pattern.

Bytes match no pattern and no bytes are one; of texts only what stands before a null character
counts.
-/
def matched (test : List Char → List Char → Bool) (pattern text : Cell) : Except Fault Cell :=
  if (pattern matches .blob _) || (text matches .blob _) then .ok (.int 0)
  else if (pattern.text?.getD "").utf8ByteSize > patternLimit then .error .longPattern
  else
    match pattern.chars?, text.chars? with
    | some wanted, some found => .ok (.ofTruth (some (test wanted found)))
    | _, _ => .ok .null

/-- Whether a text is like a pattern, the mark that makes pattern characters plain being given. -/
def like (pattern text : Cell) (mark : Option Cell) : Except Fault Cell :=
  match mark with
  | none => matched (isLike none) pattern text
  | some given =>
    -- The mark is looked at only after the pattern has been found fit.
    if (pattern matches .blob _) || (text matches .blob _) then .ok (.int 0)
    else if (pattern.text?.getD "").utf8ByteSize > patternLimit then .error .longPattern
    else
      match given.chars? with
      | none => .ok .null
      | some [c] => matched (isLike (some c)) pattern text
      | some _ => .error .escapeMark

/-- The absolute value of a cell. -/
def absolute : Cell → Except Fault Cell
  | .null => .ok .null
  -- The lowest number has no positive counterpart.
  | .int n => if n = leastInt then .error .wideResult else .ok (.int n.natAbs)
  | other =>
    let value := other.double
    .ok (.real (if isNegative value then value.neg else value))

/-- The length of a cell: characters up to a null character, or bytes. -/
def lengthOf : Cell → Cell
  | .null => .null
  | .blob bytes => .int bytes.length
  | other => .int (other.chars?.getD []).length

/-- Bytes as hexadecimal digits. -/
def hexadecimal (bytes : List UInt8) : List Char :=
  bytes.flatMap fun byte => (Text.hexPadded 2 byte.toNat).map Char.toUpper

/-- A cell as a formula that gives it back. -/
def literalText : Cell → String
  | .null => "NULL"
  | .int n => Text.decimal n
  | .flag value => if value then "1" else "0"
  | .blob bytes => "X'" ++ String.ofList (hexadecimal bytes) ++ "'"
  | .real value =>
    -- Fifteen digits do if they read back as the same double.
    let short := doubleText value
    if leadingDouble short = value then short
    else ({ form := .scientific, precision := 20, full := true } : Layout).text value
  | .text content =>
    -- A quote inside is doubled, and the text ends at a null character.
    let chars := (Cell.text content).chars?.getD []
    "'" ++ String.ofList (chars.flatMap fun c => if c = '\'' then [c, c] else [c]) ++ "'"

/-- The sound of a letter: a digit for consonants that sound alike. -/
def soundOf (letter : Char) : Nat :=
  if "BFPV".toList.contains letter then 1
  else if "CGJKQSXZ".toList.contains letter then 2
  else if "DT".toList.contains letter then 3
  else if letter = 'L' then 4
  else if "MN".toList.contains letter then 5
  else if letter = 'R' then 6
  else 0

/-- The sounds of letters without repetitions, after a sound. -/
def sounds (before : Nat) : List Char → List Nat
  | [] => []
  | letter :: rest =>
    let sound := soundOf letter
    -- A vowel parts two letters that sound alike, which then both count.
    if sound = 0 then sounds 0 rest
    else if sound = before then sounds before rest
    else sound :: sounds sound rest

/-- How a text sounds: its first letter and three digits. -/
def soundex (cell : Cell) : Cell :=
  let bytes := (String.ofList (cell.chars?.getD [])).toUTF8.toList
  -- Sounds are those of bytes: a byte beyond the letters counts by its low seven bits.
  let letters := (bytes.dropWhile fun byte => !(Char.ofNat byte.toNat).isAlpha).map fun byte =>
    (Char.ofNat (byte.toNat % 128)).toUpper
  match letters with
  | [] => .text "?000"
  | first :: rest =>
    let digits := (sounds (soundOf first) rest).take 3
    .text (String.ofList (first :: digitChars (digits ++ List.replicate (3 - digits.length) 0)))

/-- The character of a number; one that has none is the replacement character. -/
def characterOf (cell : Cell) : Char :=
  let n := cell.whole
  if n = 0 then '\x00'
  -- Half of a pair of code units is no character.
  else if n < 0 || n > 0x10FFFF || (0xD800 ≤ n && n ≤ 0xDFFF) then Char.ofNat 0xFFFD
  else Char.ofNat n.toNat

/-- The most bytes of a cell. -/
def sizeLimit : Nat := 1000000000

/-- A part of a text or of bytes, from a place on and perhaps of a length. -/
def substring (cells : List Cell) : Cell :=
  if cells.any (· == .null) then .null
  else
    -- The numbers are read in thirty-two bits.
    let start := (cells.getD 1 .null).short
    let count := cells[2]?.map Cell.short
    match cells.getD 0 .null with
    | .blob bytes => .blob (slice bytes start count)
    | other =>
      onText (fun content => .text (String.ofList (slice content.toList start count))) other

/-- A text without blanks, or without the characters of a second text. -/
def trim (left right : Bool) : List Cell → Cell
  | [a] => onText (fun content =>
      .text (String.ofList (trimmed left right [' '] content.toList))) a
  | [a, b] =>
    match a.text?, b.text? with
    | some content, some marks =>
      .text (String.ofList (trimmed left right marks.toList content.toList))
    | _, _ => .null
  | _ => .null

/-- A text with a part replaced; an empty part leaves the cell as it is. -/
def replace (cell part new : Cell) : Cell :=
  match cell.text?, part.text? with
  | some text, some found =>
    -- A part that starts with a null character counts as empty as well.
    if (part.chars?.getD []).isEmpty then cell
    else
      onText (fun new => .text (String.ofList
        (replaced found.toList new.toList (text.length + 1) text.toList))) new
  | _, _ => .null

/-- The place of a cell in another: of bytes in bytes, else of a text in a text. -/
def instr (whole part : Cell) : Cell :=
  match whole, part with
  | .blob bytes, .blob wanted => .int (placeOf wanted 1 bytes)
  | _, _ =>
    match whole.text?, part.text? with
    | some text, some wanted => .int (placeOf wanted.toList 1 text.toList)
    | _, _ => .null

/-- The count of the store that a function gives, if it gives one. -/
def Tally.count? (tally : Tally) : String → List Cell → Option Int
  | "changes", [] => some tally.changes
  | "last_insert_rowid", [] => some tally.lastRow
  | "total_changes", [] => some tally.total
  | _, _ => none

/-- Applies a function of its arguments alone; texts are compared under a collation. -/
def applyPlain (collation : Collation) (function : String) (arguments : List Cell) :
    Except Fault Cell :=
  let name := fold function
  match name, arguments with
  | "abs", [a] => absolute a
  | "atan2", [a, b] => .ok (onDoubles (Binary.viaMachine₂ Float.atan2) a b)
  | "char", cells => .ok (.text (String.ofList (cells.map characterOf)))
  | "format", cells | "printf", cells => .ok (Cell.template cells)
  | "glob", [pattern, text] =>
    matched (fun wanted found => isShaped (wanted.length + 1) wanted found) pattern text
  | "hex", [a] => .ok (.text (String.ofList (hexadecimal a.bytes)))
  | "instr", [a, b] => .ok (instr a b)
  | "length", [a] => .ok (lengthOf a)
  | "like", [pattern, text] => like pattern text none
  | "like", [pattern, text, mark] => like pattern text (some mark)
  | "log", [a, b] => .ok (logarithmTo a b)
  | "lower", [a] => .ok (onText (fun content => .text (fold content)) a)
  | "ltrim", cells => .ok (trim true false cells)
  -- These are known by name, but work only on tables of a kind that is not there.
  | "match", _ => .error (.elsewhere "MATCH")
  | "matchinfo", _ | "offsets", _ | "optimize", _ | "snippet", _ => .error (.elsewhere name)
  | "max", cells => .ok (greatest collation cells)
  | "min", cells => .ok (least collation cells)
  | "mod", [a, b] => .ok (onDoubles Binary.fmod a b)
  | "nullif", [a, b] =>
    .ok (if a != .null && b != .null && collation.order a b = .eq then .null else a)
  | "pi", [] => .ok (.real pi)
  | "pow", [a, b] | "power", [a, b] => .ok (onDoubles (Binary.viaMachine₂ Float.pow) a b)
  | "quote", [a] => .ok (.text (literalText a))
  -- A selection with these is left to an engine; the constants serve the one for trials.
  | "random", [] => .ok (.int 0)
  | "randomblob", [a] => .ok (.blob (List.replicate (max 1 a.whole).toNat 0))
  | "replace", [a, b, c] => .ok (replace a b c)
  | "round", [a] => .ok (roundedTo 0 a)
  | "round", [a, b] => .ok (if b == .null then .null else roundedTo (max 0 b.short).toNat a)
  | "rtrim", cells => .ok (trim false true cells)
  | "soundex", [a] => .ok (soundex a)
  | "sqlite_version", [] => .ok (.text "3.40.1")
  | "substr", cells | "substring", cells => .ok (substring cells)
  | "trim", cells => .ok (trim true true cells)
  | "typeof", [a] => .ok (.text a.typeName)
  | "unicode", [a] =>
    .ok (onText (fun content => match content.toList with
      | c :: _ => .int c.toNat
      | [] => .null) a)
  | "upper", [a] =>
    .ok (onText (fun content => .text (String.ofList (content.toList.map Char.toUpper))) a)
  | "zeroblob", [a] =>
    if a.whole > sizeLimit then .error .tooBig
    else .ok (.blob (List.replicate (max 0 a.whole).toNat 0))
  | _, cells =>
    -- Whatever is left is a function of time or one of a single number.
    match instantFunction? name, mathematics? name, cells with
    | some found, _, _ => .ok (found cells)
    | none, some found, [a] => .ok (found a)
    | _, _, _ => .ok .null

/-- Applies a function to its arguments, of which the counts of the store have none. -/
def applyFunction (tally : Tally) (collation : Collation) (function : String)
    (arguments : List Cell) : Except Fault Cell :=
  match tally.count? (fold function) arguments with
  | some count => .ok (.int count)
  | none => applyPlain collation function arguments

end PageServer.Store

import PageServer.Store.Conversion

/-!
Templates: texts with places that cells fill.

A place starts with a percent sign and ends with the letter of its kind. Between them stand marks,
a width and a precision; a star takes a number from the cells. Widths count bytes. A place of no
known kind ends the text.
-/

namespace PageServer.Store

open Decimal (Binary)

/-- How a place in a template is to be filled. -/
structure Place where
  /-- Whether what fills it stands on the left. -/
  left : Bool := false
  /-- What stands before a number that is not negative. -/
  sign : Option Char := none
  /-- Whether digits are set off in groups of three. -/
  grouped : Bool := false
  alternate : Bool := false
  /-- Whether characters count, not bytes, and more digits of a double. -/
  full : Bool := false
  zeros : Bool := false
  width : Nat := 0
  precision : Option Nat := none
  deriving DecidableEq, Repr

/-- The bytes of characters. -/
def charBytes (chars : List Char) : List UInt8 := (String.ofList chars).toUTF8.toList

namespace Place

/-- The whole number that digits spell, in thirty-one bits. -/
def count (digits : List Char) : Nat := Text.ofDigits (digits.map digitValue) % 2147483648

/-- The whole number that a cell stands for, in thirty-two bits. -/
def argument (given : List Cell) : Int := Int.bmod ((given.head?.map Cell.whole).getD 0) 4294967296

/--
Reads a place from after its percent sign: its marks, the letter of its kind, the cells that are
left, and what follows.
-/
def read : Nat → Place → List Cell → List Char → Option (Place × Char × List Cell × List Char)
  | 0, _, _, _ | _, _, _, [] => none
  | fuel + 1, place, given, c :: rest =>
    -- After a width only a precision or a mark of length may come before the kind.
    let ends (place : Place) (given : List Cell) (rest : List Char) :
        Option (Place × Char × List Cell × List Char) :=
      match rest with
      | [] => none
      | d :: after =>
        if d = '.' || d = 'l' then read fuel place given rest else some (place, d, given, after)
    match c with
    | '-' => read fuel { place with left := true } given rest
    | '+' => read fuel { place with sign := some '+' } given rest
    | ' ' => read fuel { place with sign := some ' ' } given rest
    | '#' => read fuel { place with alternate := true } given rest
    | '!' => read fuel { place with full := true } given rest
    | '0' => read fuel { place with zeros := true } given rest
    | ',' => read fuel { place with grouped := true } given rest
    | '*' =>
      -- A negative width from a cell puts what fills the place on the left.
      let width := argument given
      ends { place with left := place.left || width < 0, width := width.natAbs % 2147483648 }
        given.tail rest
    | '.' =>
      match rest with
      | '*' :: after =>
        let precision := argument given
        follows { place with precision := some precision.natAbs } given.tail after
      | _ =>
        -- Without digits the precision is zero.
        let digits := rest.takeWhile Char.isDigit
        follows { place with precision := some (count digits) } given (rest.drop digits.length)
    | 'l' =>
      match rest with
      | 'l' :: d :: after => some (place, d, given, after)
      | d :: after => if d = 'l' then none else some (place, d, given, after)
      | [] => none
    | _ =>
      if c.isDigit then
        let digits := c :: rest.takeWhile Char.isDigit
        ends { place with width := count digits } given (rest.drop (digits.length - 1))
      else some (place, c, given, rest)
where
  /-- What follows a precision: a mark of length, or the letter of the kind. -/
  follows (place : Place) (given : List Cell) :
      List Char → Option (Place × Char × List Cell × List Char)
    | 'l' :: 'l' :: d :: after => some (place, d, given, after)
    | 'l' :: d :: after => if d = 'l' then none else some (place, d, given, after)
    | d :: after => if d = 'l' then none else some (place, d, given, after)
    | [] => none

/-- Bytes made as wide as a place asks. -/
def padded (place : Place) (bytes : List UInt8) : List UInt8 :=
  let blanks := List.replicate (place.width - bytes.length) (UInt8.ofNat ' '.toNat)
  if place.left then bytes ++ blanks else blanks ++ bytes

/-- Whether a byte goes on with a character. -/
def goesOn (byte : UInt8) : Bool := byte &&& 0xC0 == 0x80

/-- A place as wide in characters as it asks in bytes, if characters count. -/
def widened (place : Place) (bytes : List UInt8) : Place :=
  if place.full && place.width > 0 then
    { place with width := place.width + (bytes.filter goesOn).length }
  else place

/-- Digits in groups of three. -/
def groups (digits : List Char) : List Char :=
  (digits.foldr (fun digit (done, index) =>
    -- Groups are counted from the last digit.
    (digit :: (if index > 0 && index % 3 = 0 then ',' :: done else done), index + 1))
    (([] : List Char), 0)).1

/-- A whole number in a base, with what stands before and after it. -/
def whole (place : Place) (before : List Char) (base : Nat) (upper : Bool) (mark ending : List Char)
    (n : Nat) : List UInt8 :=
  let digits := (Nat.toDigits base n).map fun c => if upper then c.toUpper else c
  let least := place.precision.getD 0
  -- Zeros fill the width, less what a sign takes of it.
  let least := if place.zeros then max least (place.width - before.length) else least
  let digits := digits ++ ending
  let digits := List.replicate (least - digits.length) '0' ++ digits
  let digits := if place.grouped then groups digits else digits
  -- The mark of the base stands before all else, and a zero has none.
  let mark := if place.alternate && n > 0 then mark else []
  place.padded (charBytes (mark ++ before ++ digits))

/-- A whole number with a sign. -/
def signed (place : Place) (ending : Nat → List Char) (n : Int) : List UInt8 :=
  let before := if n < 0 then ['-'] else place.sign.toList
  place.whole before 10 false [] (ending n.natAbs) n.natAbs

/-- A whole number as the bits of one without sign. -/
def unsigned (place : Place) (base : Nat) (upper : Bool) (mark : List Char) (n : Int) :
    List UInt8 :=
  place.whole [] base upper mark [] (Int.emod n 18446744073709551616).toNat

/-- A double. -/
def double (place : Place) (form : Form) (mark : Char) (x : Binary) : List UInt8 :=
  let layout : Layout :=
    { form, precision := place.precision.getD 6, alternate := place.alternate, full := place.full,
      mark }
  let before := if isNegative x then ['-'] else place.sign.toList
  let body := layout.chars x
  -- What is no number has no digits that zeros could stand before.
  let zeros := match x with
    | .finite _ _ _ =>
      if place.zeros && !place.left then place.width - before.length - body.length else 0
    | _ => 0
  place.padded (charBytes (before ++ List.replicate zeros '0' ++ body))

/-- The first so many bytes, or characters if they count. -/
def cut (place : Place) (chars : List Char) : List UInt8 :=
  match place.precision with
  | none => charBytes chars
  -- A cut by bytes may part a character.
  | some n => if place.full then charBytes (chars.take n) else (charBytes chars).take n

/-- A text. -/
def text (place : Place) (chars : List Char) : List UInt8 :=
  let bytes := place.cut chars
  (place.widened bytes).padded bytes

/-- A text between quotes, each quote in it doubled; none for a missing one. -/
def quoted (place : Place) (quote : Char) (around : Bool) (chars : Option (List Char)) :
    List UInt8 :=
  let mark : UInt8 := UInt8.ofNat quote.toNat
  let bytes := match chars with
    -- A missing text is written as a word, which gets no quotes.
    | none => place.cut (if around then "NULL".toList else "(NULL)".toList)
    | some found =>
      let inner := (place.cut found).flatMap fun byte =>
        if byte = mark then [byte, byte] else [byte]
      if around then mark :: inner ++ [mark] else inner
  (place.widened bytes).padded bytes

/-- A character as often as the precision asks. -/
def repeated (place : Place) (chars : List Char) : List UInt8 :=
  let bytes := charBytes [chars.headD '\x00']
  -- The last one is padded by itself, so the width is shared between it and the others.
  let more := place.precision.getD 0 - 1
  let width := place.width - more
  let before := if more > 0 && !place.left then width - 1 else 0
  let place := { place with full := true, width := if before > 0 then 0 else width }
  List.replicate before (UInt8.ofNat ' '.toNat) ++ (List.replicate more bytes).flatten ++
    (place.widened bytes).padded bytes

/-- What fills a place of a kind, if the kind is known, and the cells that are left. -/
def fill (place : Place) (kind : Char) (given : List Cell) : Option (List UInt8 × List Cell) :=
  let number := (given.head?.map Cell.whole).getD 0
  let value := (given.head?.map Cell.double).getD (.ofInt 0)
  let chars := (given.head?.bind Cell.chars?)
  let rest := given.tail
  -- Only plain whole numbers are set off in groups.
  let bare := { place with grouped := false }
  match kind with
  | 'd' | 'i' => some (place.signed (fun _ => []) number, rest)
  | 'r' => some (bare.signed (fun n => (ordinalEnding n).toList) number, rest)
  | 'u' => some (place.unsigned 10 false [] number, rest)
  | 'x' => some (bare.unsigned 16 false ['0', 'x'] number, rest)
  | 'X' => some (bare.unsigned 16 true ['0', 'X'] number, rest)
  | 'p' => some (bare.unsigned 16 true ['0', 'x'] number, rest)
  | 'o' => some (bare.unsigned 8 false ['0'] number, rest)
  | 'f' => some (place.double .fixed 'e' value, rest)
  | 'e' => some (place.double .scientific 'e' value, rest)
  | 'E' => some (place.double .scientific 'E' value, rest)
  | 'g' => some (place.double .general 'e' value, rest)
  | 'G' => some (place.double .general 'E' value, rest)
  | 's' | 'z' => some (place.text (chars.getD []), rest)
  | 'q' => some (place.quoted '\'' false chars, rest)
  | 'Q' => some (place.quoted '\'' true chars, rest)
  | 'w' => some (place.quoted '"' false chars, rest)
  | 'c' => some (place.repeated (chars.getD []), rest)
  -- This kind neither takes a cell nor writes anything.
  | 'n' => some ([], given)
  -- A percent sign is a kind too, and is padded like any other.
  | '%' => some (place.padded [UInt8.ofNat '%'.toNat], given)
  | _ => none

end Place

/-- Fills a template; nothing at all if it has neither text nor a place. -/
def fillTemplate : Nat → List Cell → List Char → Option (List UInt8)
  | 0, _, _ | _, _, [] => none
  | fuel + 1, given, c :: rest =>
    if c ≠ '%' then
      let plain := c :: rest.takeWhile (· ≠ '%')
      -- What comes before a place that cannot be read stays.
      let after := fillTemplate fuel given (rest.dropWhile (· ≠ '%'))
      some (charBytes plain ++ after.getD [])
    -- At the very end a percent sign stands for itself.
    else if rest.isEmpty then some (charBytes ['%'])
    else do
      let (place, kind, given, after) ← Place.read (rest.length + 1) {} given rest
      let (bytes, given) ← place.fill kind given
      return bytes ++ (fillTemplate fuel given after).getD []

/-- A template filled with cells. -/
def Cell.template : List Cell → Cell
  | [] => .null
  | first :: given =>
    match first.chars? with
    | none => .null
    | some chars =>
      match fillTemplate (chars.length + 1) given chars with
      | none => .null
      | some bytes => .text (Cell.bytesText bytes)

end PageServer.Store

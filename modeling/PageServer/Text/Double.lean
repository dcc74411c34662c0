import PageServer.Decimal.Binary
import PageServer.Text.Numeral

/-! Reading doubles from text. -/

namespace PageServer.Text

/-- The digits, in any script, that a text starts with, and what follows them. -/
def splitDigits (text : List Char) : List Nat × List Char :=
  (text.takeWhile (fun c => (digit? c).isSome) |>.filterMap digit?,
    text.dropWhile fun c => (digit? c).isSome)

/-- The exponent that a text spells, if it is complete or absent. -/
def exponent? : List Char → Option Int
  | [] => some 0
  | c :: rest =>
    if c == 'e' || c == 'E' then
      let (negative, body) := splitSign rest
      let (digits, after) := splitDigits body
      if digits.isEmpty || !after.isEmpty then none
      else
        let value : Int := ofDigits digits
        some (if negative then -value else value)
    else none

/-- The double nearest to what a text spells, blanks around it aside. -/
def double? (text : String) : Option Decimal.Binary :=
  let trimmed := ((text.toList.dropWhile isBlank).reverse.dropWhile isBlank).reverse
  let (negative, body) := splitSign trimmed
  let word := String.ofList (body.map Char.toLower)
  if word == "inf" || word == "infinity" then some (.infinite negative)
  else if word == "nan" then some .undefined
  else
    let (whole, after) := splitDigits body
    let (fraction, after) := match after with
      | '.' :: rest => splitDigits rest
      | _ => ([], after)
    -- One side of the point may be left out, but not both.
    if whole.isEmpty && fraction.isEmpty then none
    else (exponent? after).map fun exponent =>
      .ofDecimal negative (ofDigits (whole ++ fraction)) (exponent - fraction.length)

end PageServer.Text

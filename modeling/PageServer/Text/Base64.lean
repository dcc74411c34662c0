/-!
Bytes written in sixty-four characters, six bits each.

Reading is lenient: characters that stand for nothing are passed over, and what follows complete
padding is not looked at. What is left at the end must be whole groups of four.
-/

namespace PageServer.Text

/-- The six bits that a character stands for. -/
def sextet? (c : Char) : Option Nat :=
  if c.isUpper then some (c.toNat - 'A'.toNat)
  else if c.isLower then some (c.toNat - 'a'.toNat + 26)
  else if c.isDigit then some (c.toNat - '0'.toNat + 52)
  else if c == '+' then some 62
  else if c == '/' then some 63
  else none

/-- Reads bytes; `held` is the incomplete group, `pads` how many padding characters follow it. -/
def base64From (held : List Nat) (pads : Nat) : List Char → Option (List UInt8)
  | [] => if held.isEmpty then some [] else none
  | c :: rest =>
    if c == '=' then
      -- One character is less than a byte, so padding after it pads nothing.
      if 2 ≤ held.length && 4 ≤ held.length + pads + 1 then some []
      else base64From held (if 2 ≤ held.length then pads + 1 else pads) rest
    else
      match sextet? c, held with
      | none, _ => base64From held pads rest
      | some bits, [] => base64From [bits] 0 rest
      | some bits, [a] =>
        (base64From [a, bits] 0 rest).map ((a * 4 + bits / 16).toUInt8 :: ·)
      | some bits, [a, b] =>
        (base64From [a, b, bits] 0 rest).map ((b % 16 * 16 + bits / 4).toUInt8 :: ·)
      | some bits, _ :: _ :: last :: _ =>
        (base64From [] 0 rest).map ((last % 4 * 64 + bits).toUInt8 :: ·)

/-- The bytes that a text spells, if its last group is complete. -/
def base64? (text : List Char) : Option (List UInt8) := base64From [] 0 text

end PageServer.Text

import PageServer.Decimal.Binary

/-! Sums, products and quotients of doubles: the double nearest to the exact result. -/

namespace PageServer.Decimal.Binary

/-- The double nearest to a signed ratio; a result of zero takes the given sign. -/
def ofSignedRatio (zeroNegative : Bool) (numerator : Int) (denominator : Nat) : Binary :=
  if numerator = 0 then finite zeroNegative 0 leastExponent
  else ofRatio (numerator < 0) numerator.natAbs denominator

/-- The double nearest to a whole number. -/
def ofInt (n : Int) : Binary := ofSignedRatio false n 1

/-- The same magnitude with the other sign. -/
def neg : Binary → Binary
  | finite negative mantissa exponent => finite (!negative) mantissa exponent
  | infinite negative => infinite (!negative)
  | undefined => undefined

/-- The signed ratio of a finite double. -/
def signedRatio (negative : Bool) (mantissa : Nat) (exponent : Int) : Int × Nat :=
  let (top, bottom) := ratio mantissa exponent
  (if negative then -(top : Int) else top, bottom)

/-- The sum of two doubles. -/
def add : Binary → Binary → Binary
  | undefined, _ | _, undefined => undefined
  | infinite a, infinite b => if a = b then infinite a else undefined
  | infinite a, finite _ _ _ => infinite a
  | finite _ _ _, infinite b => infinite b
  | finite s m e, finite s' m' e' =>
    let (top, bottom) := signedRatio s m e
    let (top', bottom') := signedRatio s' m' e'
    ofSignedRatio (s && s') (top * bottom' + top' * bottom) (bottom * bottom')

/-- The difference of two doubles. -/
def sub (a b : Binary) : Binary := a.add b.neg

/-- The product of two doubles. -/
def mul : Binary → Binary → Binary
  | undefined, _ | _, undefined => undefined
  | infinite a, infinite b => infinite (a != b)
  | infinite a, finite s m _ | finite s m _, infinite a =>
    if m = 0 then undefined else infinite (a != s)
  | finite s m e, finite s' m' e' =>
    let (top, bottom) := signedRatio s m e
    let (top', bottom') := signedRatio s' m' e'
    ofSignedRatio (s != s') (top * top') (bottom * bottom')

/-- The quotient of two doubles. -/
def div : Binary → Binary → Binary
  | undefined, _ | _, undefined => undefined
  | infinite _, infinite _ => undefined
  | infinite a, finite s _ _ => infinite (a != s)
  | finite s _ _, infinite b => finite (s != b) 0 leastExponent
  | finite s m e, finite s' m' e' =>
    if m' = 0 then if m = 0 then undefined else infinite (s != s')
    else
      let (top, bottom) := ratio m e
      let (top', bottom') := ratio m' e'
      let signed : Int := if s = s' then top * bottom' else -(top * bottom' : Nat)
      ofSignedRatio (s != s') signed (bottom * top')

end PageServer.Decimal.Binary

/-! Texts against patterns. -/

namespace PageServer.Store

/-- Whether some end of a text, the whole text included, passes a test. -/
def someEnd (test : List Char → Bool) (text : List Char) : Bool :=
  (List.range (text.length + 1)).any fun n => test (text.drop n)

/-- Whether two characters are one, ASCII letters in any case. -/
def sameLetter (a b : Char) : Bool := a.toLower == b.toLower

/--
Whether a text is like a pattern: a percent sign stands for any characters, an underscore for one.

After the escape mark a character stands for itself.
-/
def isLike (escape : Option Char) : List Char → List Char → Bool
  | [], text => text.isEmpty
  | p :: rest, text =>
    if escape = some p then
      match rest, text with
      | q :: after, c :: others => sameLetter q c && isLike escape after others
      | _, _ => false
    -- What the pattern goes on with is tried at every end of the text.
    else if p = '%' then someEnd (isLike escape rest) text
    else
      match text with
      | c :: others => (p = '_' || sameLetter p c) && isLike escape rest others
      | [] => false

/--
Whether a character is in a set of characters and ranges, and what follows the set.

Nothing follows a set without end, which matches no character.
-/
def inSet (c : Char) (seen : Bool) (before : Option Char) : List Char → Option (Bool × List Char)
  | [] => none
  | ']' :: rest => some (seen, rest)
  | '-' :: last :: rest =>
    match before with
    | some first =>
      if last = ']' then some (seen || c = '-', rest)
      else inSet c (seen || (first ≤ c && c ≤ last)) none rest
    | none => inSet c (seen || c = '-') (some '-') (last :: rest)
  | d :: rest => inSet c (seen || c = d) (some d) rest

/-- Whether a character is in the set that starts here, and what follows the set. -/
def setAt (c : Char) (pattern : List Char) : Option (Bool × List Char) :=
  let (negated, members) := match pattern with
    | '^' :: rest => (true, rest)
    | _ => (false, pattern)
  let found := match members with
    -- A closing bracket right at the start is a member.
    | ']' :: rest => inSet c (c = ']') none rest
    | _ => inSet c false none members
  found.map fun (seen, rest) => (seen != negated, rest)

/--
Whether a text has the shape of a pattern: a star stands for any characters, a question mark for
one, and a set in brackets for one of its members.
-/
def isShaped : Nat → List Char → List Char → Bool
  | 0, _, _ => false
  | _, [], text => text.isEmpty
  | fuel + 1, p :: rest, text =>
    if p = '*' then someEnd (isShaped fuel rest) text
    else
      match text with
      | [] => false
      | c :: others =>
        if p = '?' then isShaped fuel rest others
        else if p = '[' then
          match setAt c rest with
          | some (matched, after) => matched && isShaped fuel after others
          | none => false
        else p = c && isShaped fuel rest others

end PageServer.Store

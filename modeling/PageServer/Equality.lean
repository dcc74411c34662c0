import PageServer.Value

/-! Equality of values, as the language asks it and as markup compares its parts. -/

namespace PageServer.Value

mutual

/-- Whether two values are the same thing, part by part; functions only if they are one making. -/
def identical : Value → Value → Bool
  | .text a, .text b => a == b
  | .int a, .int b => a == b
  | .bool a, .bool b => a == b
  | .list as, .list bs => identicalAll as bs
  | .record as, .record bs => identicalFields as bs
  | .closure a _ _ _, .closure b _ _ _ => a == b
  | .builtin a, .builtin b => a == b
  | .deferred a, .deferred b => a == b
  | .query a, .query b => a.same b
  | .raw a, .raw b => a == b
  | .tag a, .tag b => a == b
  | .tagWith a as, .tagWith b bs => a == b && identicalFields as bs
  | .response a, .response b => a == b
  | .bare a, .bare b => a == b
  | .bareMarkup a, .bareMarkup b => a == b
  | _, _ => false

/-- Whether two lists hold the same things in the same places. -/
def identicalAll : List Value → List Value → Bool
  | [], [] => true
  | a :: as, b :: bs => identical a b && identicalAll as bs
  | _, _ => false

/-- Whether two records hold the same things under the same names in the same places. -/
def identicalFields : List (String × Value) → List (String × Value) → Bool
  | [], [] => true
  | (m, a) :: as, (n, b) :: bs => m == n && identical a b && identicalFields as bs
  | _, _ => false

end

/-- Whether two records have the same names, in any order. -/
def sameKeys (as bs : Fields Value) : Bool :=
  as.keys.all bs.keys.contains && bs.keys.all as.keys.contains

mutual

/-- Equality of two values of one kind: records in any field order, markup part by part. -/
def equal : Value → Value → Except Fault Bool
  | .text a, .text b => .ok (a == b)
  | .int a, .int b => .ok (a == b)
  | .bool a, .bool b => .ok (a == b)
  -- Lengths, and names of records, come first: parts are compared only where these agree.
  | .list as, .list bs => if as.length = bs.length then equalAll as bs else .ok false
  | .record as, .record bs => if sameKeys as bs then equalFields as bs else .ok false
  | .response a, .response b => .ok (a == b)
  | a, b =>
    -- Parts of markup may be of any kinds: those of different kinds are just not the same.
    if a.isMarkup && b.isMarkup then .ok (a.identical b)
    else .error (.wrongKind "equality" ("a value comparable with " ++ a.kind) b.kind)

/-- Equality item by item, up to the first difference. -/
def equalAll : List Value → List Value → Except Fault Bool
  | a :: as, b :: bs => do if ← equal a b then equalAll as bs else return false
  | _, _ => .ok true

/-- Equality field by field in the left order, up to the first difference. -/
def equalFields : List (String × Value) → List (String × Value) → Except Fault Bool
  | [], _ => .ok true
  | (name, a) :: as, bs =>
    match Fields.get? bs name with
    | some b => do if ← equal a b then equalFields as bs else return false
    | none => .ok false

end

mutual

/-- The order of two texts, numbers, truth values, or lists of these. -/
def order : Value → Value → Except Fault Ordering
  | .text a, .text b => .ok (compare a b)
  | .int a, .int b => .ok (compare a b)
  | .bool a, .bool b => .ok (compare a b)
  | .list as, .list bs => orderAll as bs
  | a, b => .error (.wrongKind "comparison" ("an ordered value matching " ++ a.kind) b.kind)

/-- Lists in dictionary order: the first difference decides, then the length. -/
def orderAll : List Value → List Value → Except Fault Ordering
  | [], [] => .ok .eq
  | [], _ :: _ => .ok .lt
  | _ :: _, [] => .ok .gt
  | a :: as, b :: bs => do
    match ← order a b with
    | .eq => orderAll as bs
    | decided => return decided

end

end PageServer.Value

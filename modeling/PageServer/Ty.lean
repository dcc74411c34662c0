import PageServer.Fields

/-! The types a program declares for its columns, forms and endpoints. -/

namespace PageServer

/-- A type. -/
inductive Ty where
  /-- No type was given. -/
  | absent
  | primitive (name : String)
  | list (item : Ty)
  | record (fields : List (String × Ty))
  | function (param result : Ty)
  | query (columns : List (String × Ty))

namespace Ty

/-- The type of texts. -/
def text : Ty := primitive "text"

/-- The type of whole numbers. -/
def int : Ty := primitive "int"

/-- The type of truth values. -/
def bool : Ty := primitive "bool"

/-- The type of responses. -/
def response : Ty := primitive "response"

mutual

/-- A type as it is written, if every part of it was given; an arrow never takes parentheses. -/
def name? : Ty → Option String
  | absent => none
  | primitive name => some name
  | list item => do return "[" ++ (← item.name?) ++ "]"
  | record fields => do return "\x7b" ++ ", ".intercalate (← fieldNames? fields) ++ "\x7d"
  | function param result => do return (← param.name?) ++ " -> " ++ (← result.name?)
  | query columns => do return "query \x7b" ++ ", ".intercalate (← fieldNames? columns) ++ "\x7d"

/-- Each field with its type. -/
def fieldNames? : List (String × Ty) → Option (List String)
  | [] => some []
  | (key, type) :: rest => do return (key ++ ": " ++ (← type.name?)) :: (← fieldNames? rest)

end

mutual

/-- Whether two types are written the same way, part by part. -/
def same : Ty → Ty → Bool
  | absent, absent => true
  | primitive a, primitive b => a == b
  | list a, list b => same a b
  | record as, record bs => sameFields as bs
  | function p r, function p' r' => same p p' && same r r'
  | query as, query bs => sameFields as bs
  | _, _ => false

/-- Whether two field lists agree name by name and type by type. -/
def sameFields : List (String × Ty) → List (String × Ty) → Bool
  | [], [] => true
  | (a, s) :: as, (b, t) :: bs => a == b && same s t && sameFields as bs
  | _, _ => false

end

/-- The three types a stored column can have. -/
inductive Storable where
  | text
  | int
  | bool
  deriving DecidableEq, Repr

/-- The storable type behind a type, if it has one. -/
def storable? : Ty → Option Storable
  -- Every other type lives only while a program runs.
  | primitive "text" => some .text
  | primitive "int" => some .int
  | primitive "bool" => some .bool
  | _ => none

/-- The column type a name stands for; none is given for a name that columns cannot have. -/
def ofColumnName (name : String) : Ty :=
  if (primitive name).storable?.isSome then primitive name else absent

/-- The fields of the record that a function type takes, for a function from a record only. -/
def argumentFields? : Ty → Option (Fields Ty)
  | function (record fields) _ => some fields
  | _ => none

end Ty

end PageServer

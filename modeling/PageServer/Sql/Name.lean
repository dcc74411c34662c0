import PageServer.Fault

/-! Names that may stand in a statement. -/

namespace PageServer.Sql

/-- Letters and the underscore. -/
def isNameStart (c : Char) : Bool := c.isAlpha || c == '_'

/-- Letters, digits and the underscore. -/
def isNameChar (c : Char) : Bool := c.isAlphanum || c == '_'

/-- The rest of a name: name characters, and at most one line feed at the very end. -/
def isNameRest : List Char → Bool
  | [] => true
  | ['\n'] => true
  | c :: rest => isNameChar c && isNameRest rest

/-- Whether a text may stand in a statement as a name. -/
def isName (text : String) : Bool :=
  match text.toList with
  | [] => false
  | c :: rest => isNameStart c && isNameRest rest

/-- A name, if it may stand in a statement. -/
def checkName (name : String) : Except Fault String :=
  if isName name then .ok name else .error (.unsafeName (.text name))

/-- A name given as loose data; only a text is one. -/
def checkDatum : Datum → Except Fault String
  | .text name => checkName name
  | other => .error (.unsafeName other)

/-- Checks names in order, up to the first that may not stand. -/
def checkNames : List String → Except Fault (List String)
  | [] => .ok []
  | name :: rest => do
    let first ← checkName name
    let others ← checkNames rest
    return first :: others

end PageServer.Sql

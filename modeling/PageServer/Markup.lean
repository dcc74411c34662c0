import PageServer.Value

/-! Rendering values as markup. -/

namespace PageServer.Markup

/-- How one character is written in markup. -/
def escapeChar (c : Char) : List Char :=
  if c = '&' then ['&', 'a', 'm', 'p', ';']
  else if c = '<' then ['&', 'l', 't', ';']
  else if c = '>' then ['&', 'g', 't', ';']
  else if c = '"' then ['&', 'q', 'u', 'o', 't', ';']
  -- A single quote is left alone, as attributes stand between double ones.
  else [c]

/-- A text as markup that shows it. -/
def escape (text : String) : String := String.ofList (text.toList.flatMap escapeChar)

/-- A whole number in decimal, unless it is too long to write. -/
def numberText (n : Int) : Except Fault String :=
  if Text.withinLimit n then .ok (Text.decimal n) else .error .tooManyDigits

/-- The text of an attribute: a text, or a whole number in decimal. -/
def attributeText : Value → Except Fault String
  | .text text => .ok text
  | .int n => numberText n
  | other => .error (.wrongKind "html attribute" "text" other.kind)

/-- One attribute, quoted. -/
def attributePair (name : String) (value : Value) : Except Fault String := do
  let text ← attributeText value
  return name ++ "=\"" ++ escape text ++ "\""

/-- Each attribute in record order, up to the first that has no text. -/
def attributeList : Fields Value → Except Fault (List String)
  | [] => .ok []
  | (name, value) :: rest => do
    let first ← attributePair name value
    let others ← attributeList rest
    return first :: others

/-- Attributes in record order, a space between them. -/
def attributes (fields : Fields Value) : Except Fault String := do
  return " ".intercalate (← attributeList fields)

/-- An element around finished markup; without attributes its opening tag is bare. -/
def element (name body : String) (fields : Fields Value) : Except Fault String :=
  if fields.isEmpty then .ok ("<" ++ name ++ ">" ++ body ++ "</" ++ name ++ ">")
  else do
    let written ← attributes fields
    return "<" ++ name ++ " " ++ written ++ ">" ++ body ++ "</" ++ name ++ ">"

mutual

/-- A value as markup: markup stands, texts are escaped, lists are joined. -/
def render : Value → Except Fault String
  | .raw markup => .ok markup
  | .tag name => element name "" []
  | .tagWith name fields => element name "" fields
  | .bareMarkup _ => .error (.wrongKind "html emission" "html fragment" "html")
  | .text text => .ok (escape text)
  | .int n => numberText n
  | .list items => renderAll items
  | other => .error (.wrongKind "html emission" "html, text, int or list" other.kind)

/-- The markup of values one after the other. -/
def renderAll : List Value → Except Fault String
  | [] => .ok ""
  | item :: rest => do
    let first ← render item
    let others ← renderAll rest
    return first ++ others

end

end PageServer.Markup

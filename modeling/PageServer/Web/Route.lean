import PageServer.Decimal.Shortest
import PageServer.Fields
import PageServer.Sql.Name
import PageServer.Text.Numeral

/-! Routes as they are written, such as `/posts/{id}` or `/posts/{id:int}`: what they accept. -/

namespace PageServer.Web

/-- What a capture takes. -/
inductive Shape where
  /-- One or more characters other than a slash. -/
  | segment
  /-- A whole number. -/
  | whole
  /-- A number with or without a fraction. -/
  | decimal
  /-- Anything up to the end of a line, slashes too. -/
  | rest
  /-- Thirty-two hexadecimal digits in lower case, in five groups with hyphens between them. -/
  | uuid
  deriving DecidableEq, Repr

namespace Shape

/-- The shape that a route names. -/
def ofName? : String → Option Shape
  | "str" => some segment
  | "int" => some whole
  | "float" => some decimal
  | "path" => some rest
  | "uuid" => some uuid
  | _ => none

/-- The numbers from `most` down to one. -/
def descending (most : Nat) : List Nat := (List.range most).reverse.map (· + 1)

/-- The sizes of the groups of a uuid. -/
def uuidGroups : List Nat := [8, 4, 4, 4, 12]

/-- Hexadecimal digits in lower case. -/
def isHex (c : Char) : Bool := c.isDigit || ('a' ≤ c && c ≤ 'f')

/-- How many characters groups of hexadecimal digits take, a hyphen after each but the last. -/
def groupsLength? : List Nat → List Char → Option Nat
  | [], _ => some 0
  | size :: groups, path =>
    let group := path.take size
    if group.length = size && group.all isHex then
      -- The last group has no hyphen after it; what follows is left to the route.
      match groups, path.drop size with
      | [], _ => some size
      | _ :: _, '-' :: after => (groupsLength? groups after).map (size + 1 + ·)
      | _ :: _, _ => none
    else none

/-- How many characters a capture can take from the start of a path, the preferred number first. -/
def lengths (path : List Char) : Shape → List Nat
  | segment => descending (path.takeWhile (· != '/')).length
  | whole => descending (path.takeWhile Char.isDigit).length
  | decimal =>
    let digits := (path.takeWhile Char.isDigit).length
    let fraction := match path.drop digits with
      | '.' :: after => (after.takeWhile Char.isDigit).length
      | _ => 0
    -- The longest fraction comes first, then shorter ones, and then none without its point.
    if digits = 0 then []
    else (descending fraction).map (digits + 1 + ·) ++ descending digits
  -- The end of a line stops it, and it alone may take nothing.
  | rest => descending (path.takeWhile (· != '\n')).length ++ [0]
  | uuid => (groupsLength? uuidGroups path).toList

/-- What a capture stands for: numbers in their usual form, the rest as it is. -/
def value (taken : List Char) : Shape → Except Text.NumeralFault String
  | segment | rest | uuid => .ok (String.ofList taken)
  | whole => do return Text.decimal (← Text.readInt (String.ofList taken))
  | decimal =>
    let digits := (taken.filter Char.isDigit).map fun c => c.toNat - '0'.toNat
    let fraction := (taken.dropWhile Char.isDigit).drop 1
    .ok (Decimal.Binary.ofDecimal false (Text.ofDigits digits) (-fraction.length)).text

end Shape

/-- One step of a route. -/
inductive Step where
  /-- This very character. -/
  | exact (c : Char)
  /-- As much as a shape admits, captured under a name. -/
  | capture (name : String) (shape : Shape)
  deriving DecidableEq, Repr

/-- Why a route cannot be followed. -/
inductive RouteFault where
  | unknownShape (name : String)
  /-- Names that are captured twice. -/
  | repeatedCapture (names : List String) (route : String)
  deriving DecidableEq, Repr

/-- What is said of a route that cannot be followed. -/
def RouteFault.message : RouteFault → String
  | unknownShape name => "Unknown path convertor '" ++ name ++ "'"
  | repeatedCapture names route =>
    "Duplicated param name" ++ (if names.length > 1 then "s " else " ") ++
      ", ".intercalate names ++ " at path " ++ route

/-- The word at the start of a text, and what follows it. -/
def splitWord? : List Char → Option (String × List Char)
  | [] => none
  | c :: rest =>
    if Sql.isNameStart c then
      some (String.ofList (c :: rest.takeWhile Sql.isNameChar), rest.dropWhile Sql.isNameChar)
    else none

/-- The name and the shape in braces, from after the opening one, and what follows them. -/
def capture? (text : List Char) : Option (String × String × List Char) :=
  match splitWord? text with
  | some (name, '\x7d' :: after) => some (name, "str", after)
  | some (name, ':' :: rest) =>
    match splitWord? rest with
    | some (shape, '\x7d' :: after) => some (name, shape, after)
    | _ => none
  | _ => none

/-- The steps of a route; braces around anything but a name and a shape stand for themselves. -/
def stepsFrom : Nat → List Char → Except RouteFault (List Step)
  | 0, _ => .ok []
  | _, [] => .ok []
  | fuel + 1, c :: rest =>
    -- Each step takes a character or more, so the length of the text is enough fuel.
    if c = '\x7b' then
      match capture? rest with
      | some (name, shape, after) =>
        match Shape.ofName? shape with
        | some found => do return .capture name found :: (← stepsFrom fuel after)
        | none => .error (.unknownShape shape)
      | none => do return .exact c :: (← stepsFrom fuel rest)
    else do return .exact c :: (← stepsFrom fuel rest)

/-- The names that steps capture, in order. -/
def captures (steps : List Step) : List String :=
  steps.filterMap fun step =>
    match step with
    | .capture name _ => some name
    | .exact _ => none

/-- The names that occur more than once, sorted. -/
def repeated (names : List String) : List String :=
  (names.filter fun name => names.count name > 1).eraseDups.mergeSort fun a b => !(b < a)

/-- The steps of a route that captures no name twice. -/
def steps (route : String) : Except RouteFault (List Step) := do
  let found ← stepsFrom route.length route.toList
  let names := repeated (captures found)
  if names.isEmpty then return found else throw (.repeatedCapture names route)

/-- What is captured along a path: each name with its shape and the characters taken. -/
abbrev Taken := List (String × Shape × List Char)

/-- The captures of a whole path along the steps; one line feed may follow the last step. -/
def follow : List Step → List Char → Option Taken
  | [], [] | [], ['\n'] => some []
  | [], _ :: _ => none
  | .exact _ :: _, [] => none
  | .exact c :: rest, d :: path => if c = d then follow rest path else none
  | .capture name shape :: rest, path =>
    -- What was taken is given back if the rest of the path cannot be followed.
    (shape.lengths path).findSome? fun length =>
      (follow rest (path.drop length)).map fun taken => (name, shape, path.take length) :: taken

/-- What captures stand for, up to the first number that cannot be read. -/
def values : Taken → Except Text.NumeralFault (Fields String)
  | [] => .ok []
  | (name, shape, taken) :: rest => do
    let first ← shape.value taken
    let others ← values rest
    return (name, first) :: others

/-- The captures of a path that a route accepts. -/
def accepts? (route path : String) : Except Text.NumeralFault (Option (Fields String)) :=
  match steps route with
  -- No site with such a route is opened.
  | .error _ => .ok none
  | .ok steps =>
    match follow steps path.toList with
    | none => .ok none
    | some taken => do return some (← values taken)

end PageServer.Web

import PageServer.Text.Numeral

/-! Tags of nodes, and the tag that a plain scalar has by its text alone. -/

namespace PageServer.Yaml

/-- What a node is meant to be. -/
inductive Tag where
  | null
  | bool
  | int
  | float
  | timestamp
  | str
  | seq
  | map
  | pairs
  | set
  | binary
  /-- The key whose value is merged into the mapping. -/
  | merge
  /-- The key that stands for the whole mapping. -/
  | value
  /-- A tag that nothing is known of. -/
  | unknown
  deriving DecidableEq, Repr, Inhabited

namespace Tag

/-- The tag of a full name. -/
def ofName (name : String) : Tag :=
  match name with
  | "tag:yaml.org,2002:null" => null
  | "tag:yaml.org,2002:bool" => bool
  | "tag:yaml.org,2002:int" => int
  | "tag:yaml.org,2002:float" => float
  | "tag:yaml.org,2002:timestamp" => timestamp
  | "tag:yaml.org,2002:str" => str
  | "tag:yaml.org,2002:seq" => seq
  | "tag:yaml.org,2002:map" => map
  | "tag:yaml.org,2002:pairs" | "tag:yaml.org,2002:omap" => pairs
  | "tag:yaml.org,2002:set" => set
  | "tag:yaml.org,2002:binary" => binary
  | "tag:yaml.org,2002:merge" => merge
  | "tag:yaml.org,2002:value" => value
  | _ => unknown

/-- The words for truth values, in lower case. -/
def truthWords : List (String × Bool) :=
  [("yes", true), ("no", false), ("true", true), ("false", false), ("on", true), ("off", false)]

/-- A word with its first letter in upper case. -/
def capitalised (word : String) : String :=
  match word.toList with
  | [] => ""
  | c :: rest => String.ofList (c.toUpper :: rest)

/-- Whether a text is the word in lower case, with a capital, or in upper case. -/
def spells (word text : String) : Bool :=
  text == word || text == capitalised word || text == word.map Char.toUpper

/-- Decimal digits and underscores. -/
def isDecimalPart (c : Char) : Bool := c.isDigit || c == '_'

/-- Whether a text is one or more parts, each a colon and a number below sixty. -/
def isSexagesimal : List Char → Bool
  -- A part has one digit, or two of which the first is below six.
  | ':' :: a :: ':' :: rest => a.isDigit && isSexagesimal (':' :: rest)
  | [':', a] => a.isDigit
  | ':' :: a :: b :: rest =>
    '0' ≤ a && a ≤ '5' && b.isDigit && (rest.isEmpty || isSexagesimal rest)
  | _ => false

/-- Whether a text without its sign is a whole number: binary, octal, decimal or in sixties. -/
def isWhole (body : List Char) : Bool :=
  match body with
  | ['0'] => true
  | '0' :: 'b' :: rest => !rest.isEmpty && rest.all fun c => c == '0' || c == '1' || c == '_'
  | '0' :: 'x' :: rest =>
    !rest.isEmpty && rest.all fun c => c == '_' || (c.toNat < 0x80 && (Text.digitIn? 16 c).isSome)
  | '0' :: rest => rest.all fun c => c == '_' || ('0' ≤ c && c ≤ '7')
  | c :: rest =>
    let after := rest.dropWhile isDecimalPart
    c.isDigit && (after.isEmpty || isSexagesimal after)
  | [] => false

/-- Whether a text is an exponent with its sign, or nothing. -/
def isExponent : List Char → Bool
  | [] => true
  | mark :: sign :: digits =>
    (mark == 'e' || mark == 'E') && (sign == '-' || sign == '+') && !digits.isEmpty &&
      digits.all Char.isDigit
  | _ => false

/-- Whether a text is a fraction, its point included, and an exponent. -/
def isFraction : List Char → Bool
  | '.' :: rest => isExponent (rest.dropWhile isDecimalPart)
  | _ => false

/-- Whether a text without its sign is a number in sixties with a fraction. -/
def isSexagesimalFraction (body : List Char) : Bool :=
  let whole := body.takeWhile (· != '.')
  let after := whole.dropWhile isDecimalPart
  (body.head?.any Char.isDigit) && isSexagesimal after &&
    (match body.drop whole.length with
    | '.' :: rest => rest.all isDecimalPart
    | _ => false)

/-- Whether a text is a double. -/
def isDouble (text : List Char) : Bool :=
  let (_, body) := Text.splitSign text
  let word := String.ofList body
  (body.head?.any Char.isDigit && isFraction (body.dropWhile isDecimalPart)) ||
    (text.head? == some '.' && (text.drop 1).head?.any Char.isDigit && isFraction text) ||
    isSexagesimalFraction body ||
    word == ".inf" || word == ".Inf" || word == ".INF" ||
    [".nan", ".NaN", ".NAN"].contains (String.ofList text)

/-- A point in time as it is written. -/
structure Written where
  year : Nat
  month : Nat
  day : Nat
  /-- Hour, minute, second and the digits of a fraction, if there are any. -/
  time : Option (Nat × Nat × Nat × List Nat) := none
  /-- Minutes ahead of the prime meridian, if a zone is given. -/
  zone : Option Int := none
  /-- Whether month and day have two digits each. -/
  padded : Bool
  deriving DecidableEq, Repr

/-- The number that between `least` and `most` digits spell here, and what follows them. -/
def digits? (least most : Nat) (text : List Char) : Option (Nat × List Char) :=
  let found := (text.take most).takeWhile Char.isDigit
  if found.length < least then none
  else some (Text.ofDigits (found.map fun c => c.toNat - '0'.toNat), text.drop found.length)

/-- What follows a character, if it stands here. -/
def after? (c : Char) (text : List Char) : Option (List Char) :=
  if text.head? = some c then some text.tail else none

/-- The zone at the end of a point in time. -/
def zone? (text : List Char) : Option (Option Int) :=
  match text.dropWhile fun c => c == ' ' || c == '\t' with
  | [] => if text.isEmpty then some none else none
  | ['Z'] => some (some 0)
  | sign :: rest =>
    if sign == '+' || sign == '-' then do
      let (hours, rest) ← digits? 1 2 rest
      let minutes ← match rest with
        | [] => some 0
        | ':' :: rest => do
          let (minutes, rest) ← digits? 2 2 rest
          if rest.isEmpty then some minutes else none
        | _ => none
      let total : Int := hours * 60 + minutes
      return some (if sign == '-' then -total else total)
    else none

/-- The time of day after a date, and its zone. -/
def time? (text : List Char) : Option ((Nat × Nat × Nat × List Nat) × Option Int) := do
  let text ← match text with
    | 'T' :: rest | 't' :: rest => some rest
    | c :: rest =>
      if c == ' ' || c == '\t' then some (rest.dropWhile fun d => d == ' ' || d == '\t') else none
    | [] => none
  let (hour, text) ← digits? 1 2 text
  let (minute, text) ← digits? 2 2 (← after? ':' text)
  let (second, text) ← digits? 2 2 (← after? ':' text)
  let (fraction, text) := match text with
    | '.' :: rest => (rest.takeWhile Char.isDigit, rest.dropWhile Char.isDigit)
    | _ => ([], text)
  let zone ← zone? text
  return ((hour, minute, second, fraction.map fun c => c.toNat - '0'.toNat), zone)

/-- A text without one line feed at its end, if anything is before it. -/
def withoutFeed (text : String) : String :=
  match text.toList.reverse with
  | '\n' :: c :: rest => String.ofList (c :: rest).reverse
  | _ => text

/-- Reads a point in time: a date, or a date with a time. -/
def written? (text : String) : Option Written := do
  let start := text.toList
  let (year, rest) ← digits? 4 4 start
  let (month, rest) ← digits? 1 2 (← after? '-' rest)
  let (day, rest) ← digits? 1 2 (← after? '-' rest)
  let padded := start.length - rest.length = 10
  if rest.isEmpty then return { year, month, day, padded }
  let (time, zone) ← time? rest
  return { year, month, day, time := some time, zone, padded }

/-- Whether a text is a point in time by itself; a date alone needs all its digits. -/
def isTimestamp (text : String) : Bool :=
  (written? text).any fun found => found.time.isSome || found.padded

/-- The tag of a plain scalar by its text; one line feed after it does not count. -/
def ofText (text : String) : Tag :=
  -- The patterns of tags are matched up to a line feed at the end.
  let text := withoutFeed text
  let (_, body) := Text.splitSign text.toList
  if truthWords.any fun entry => spells entry.1 text then bool
  else if isDouble text.toList then float
  else if isWhole body then int
  else if text == "<<" then merge
  else if text == "" || text == "~" || spells "null" text then null
  else if isTimestamp text then timestamp
  else if text == "=" then value
  -- Indicators that stand alone start nothing that could be read.
  else if text == "!" || text == "&" || text == "*" then unknown
  else str

end Tag

end PageServer.Yaml

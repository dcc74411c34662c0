import PageServer.Datum
import PageServer.Text.Case
import PageServer.Yaml.Document

/-! The settings a program is served with. -/

namespace PageServer

/-- Settings, each kept as it was given. -/
structure Config where
  database : Datum := .text "kuljet.db"
  logLevel : Datum := .text "INFO"
  logFormat : Datum := .text "%(asctime)s %(levelname)s %(name)s: %(message)s"
  createTables : Datum := .bool true

namespace Config

/-- Why settings are refused. -/
inductive Fault where
  | unknownKeys (names : List String)
  /-- A key that is not a text cannot even be named. -/
  | unnamedKey (kind : String)
  /-- Unknown keys of two kinds that have no common order. -/
  | unorderedKeys (left right : String)
  /-- A day and a moment among the unknown keys. -/
  | dayAndMoment
  /-- Moments with and without a zone among the unknown keys. -/
  | zones
  | unknownLevel (level : String)
  /-- A log level that is not a text. -/
  | levelKind (kind : String)
  | noFile (path : String)
  | notMapping (path : String)
  | malformed (fault : Yaml.Fault)
  deriving DecidableEq, Repr

/-- What is said of refused settings. -/
def Fault.message : Fault → String
  | unknownKeys names => "unknown configuration keys: " ++ ", ".intercalate names
  | unorderedKeys left right =>
    "'<' not supported between instances of '" ++ left ++ "' and '" ++ right ++ "'"
  | dayAndMoment => "can't compare datetime.datetime to datetime.date"
  | zones => "can't compare offset-naive and offset-aware datetimes"
  | unnamedKey kind => "sequence item 0: expected str instance, " ++ kind ++ " found"
  | unknownLevel level => "unknown log level: " ++ level
  | levelKind kind => "'" ++ kind ++ "' object has no attribute 'upper'"
  | noFile path => "configuration not found: " ++ path
  | notMapping path => "configuration must be a mapping: " ++ path
  | malformed fault => fault.message?.getD ""

/-- The known settings. -/
def knownKeys : List String := ["database", "log_level", "log_format", "create_tables"]

/-- The known log levels, in upper case. -/
def levels : List String :=
  ["CRITICAL", "FATAL", "ERROR", "WARN", "WARNING", "INFO", "DEBUG", "NOTSET"]

/-- Takes one setting over. -/
def set (config : Config) (name : String) (value : Datum) : Config :=
  match name with
  | "database" => { config with database := value }
  | "log_level" => { config with logLevel := value }
  | "log_format" => { config with logFormat := value }
  | "create_tables" => { config with createTables := value }
  | _ => config

/-- The keys that are no known setting, a text apart from anything else. -/
def unknown (entries : List (Datum × Datum)) : List String × List Datum :=
  let strange := (entries.map Prod.fst).filter fun key =>
    match key with
    | .text name => !knownKeys.contains name
    | _ => true
  (strange.filterMap fun key => match key with
    | .text name => some name
    | _ => none,
   strange.filter fun key => match key with
    | .text _ => false
    | _ => true)

/-- The lesser of two numbers, the first of two that are equal. -/
def lesser (a b : Datum) : Datum :=
  if a.orderNumbers b = some .gt then b else a

/-- Why two keys that are no texts have no order. -/
def orderFault? (a b : Datum) : Option Fault :=
  match a, b with
  | .bytes _, .bytes _ | .date _, .date _ => none
  | .moment m, .moment n => if m.comparable n then none else some .zones
  | .date _, .moment _ | .moment _, .date _ => some .dayAndMoment
  | _, _ => if (a.orderNumbers b).isSome then none else some (.unorderedKeys b.kind a.kind)

/-- The least of the unknown keys that are no texts, if all of them have a common order. -/
def leastKey (names : List String) (first : Datum) (rest : List Datum) : Except Fault Datum :=
  match names, rest.findSome? (orderFault? first) with
  -- A text has no common order with anything else.
  | _ :: _, _ => .error (.unorderedKeys "str" first.kind)
  | [], some fault => .error fault
  | [], none => .ok (rest.foldl lesser first)

/-- Settings from named data: unknown names are refused first, then an unknown log level. -/
def ofData (entries : List (Datum × Datum)) : Except Fault Config := do
  let (names, others) := unknown entries
  -- Unknown keys are to be named in order, which fails at the first that is no text.
  if let first :: rest := others then throw (.unnamedKey (← leastKey names first rest).kind)
  if !names.isEmpty then
    throw (.unknownKeys (names.eraseDups.mergeSort fun a b => !(b < a)))
  let config := entries.foldl (fun config entry =>
    match entry.1 with
    | .text name => config.set name entry.2
    | _ => config) ({} : Config)
  match config.logLevel with
  | .text level =>
    if levels.contains (Text.upper level) then return config else throw (.unknownLevel level)
  -- Bytes have an upper case too, but are no known level.
  | .bytes level => throw (.unknownLevel (Datum.bytesLiteral level))
  | other => throw (.levelKind other.kind)

/-- The log level as the log takes it: in upper case. -/
def level (config : Config) : String :=
  match config.logLevel with
  | .text level => Text.upper level
  | other => other.plain

/-- Settings from the text of a file, if there is one; an empty document gives the defaults. -/
def load (path : String) (content : Option String) : Except Fault Config :=
  match content with
  | none => .error (.noFile path)
  | some text =>
    match Yaml.load text with
    | .error fault => .error (.malformed fault)
    | .ok document =>
      -- Whatever counts as false stands for no settings at all.
      if !document.truthy then ofData []
      else
        match document with
        | .map entries => ofData entries
        | _ => .error (.notMapping path)

end Config

end PageServer

import PageServer.Store.Fault
import PageServer.Store.Keyword

/-! Which functions there are, and how many arguments they take. -/

namespace PageServer.Store

/-- What a function is applied to. -/
inductive FunctionKind where
  /-- The values of one row. -/
  | plain
  /-- The values of many rows. -/
  | aggregate
  /-- The rows around one row. -/
  | window
  deriving DecidableEq, Repr

/-- A function of a name: its kind, and its least and greatest number of arguments. -/
structure Signature where
  name : String
  kind : FunctionKind
  least : Nat
  greatest : Option Nat
  deriving DecidableEq, Repr

namespace Signature

/-- Functions of one row with so many arguments. -/
def plain (count : Nat) (names : List String) : List Signature :=
  names.map fun name => ⟨name, .plain, count, some count⟩

/-- Functions of one row with at least so many arguments. -/
def open_ (least : Nat) (names : List String) : List Signature :=
  names.map fun name => ⟨name, .plain, least, none⟩

/-- Functions that take between two numbers of arguments. -/
def between (kind : FunctionKind) (least greatest : Nat) (names : List String) : List Signature :=
  names.map fun name => ⟨name, kind, least, some greatest⟩

/-- All functions. -/
def all : List Signature :=
  plain 0 ["changes", "current_date", "current_time", "current_timestamp", "last_insert_rowid",
    "pi", "random", "sqlite_source_id", "sqlite_version", "total_changes"] ++
  plain 1 ["abs", "acos", "acosh", "asin", "asinh", "atan", "atanh", "ceil", "ceiling", "cos",
    "cosh", "degrees", "exp", "floor", "hex", "length", "likely", "ln", "log10", "log2", "lower",
    "offsets", "optimize", "quote", "radians", "randomblob", "sign", "sin", "sinh", "soundex",
    "sqrt", "tan", "tanh", "trunc", "typeof", "unicode", "unlikely", "upper", "zeroblob"] ++
  plain 2 ["atan2", "glob", "ifnull", "instr", "likelihood", "match", "mod", "nullif", "pow",
    "power"] ++
  plain 3 ["iif", "replace"] ++
  between .plain 1 2 ["log", "ltrim", "matchinfo", "round", "rtrim", "trim"] ++
  between .plain 2 3 ["like", "substr", "substring"] ++
  open_ 0 ["char", "date", "datetime", "format", "julianday", "printf", "snippet", "strftime",
    "time", "unixepoch"] ++
  open_ 2 ["coalesce", "max", "min"] ++
  between .aggregate 1 1 ["avg", "max", "min", "sum", "total"] ++
  between .aggregate 0 1 ["count"] ++
  between .aggregate 1 2 ["group_concat"] ++
  between .window 0 0 ["cume_dist", "dense_rank", "percent_rank", "rank", "row_number"] ++
  between .window 1 1 ["first_value", "last_value", "ntile"] ++
  between .window 2 2 ["nth_value"] ++
  between .window 1 3 ["lag", "lead"]

/-- Functions that formulas here cannot use. -/
def others : List String :=
  ["fts3_tokenizer", "json", "json_array", "json_array_length", "json_extract", "json_group_array",
   "json_group_object", "json_insert", "json_object", "json_patch", "json_quote", "json_remove",
   "json_replace", "json_set", "json_type", "json_valid", "load_extension", "rtreecheck",
   "rtreedepth", "rtreenode", "sqlite_compileoption_get", "sqlite_compileoption_used",
   "sqlite_log", "subtype"]

/-- Whether a function takes so many arguments. -/
def accepts (signature : Signature) (count : Nat) : Bool :=
  signature.least ≤ count && signature.greatest.all (count ≤ ·)

end Signature

/-- The kind of the function that a name and a number of arguments mean. -/
def functionKind (name : String) (count : Nat) : Except Fault FunctionKind :=
  let named := Signature.all.filter fun signature => signature.name == fold name
  if Signature.others.contains (fold name) then .error (.unsupported name)
  else if named.isEmpty then .error (.noFunction name)
  else
    match named.find? (·.accepts count) with
    | some signature => .ok signature.kind
    | none => .error (.argumentCount name)

end PageServer.Store

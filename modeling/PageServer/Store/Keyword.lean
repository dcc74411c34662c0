/-! Names as the store reads them: reserved words, case, and trailing line feeds. -/

namespace PageServer.Store

/-- Words that cannot name a table or a column. -/
def keywords : List String :=
  ["add", "all", "alter", "and", "as", "autoincrement", "between", "case", "check", "collate",
   "commit", "constraint", "create", "default", "deferrable", "delete", "distinct", "drop", "else",
   "escape", "except", "exists", "foreign", "from", "group", "having", "in", "index", "insert",
   "intersect", "into", "is", "isnull", "join", "limit", "not", "nothing", "notnull", "null", "on",
   "or", "order", "primary", "references", "returning", "select", "set", "table", "then", "to",
   "transaction", "union", "unique", "update", "using", "values", "when", "where"]

/-- A name with its ASCII letters in lower case; the store tells names apart this way. -/
def fold (name : String) : String := String.ofList (name.toList.map Char.toLower)

/-- Whether two names are one to the store. -/
def sameName (a b : String) : Bool := fold a == fold b

/-- Whether a word is reserved. -/
def isKeyword (name : String) : Bool := keywords.contains (fold name)

/-- A name without the line feed that may follow it. -/
def bareName (name : String) : String :=
  String.ofList (name.toList.filter fun c => c != '\n')

end PageServer.Store

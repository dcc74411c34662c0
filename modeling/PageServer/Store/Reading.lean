import PageServer.Fields
import PageServer.Store.Fault
import PageServer.Store.Token

/-!
Steps of reading a statement from tokens.

A statement is refused at the first token that cannot be in its place. A word that is no reserved
word is a name wherever nothing else can stand. Only so many parts are kept in mind at once.
-/

namespace PageServer.Store

/-- What is left to read, and the placeholders met so far. -/
structure Parsing where
  tokens : List Token
  /-- The highest number of a placeholder. -/
  highest : Nat := 0
  /-- The numbers of named placeholders. -/
  names : Fields Nat := []
  /-- A fault in what was read; it counts when the token after it turns out to be in place. -/
  pending : Option Fault := none
  /-- How many parts are kept in mind until what they belong to is complete. -/
  kept : Nat := 0

/-- A step of reading. -/
abbrev Parse := StateT Parsing (Except Fault)

namespace Parse

/-- The next token; what makes no token is refused when it is met. -/
def peek : Parse (Option Token) := do
  match (← get).tokens.head? with
  | none => return none
  | some token =>
    -- Tokens are looked at one ahead, so this may come before a fault of what was read.
    if token.kind = .illegal then throw (.unrecognised token.text) else return some token

/-- Ends reading with the fault that is pending, if there is one. -/
def settle : Parse Unit := do
  match (← get).pending with
  | some fault => throw fault
  | none => return

/-- The most parts that are kept in mind at once. -/
def keptLimit : Nat := 99

/-- Keeps one more part in mind. -/
def keep : Parse Unit := do
  -- Refused before it is counted, so no state ever holds more than the limit.
  if (← get).kept ≥ keptLimit then throw .deepStatement
  modify fun state => { state with kept := state.kept + 1 }

/-- Goes on with so many parts in mind. -/
def keeping (count : Nat) : Parse Unit := modify fun state => { state with kept := count }

/-- What is read adds one part, whatever it is made of. -/
def asOne {α : Type} (read : Parse α) : Parse α := do
  let before := (← get).kept
  let found ← read
  keeping (before + 1)
  return found

/-- What is read becomes a piece of the part before it. -/
def joined {α : Type} (read : Parse α) : Parse α := do
  let before := (← get).kept
  let found ← read
  keeping before
  return found

/-- Passes over the next token. -/
def skip : Parse Unit := do
  keep
  -- What was noted about the tokens before comes to light as soon as this one is in place.
  settle
  modify fun state => { state with tokens := state.tokens.tail }

/-- Notes a fault in what was read. -/
def note (fault : Fault) : Parse Unit := modify fun state => { state with pending := some fault }

/-- Refuses the next token. -/
def refuse {α : Type} : Parse α := do
  match ← peek with
  | none => throw .incomplete
  | some token => throw (.unexpected token.text)

/-- Whether the next token is this word. -/
def atWord (word : String) : Parse Bool := do return (← peek).any (·.isWord word)

/-- Whether the next token is this symbol. -/
def atSymbol (symbol : String) : Parse Bool := do return (← peek).any (·.isSymbol symbol)

/-- Passes over a word, if it is next. -/
def takeWord (word : String) : Parse Bool := do
  if ← atWord word then
    skip
    return true
  else return false

/-- Passes over a symbol, if it is next. -/
def takeSymbol (symbol : String) : Parse Bool := do
  if ← atSymbol symbol then
    skip
    return true
  else return false

/-- Passes over a word that must be next. -/
def expectWord (word : String) : Parse Unit := do if !(← takeWord word) then refuse

/-- Passes over a symbol that must be next. -/
def expectSymbol (symbol : String) : Parse Unit := do if !(← takeSymbol symbol) then refuse

/-- The name that a token is, if it is one; a text may stand for a name. -/
def nameOf? (token : Token) : Option String :=
  match token.kind with
  | .word => if isKeyword token.text then none else some token.text
  | .quotedName name _ => some name
  -- Any text in quotes may be meant as a name where only a name can stand.
  | .string content => some content
  | _ => none

/-- Reads a name. -/
def name : Parse String := do
  match (← peek).bind nameOf? with
  | some found => do
    skip
    return found
  | none => refuse

/-- Words of joins, which name tables and columns only. -/
def joinWords : List String := ["cross", "full", "inner", "left", "natural", "outer", "right"]

/-- The name that a token is, if it is one that may also name a type or a collation. -/
def idOf? (token : Token) : Option String :=
  if joinWords.any token.isWord then none else nameOf? token

/-- Reads the name of a collation. -/
def id : Parse String := do
  match (← peek).bind idOf? with
  | some found => do
    skip
    return found
  | none => refuse

end Parse

end PageServer.Store

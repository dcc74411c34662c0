import PageServer.Value

/-! Scopes: looking a name up, and laying new names over old ones. -/

namespace PageServer.Environment

/-- A scope of one empty layer. -/
def empty : Environment := [[]]

/-- A scope of one layer. -/
def ofBindings (bindings : Frame) : Environment := [Fields.ofPairs bindings]

/-- The value of a name in the innermost layer that has it. -/
def lookup? (env : Environment) (name : String) : Option Value :=
  env.findSome? fun frame => frame.get? name

/-- Lays names over a scope; with none to lay, the scope is the same one. -/
def extend (env : Environment) (bindings : Frame) : Environment :=
  if bindings.isEmpty then env else Fields.ofPairs bindings :: env

/-- Lays one name over a scope. -/
def bind (env : Environment) (name : String) (value : Value) : Environment :=
  env.extend [(name, value)]

/-- Every visible name with its value: outer layers first, each name at its first place. -/
def flatten (env : Environment) : Frame :=
  -- The innermost layer stands first in the scope, so that it is merged last.
  env.reverse.foldl Fields.merge []

/-- Lays everything visible in one scope over another. -/
def union (env other : Environment) : Environment := env.extend other.flatten

end PageServer.Environment

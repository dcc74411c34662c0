import PageServer.Yaml.Atom
import PageServer.Yaml.Node

/-!
Documents as data: each node becomes a datum of its tag.

A scalar is read when it is met. A collection is only begun then; collections are filled in the
order in which they were begun, so of two faults the one nearer to the root is met first.
-/

namespace PageServer.Yaml

/-- A datum whose parts are known by the numbers of their nodes. -/
inductive Made where
  | atom (datum : Datum)
  | list (items : List Nat)
  /-- A list of pairs. -/
  | pairs (items : List (Nat × Nat))
  | map (entries : List (Datum × Nat))
  | set (keys : List Datum)

namespace Made

/-- The datum itself, if it has no parts; only such a datum can be a key. -/
def atom? : Made → Option Datum
  | atom datum => some datum
  | _ => none

end Made

/-- What is known while a document is made into data. -/
structure Making where
  nodes : Array Node
  /-- What was made of each node so far. -/
  made : Array (Option Made)
  /-- The collections that were begun and not filled, in order. -/
  begun : List Nat := []

/-- A step of making a document into data. -/
abbrev Make := StateT Making (Except Fault)

namespace Make

/-- The node of a number. -/
def node (number : Nat) : Make Node := do return (← get).nodes.getD number default

/-- The entries of a mapping, if the node is one. -/
def entries? (number : Nat) : Make (Option (List (Nat × Nat))) := do
  match (← node number).content with
  | .mapping entries => return some entries
  | _ => return none

/-- Changes a node. -/
def change (number : Nat) (f : Node → Node) : Make Unit :=
  modify fun state => { state with nodes := state.nodes.modify number f }

/-- Gives a mapping other entries. -/
def setEntries (number : Nat) (entries : List (Nat × Nat)) : Make Unit :=
  change number fun node => { node with content := .mapping entries }

/-! Merging -/

mutual

/--
Carries out the merges of a mapping from an entry on: what is merged comes before the entries of
its own, so that these win. An equals sign as a key is from now on a text.
-/
def mergeFrom (number index : Nat) (merged : List (Nat × Nat)) : Nat → Make Unit
  | 0 => throw .endless
  | fuel + 1 => do
    let entries := (← entries? number).getD []
    match entries[index]? with
    -- Only now are the entries changed, so a mapping without merges stays as it was written.
    | none => if merged.isEmpty then return else setEntries number (merged ++ entries)
    | some (key, value) =>
      match (← node key).tag with
      | .merge => do
        -- The key is gone while its value is merged, which may be the mapping itself.
        setEntries number (entries.eraseIdx index)
        mergeFrom number index (merged ++ (← mergedEntries value fuel)) fuel
      | .value => do
        change key fun node => { node with tag := .str }
        mergeFrom number (index + 1) merged fuel
      | _ => mergeFrom number (index + 1) merged fuel

/-- The entries that the value of a merge brings in: of several mappings the last first. -/
def mergedEntries (number : Nat) : Nat → Make (List (Nat × Nat))
  | 0 => throw .endless
  | fuel + 1 => do
    match (← node number).content with
    | .mapping _ => mergedMapping number fuel
    -- Of one key set twice the later entry wins, and the first of several mappings is to win.
    | .sequence items => return (← mergedMappings items fuel).reverse.flatten
    | .scalar _ => throw .constructor

/-- The entries of a merged mapping, once its own merges are carried out. -/
def mergedMapping (number : Nat) : Nat → Make (List (Nat × Nat))
  | 0 => throw .endless
  | fuel + 1 => do
    if (← entries? number).isNone then throw .constructor
    mergeFrom number 0 [] fuel
    return (← entries? number).getD []

/-- The entries of each merged mapping in order. -/
def mergedMappings (numbers : List Nat) : Nat → Make (List (List (Nat × Nat)))
  | 0 => throw .endless
  | fuel + 1 => do
    match numbers with
    | [] => return []
    | first :: rest => do
      let found ← mergedMapping first fuel
      return found :: (← mergedMappings rest fuel)

end

/-- How many steps the merges of a document may take. -/
def mergeSteps (nodes : Array Node) : Nat := Nat.pow (nodes.size + 2) 4

/-! Making -/

/-- The text of a scalar; a mapping with an equals sign as a key stands for its value there. -/
def scalarText (number : Nat) : Nat → Make String
  | 0 => throw .endless
  | fuel + 1 => do
    match (← node number).content with
    | .scalar text => return text
    | .sequence _ => throw .constructor
    | .mapping entries => do
      let state ← get
      match entries.find? fun entry => (state.nodes.getD entry.1 default).tag = .value with
      | some (_, value) => scalarText value fuel
      | none => throw .constructor

/-- The datum of a node whose tag is for scalars. -/
def readAtom (number : Nat) (tag : Tag) : Make Datum := do
  let text ← scalarText number ((← get).nodes.size + 1)
  -- The text that stands for a mapping is none that a point in time can be read from.
  if tag = .timestamp && (← entries? number).isSome then throw (.timeKind "list")
  match atom tag text with
  | .ok datum => return datum
  | .error fault => throw fault

/-- Records what was made of a node. -/
def record (number : Nat) (made : Made) : Make Made := do
  modify fun state => { state with made := state.made.setIfInBounds number (some made) }
  return made

/-- Begins a collection. -/
def start (number : Nat) (made : Made) : Make Made := do
  modify fun state => { state with begun := state.begun ++ [number] }
  record number made

/-- Makes a node into a datum, unless that is done; of a collection it makes only the start. -/
def make (number : Nat) : Make Made := do
  match (← get).made.getD number none with
  -- An alias leads to the same node again, which shares what was made of it.
  | some made => return made
  | none =>
    let tag := (← node number).tag
    match tag with
    | .seq => start number (.list [])
    | .pairs => start number (.pairs [])
    | .map => start number (.map [])
    | .set => start number (.set [])
    -- These mean something only as keys.
    | .merge | .value | .unknown => throw .constructor
    | _ => do record number (.atom (← readAtom number tag))

/-- Makes each of several nodes in order. -/
def makeAll : List Nat → Make Unit
  | [] => return
  | first :: rest => do
    let _ ← make first
    makeAll rest

/-- Sets a key: a known one keeps its place and takes the new value. -/
def putEntry (entries : List (Datum × Nat)) (key : Datum) (value : Nat) : List (Datum × Nat) :=
  if entries.any fun entry => entry.1.same key then
    entries.map fun entry => if entry.1.same key then (entry.1, value) else entry
  else entries ++ [(key, value)]

/-- Makes the entries of a mapping in order; a key must be one that can be. -/
def makeEntries (held : List (Datum × Nat)) : List (Nat × Nat) → Make (List (Datum × Nat))
  | [] => return held
  | (key, value) :: rest => do
    match (← make key).atom? with
    | none => throw .constructor
    | some datum => do
      let _ ← make value
      makeEntries (putEntry held datum value) rest

/-- Makes a sequence of mappings of one entry each into pairs. -/
def makePairs : List Nat → Make (List (Nat × Nat))
  | [] => return []
  | first :: rest => do
    match ← entries? first with
    | some [(key, value)] => do
      let _ ← make key
      let _ ← make value
      return (key, value) :: (← makePairs rest)
    | _ => throw .constructor

/-- Makes the entries of a mapping, its merges carried out. -/
def fillMapping (number : Nat) : Make (List (Datum × Nat)) := do
  if (← entries? number).isNone then throw .constructor
  mergeFrom number 0 [] (mergeSteps (← get).nodes)
  makeEntries [] ((← entries? number).getD [])

/-- The items of a sequence. -/
def itemsOf (number : Nat) : Make (List Nat) := do
  match (← node number).content with
  | .sequence items => return items
  | _ => throw .constructor

/-- Fills a collection that was begun. -/
def fill (number : Nat) : Make Unit := do
  let made ← match (← get).made.getD number none with
    | some (.list _) => do
      let items ← itemsOf number
      makeAll items
      pure (.list items)
    | some (.pairs _) => do pure (.pairs (← makePairs (← itemsOf number)))
    | some (.map _) => do pure (.map (← fillMapping number))
    -- A set is written as a mapping whose values count for nothing.
    | some (.set _) => do pure (.set ((← fillMapping number).map Prod.fst))
    | _ => pure (.atom .null)
  let _ ← record number made

/-- Fills collections in the order in which they were begun; each node is begun at most once. -/
def fillAll : Nat → Make Unit
  | 0 => return
  | fuel + 1 => do
    match (← get).begun with
    | [] => return
    | first :: rest => do
      modify fun state => { state with begun := rest }
      fill first
      fillAll fuel

end Make

/-! The finished datum -/

mutual

/-- The datum of a node; `within` are the nodes around it, which are not entered again. -/
def datumOf (made : Array (Option Made)) (within : List Nat) (number : Nat) : Nat → Datum
  | 0 => .null
  | fuel + 1 =>
    match made.getD number none with
    | none => .null
    | some (.atom datum) => datum
    -- Keys are whole data already, so a set has nothing left to enter.
    | some (.set keys) => .set keys
    | some (.list items) =>
      if within.contains number then .again "list"
      else .list (dataOf made (number :: within) items fuel)
    | some (.pairs items) =>
      if within.contains number then .again "list"
      else .list (pairsOf made (number :: within) items fuel)
    | some (.map entries) =>
      if within.contains number then .again "dict"
      else .map (entriesOf made (number :: within) entries fuel)

/-- The data of nodes. -/
def dataOf (made : Array (Option Made)) (within : List Nat) (numbers : List Nat) :
    Nat → List Datum
  | 0 => []
  | fuel + 1 =>
    match numbers with
    | [] => []
    | first :: rest => datumOf made within first fuel :: dataOf made within rest fuel

/-- The data of pairs of nodes. -/
def pairsOf (made : Array (Option Made)) (within : List Nat) (numbers : List (Nat × Nat)) :
    Nat → List Datum
  | 0 => []
  | fuel + 1 =>
    match numbers with
    | [] => []
    | (first, second) :: rest =>
      .list [datumOf made within first fuel, datumOf made within second fuel] ::
        pairsOf made within rest fuel

/-- The data of entries. -/
def entriesOf (made : Array (Option Made)) (within : List Nat) (entries : List (Datum × Nat)) :
    Nat → List (Datum × Datum)
  | 0 => []
  | fuel + 1 =>
    match entries with
    | [] => []
    | (key, value) :: rest =>
      (key, datumOf made within value fuel) :: entriesOf made within rest fuel

end

/-- Reads a document; an empty one is nothing. -/
def load (text : String) : Except Fault Datum := do
  match ← document? text with
  | none => return .null
  | some (root, nodes) =>
    let state : Making := { nodes, made := Array.replicate nodes.size none }
    let making : Make Unit := do
      -- Collections are begun from the root on and filled afterwards, so no nesting is too deep.
      let _ ← Make.make root
      Make.fillAll (nodes.size + 1)
    let (_, state) ← making.run state
    return datumOf state.made [] root (Make.mergeSteps nodes)

end PageServer.Yaml

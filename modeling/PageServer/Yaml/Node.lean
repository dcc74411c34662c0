import PageServer.Fields
import PageServer.Yaml.Stream
import PageServer.Yaml.Tag

/-!
The nodes that the tokens of a document make.

Nodes are numbered in the order in which they start, and refer to each other by number: an alias
gives the number of an earlier node, perhaps of one that it stands in itself.
-/

namespace PageServer.Yaml

/-- What a node holds. -/
inductive Content where
  | scalar (text : String)
  | sequence (items : List Nat)
  | mapping (entries : List (Nat × Nat))
  deriving DecidableEq, Repr, Inhabited

/-- A node of a document. -/
structure Node where
  tag : Tag
  content : Content
  deriving DecidableEq, Repr, Inhabited

/-- What is known while a document is read. -/
structure Reading where
  stream : Stream
  /-- The nodes so far. -/
  nodes : Array Node := #[]
  /-- The nodes with anchors so far. -/
  anchors : Fields Nat := []
  /-- The handles of tags and what they stand for. -/
  handles : Fields String := []

/-- A step of reading a document. -/
abbrev Read := StateT Reading (Except Fault)

namespace Read

/-- The next token. -/
def peek : Read Token := do
  let state ← get
  let (token, stream) ← state.stream.peek
  set { state with stream }
  return token

/-- Passes over the next token. -/
def skip : Read Unit := modify fun state => { state with stream := state.stream.drop }

/-- Whether the next token is one of these. -/
def nextIn (tokens : List Token) : Read Bool := do return tokens.contains (← peek)

/-- The next token must be this one; it is passed over. -/
def expect (token : Token) : Read Unit := do
  if (← peek) = token then skip else throw .parser

/-- The handles that every document has. -/
def standardHandles : Fields String := [("!", "!"), ("!!", "tag:yaml.org,2002:")]

/-- The full name of a tag. -/
def tagName (handle : Option String) (suffix : String) : Read String := do
  match handle with
  | none => return suffix
  | some handle =>
    match (← get).handles.get? handle with
    | some start => return start ++ suffix
    | none => throw .parser

/-- The anchor and the tag before a node, in either order, each at most once. -/
def properties : Read (Option String × Option String) := do
  let (anchor, tag) ← match ← peek with
    | .anchor name => do
      skip
      match ← peek with
      | .tag handle suffix => do skip; pure (some name, some (handle, suffix))
      | _ => pure (some name, none)
    | .tag handle suffix => do
      skip
      match ← peek with
      | .anchor name => do skip; pure (some name, some (handle, suffix))
      | _ => pure (none, some (handle, suffix))
    | _ => pure (none, none)
  -- The handle is looked up only here, after both were read.
  match tag with
  | some (handle, suffix) => return (anchor, some (← tagName handle suffix))
  | none => return (anchor, none)

/-- Adds a node; its anchor must be new. -/
def add (anchor : Option String) (node : Node) : Read Nat := do
  let state ← get
  let number := state.nodes.size
  let anchors ← match anchor with
    | none => pure state.anchors
    | some name =>
      if (state.anchors.get? name).isSome then throw .composer
      else pure (state.anchors.put name number)
  set { state with nodes := state.nodes.push node, anchors }
  return number

/-- Gives a node its content. -/
def fill (number : Nat) (content : Content) : Read Nat := do
  modify fun state => { state with
    nodes := state.nodes.modify number fun node => { node with content } }
  return number

/-- The node of an alias. -/
def aliased (name : String) : Read Nat := do
  match (← get).anchors.get? name with
  | none => throw .composer
  | some number => return number

/-- The tag of a collection: its own, unless it has none. -/
def collectionTag (tag : Option String) (standard : Tag) : Tag :=
  match tag with
  -- The lone mark names no tag, so it counts as none.
  | none | some "!" => standard
  | some name => .ofName name

/-- A sequence that is yet to be filled. -/
def emptySequence (tag : Option String) : Node := ⟨collectionTag tag .seq, .sequence []⟩

/-- A mapping that is yet to be filled. -/
def emptyMapping (tag : Option String) : Node := ⟨collectionTag tag .map, .mapping []⟩

/-- A scalar: its own tag, or the tag of its text if it is plain, else a text. -/
def scalar (tag : Option String) (text : String) (plain : Bool) : Node :=
  let tag := match tag with
    | none => if plain then Tag.ofText text else .str
    | some "!" => .ofText text
    | some name => .ofName name
  ⟨tag, .scalar text⟩

/-- Adds the node that stands where nothing was written. -/
def nothing : Read Nat := add none (scalar none "" true)

mutual

/-- Reads a node; `block` admits block collections, `dashes` a sequence without indentation. -/
def node (block dashes : Bool) : Nat → Read Nat
  | 0 => throw .parser
  | fuel + 1 => do
    match ← peek with
    | .alias name => do
      skip
      aliased name
    | _ => do
      let (anchor, tag) ← properties
      let token ← peek
      -- These dashes open no block, so no token says that the sequence starts.
      if dashes && token = .entry then
        let number ← add anchor (emptySequence tag)
        fill number (.sequence (← dashedItems fuel))
      else
        match token with
        | .scalar text plain => do
          skip
          add anchor (scalar tag text plain)
        | .flowSequence => do
          let number ← add anchor (emptySequence tag)
          skip
          fill number (.sequence (← flowItems true fuel))
        | .flowMapping => do
          let number ← add anchor (emptyMapping tag)
          skip
          fill number (.mapping (← flowEntries true fuel))
        | other => do
          if block && other = .blockSequence then
            let number ← add anchor (emptySequence tag)
            skip
            fill number (.sequence (← blockItems fuel))
          else if block && other = .blockMapping then
            let number ← add anchor (emptyMapping tag)
            skip
            fill number (.mapping (← blockEntries fuel))
          -- A node of which only anchor or tag is written is an empty scalar.
          else if anchor.isSome || tag.isSome then add anchor (scalar tag "" true)
          else throw .parser

/-- Reads a node, or nothing before one of the given tokens. -/
def nodeUnless (stops : List Token) (block dashes : Bool) : Nat → Read Nat
  | 0 => throw .parser
  | fuel + 1 => do if ← nextIn stops then nothing else node block dashes fuel

/-- The items of a block sequence. -/
def blockItems : Nat → Read (List Nat)
  | 0 => throw .parser
  | fuel + 1 => do
    if (← peek) = .entry then
      skip
      let item ← nodeUnless [.entry, .blockEnd] true false fuel
      return item :: (← blockItems fuel)
    else
      expect .blockEnd
      return []

/-- The items of a sequence that is indented like the mapping around it. -/
def dashedItems : Nat → Read (List Nat)
  | 0 => throw .parser
  | fuel + 1 => do
    if (← peek) = .entry then
      skip
      let item ← nodeUnless [.entry, .key, .value, .blockEnd] true false fuel
      return item :: (← dashedItems fuel)
    else return []

/-- The entries of a block mapping. -/
def blockEntries : Nat → Read (List (Nat × Nat))
  | 0 => throw .parser
  | fuel + 1 => do
    if (← peek) = .key then
      skip
      let key ← nodeUnless [.key, .value, .blockEnd] true true fuel
      let value ←
        if (← peek) = .value then do
          skip
          nodeUnless [.key, .value, .blockEnd] true true fuel
        else nothing
      return (key, value) :: (← blockEntries fuel)
    else
      expect .blockEnd
      return []

/-- The items of a flow sequence; one with a colon is a mapping of one entry. -/
def flowItems (first : Bool) : Nat → Read (List Nat)
  | 0 => throw .parser
  | fuel + 1 => do
    if (← peek) = .flowSequenceEnd then
      skip
      return []
    -- A comma may also stand last: after it the end is looked for once more.
    if !first then expect .comma
    match ← peek with
    | .flowSequenceEnd => do
      skip
      return []
    | .key => do
      -- The mapping has its number before its key has, since it starts there.
      let number ← add none (emptyMapping none)
      skip
      let key ← nodeUnless [.value, .comma, .flowSequenceEnd] false false fuel
      let value ←
        if (← peek) = .value then do
          skip
          nodeUnless [.comma, .flowSequenceEnd] false false fuel
        else nothing
      let item ← fill number (.mapping [(key, value)])
      return item :: (← flowItems false fuel)
    | _ => do
      let item ← node false false fuel
      return item :: (← flowItems false fuel)

/-- The entries of a flow mapping. -/
def flowEntries (first : Bool) : Nat → Read (List (Nat × Nat))
  | 0 => throw .parser
  | fuel + 1 => do
    if (← peek) = .flowMappingEnd then
      skip
      return []
    if !first then expect .comma
    match ← peek with
    | .flowMappingEnd => do
      skip
      return []
    | .key => do
      skip
      let key ← nodeUnless [.value, .comma, .flowMappingEnd] false false fuel
      let value ←
        if (← peek) = .value then do
          skip
          nodeUnless [.comma, .flowMappingEnd] false false fuel
        else nothing
      return (key, value) :: (← flowEntries false fuel)
    | _ => do
      let key ← node false false fuel
      let value ← nothing
      return (key, value) :: (← flowEntries false fuel)

end

/-- Takes in the directives before a document. -/
def directives (versioned : Bool) : Nat → Read Unit
  | 0 => return
  | fuel + 1 => do
    match ← peek with
    | .directive (.version major) => do
      -- A second version is refused even where it is the same.
      if versioned || major ≠ 1 then throw .parser
      skip
      directives true fuel
    | .directive (.handle handle start) => do
      let state ← get
      if (state.handles.get? handle).isSome then throw .parser
      set { state with handles := state.handles.put handle start }
      skip
      directives versioned fuel
    | .directive .other => do
      skip
      directives versioned fuel
    | _ => return

/-- Passes over marks of the end of a document. -/
def skipEnds : Nat → Read Unit
  | 0 => return
  | fuel + 1 => do
    if (← peek) = .documentEnd then
      skip
      skipEnds fuel

/-- Passes over the directives and the mark of a document that starts here; false at the end. -/
def openDocument (fuel : Nat) : Read Bool := do
  skipEnds fuel
  if (← peek) = .streamEnd then return false
  -- No document takes handles over from the one before.
  modify fun state => { state with handles := [] }
  directives false fuel
  modify fun state => { state with
    handles := standardHandles.filter (fun entry => (state.handles.get? entry.1).isNone) ++
      state.handles }
  expect .documentStart
  return true

/-- Whether a token stands before a document that has no node. -/
def endsDocument : Token → Bool
  | .directive _ | .documentStart | .documentEnd | .streamEnd => true
  | _ => false

/-- Reads the one document of a stream, if there is one; its first node is the root. -/
def document (fuel : Nat) : Read (Option Nat) := do
  let token ← peek
  let root ←
    if endsDocument token && token ≠ .documentEnd then do
      if ← openDocument fuel then
        if endsDocument (← peek) then do pure (some (← nothing))
        else do pure (some (← node true false fuel))
      else pure none
    else do
      -- Without a mark the document starts with its node, and has no directives.
      modify fun state => { state with handles := standardHandles }
      pure (some (← node true false fuel))
  if root.isNone then return none
  -- One mark belongs to this document; any further ones are passed over with the next.
  if (← peek) = .documentEnd then skip
  -- A second document is refused as soon as it starts.
  if ← openDocument fuel then throw .composer
  return root

end Read

/-- The root and all nodes of the one document of a text, if there is one. -/
def document? (text : String) : Except Fault (Option (Nat × Array Node)) := do
  let characters := unifyLines text.toList
  -- A bad character further on is met only when reading gets there.
  let limit := readable? characters
  if limit = some 0 then throw .character
  let rest := (limit.map characters.take).getD characters
  let fuel := 10 * rest.length + 20
  let (found, state) ← (Read.document fuel).run { stream := { cursor := { rest }, limit } }
  return found.map (·, state.nodes)

end PageServer.Yaml

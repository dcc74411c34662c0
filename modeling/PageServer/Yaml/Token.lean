import PageServer.Yaml.Scalar

/-! The tokens of a document, and those whose characters stand together in one place. -/

namespace PageServer.Yaml

/-- What a directive says. -/
inductive Directive where
  | version (major : Nat)
  /-- A handle stands for the start of a tag. -/
  | handle (handle start : String)
  | other
  deriving DecidableEq, Repr

/-- A token. -/
inductive Token where
  | streamEnd
  | directive (directive : Directive)
  | documentStart
  | documentEnd
  | blockSequence
  | blockMapping
  | blockEnd
  | flowSequence
  | flowMapping
  | flowSequenceEnd
  | flowMappingEnd
  /-- The dash before an entry of a block sequence. -/
  | entry
  /-- The comma between entries of a flow collection. -/
  | comma
  | key
  | value
  | alias (name : String)
  | anchor (name : String)
  /-- A tag, after a handle or on its own. -/
  | tag (handle : Option String) (suffix : String)
  | scalar (text : String) (plain : Bool)
  deriving DecidableEq, Repr

/-- The characters of names. -/
def isNameChar (c : Char) : Bool := c.isAlphanum || c == '-' || c == '_'

/-- The characters of tags. -/
def isTagChar (c : Char) : Bool :=
  c.isAlphanum || "-;/?:@&=+$,_.!~*'()[]%".toList.contains c

/-- The name of an anchor or an alias, from after its indicator. -/
def anchorName (cursor : Cursor) : Except Fault (String × Cursor) :=
  let (name, after) := cursor.span isNameChar
  let ends := endsWord after.here ||
    (after.here.any fun c => "?:,]\x7d%@\x60".toList.contains c)
  if name.isEmpty || !ends then after.refuse else .ok (String.ofList name, after)

/-- The bytes that percent escapes spell from here on. -/
def escapedBytes : Nat → Cursor → Except Fault (List UInt8 × Cursor)
  | 0, cursor => .ok ([], cursor)
  | fuel + 1, cursor =>
    if cursor.here = some '%' then
      match hexCode? 2 cursor.next.rest with
      | none => (cursor.next.span isHexDigit).2.refuse
      | some code => do
        let (others, final) ← escapedBytes fuel (cursor.advance 3)
        return (code.toUInt8 :: others, final)
    else .ok ([], cursor)

/-- The characters of a tag from here on, escapes decoded. -/
def tagFrom : Nat → Cursor → Except Fault (List Char × Cursor)
  | 0, cursor => .ok ([], cursor)
  | fuel + 1, cursor =>
    match cursor.here with
    | some '%' => do
      let (bytes, after) ← escapedBytes cursor.rest.length cursor
      match String.fromUTF8? ⟨bytes.toArray⟩ with
      | none => after.refuse
      | some text =>
        let (others, final) ← tagFrom fuel after
        return (text.toList ++ others, final)
    | some c =>
      if isTagChar c then do
        let (others, final) ← tagFrom fuel cursor.next
        return (c :: others, final)
      else .ok ([], cursor)
    | none => .ok ([], cursor)

/-- The characters of a tag; there must be at least one. -/
def tagText (cursor : Cursor) : Except Fault (String × Cursor) := do
  if !(cursor.here.any isTagChar) then cursor.refuse
  let (text, after) ← tagFrom cursor.rest.length cursor
  return (String.ofList text, after)

/-- A tag handle: one exclamation mark, or a name between two. -/
def tagHandle (cursor : Cursor) : Except Fault (String × Cursor) :=
  if cursor.here ≠ some '!' then cursor.refuse
  else if cursor.ahead 1 = some ' ' then .ok ("!", cursor.next)
  else
    let (name, after) := cursor.next.span isNameChar
    if after.here = some '!' then .ok (String.ofList ('!' :: name ++ ['!']), after.next)
    else after.refuse

/-- The tag whose first exclamation mark is here. -/
def tag (cursor : Cursor) : Except Fault (Token × Cursor) := do
  let (token, after) ←
    if cursor.ahead 1 = some '<' then do
      let (suffix, after) ← tagText (cursor.advance 2)
      if after.here ≠ some '>' then after.refuse
      pure (Token.tag none suffix, after.next)
    else if endsWord (cursor.ahead 1) then pure (Token.tag none "!", cursor.next)
    else do
      -- Only a second exclamation mark tells a named handle from the start of a suffix.
      let word := cursor.next.rest.takeWhile fun c => !endsField (some c)
      let (handle, after) ←
        if word.contains '!' then tagHandle cursor else pure ("!", cursor.next)
      let (suffix, after) ← tagText after
      pure (Token.tag (some handle) suffix, after)
  if endsField after.here then return (token, after) else after.refuse

/-- A run of decimal digits. -/
def versionNumber (cursor : Cursor) : Except Fault (Nat × Cursor) :=
  let (digits, after) := cursor.span Char.isDigit
  if digits.isEmpty then cursor.refuse
  else if digits.length > Text.digitLimit then .error (.numeral (.tooLong digits.length))
  else .ok (Text.ofDigits (digits.map fun c => c.toNat - '0'.toNat), after)

/-- The directive whose percent sign is here. -/
def directive (cursor : Cursor) : Except Fault (Token × Cursor) := do
  let (name, after) := cursor.next.span isNameChar
  if name.isEmpty || !endsField after.here then after.refuse
  let (found, after) ←
    if name = ['Y', 'A', 'M', 'L'] then do
      let (major, after) ← versionNumber after.skipSpaces
      if after.here ≠ some '.' then after.refuse
      let (_, after) ← versionNumber after.next
      if !endsField after.here then after.refuse
      pure (Directive.version major, after)
    else if name = ['T', 'A', 'G'] then do
      let (handle, after) ← tagHandle after.skipSpaces
      if after.here ≠ some ' ' then after.refuse
      let (start, after) ← tagText after.skipSpaces
      if !endsField after.here then after.refuse
      pure (Directive.handle handle start, after)
    -- What is not known is passed over up to the end of its line.
    else pure (Directive.other, (after.span fun c => !isBreak c).2)
  return (.directive found, ← after.finishLine)

end PageServer.Yaml

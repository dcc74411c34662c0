import PageServer.Yaml.Cursor

/-! Scalars as they stand in a document: plain, quoted, and in blocks of lines. -/

namespace PageServer.Yaml

/-- The word of a plain scalar that starts here: up to a blank, or what ends a key or an entry. -/
def plainWord (inFlow : Bool) : List Char → List Char
  | [] => []
  | c :: rest =>
    -- A colon ends a word where a value can follow it.
    let endsKey := c == ':' &&
      (endsWord rest.head? || (inFlow && (rest.head?.any fun d => ",[]\x7b\x7d".toList.contains d)))
    if endsWord (some c) || endsKey || (inFlow && ",?[]\x7b\x7d".toList.contains c) then []
    else c :: plainWord inFlow rest

/-- The line breaks from here on, spaces between them dropped; nothing if a document is marked. -/
def plainBreaks : Nat → Cursor → Option (List Char × Cursor)
  | 0, cursor => some ([], cursor)
  | fuel + 1, cursor =>
    let cursor := cursor.skipSpaces
    match cursor.lineBreak? with
    | none => some ([], cursor)
    | some (c, after) =>
      if after.atMarker then none
      else (plainBreaks fuel after).map fun (breaks, final) => (c :: breaks, final)

/-- What stands between two words of a plain scalar. -/
structure Gap where
  /-- What the gap counts as; empty if no word can follow. -/
  text : List Char
  cursor : Cursor
  /-- Whether a line ended, so that a key may start. -/
  newLine : Bool

/-- Lines are folded: one break is a space, and of several the first is dropped. -/
def folded (first : Char) (breaks : List Char) : List Char :=
  if first ≠ '\n' then first :: breaks else if breaks.isEmpty then [' '] else breaks

/-- The gap that starts here. -/
def plainGap (cursor : Cursor) : Gap :=
  let (spaces, cursor) := cursor.span (· == ' ')
  match cursor.lineBreak? with
  | none => { text := spaces, cursor, newLine := false }
  | some (first, after) =>
    if after.atMarker then { text := [], cursor := after, newLine := true }
    else
      match plainBreaks (after.rest.length + 1) after with
      | none => { text := [], cursor := after, newLine := true }
      | some (breaks, final) => { text := folded first breaks, cursor := final, newLine := true }

/-- A plain scalar: its text, whether a key may start after it, and the place after it. -/
structure Plain where
  text : List Char
  newLine : Bool
  cursor : Cursor

/-- The words of a plain scalar from here on; lines after the first are indented by `indent`. -/
def plainFrom (inFlow : Bool) (indent : Int) : Nat → Gap → Plain
  | 0, gap => { text := [], newLine := gap.newLine, cursor := gap.cursor }
  | fuel + 1, gap =>
    let word := if gap.cursor.here = some '#' then [] else plainWord inFlow gap.cursor.rest
    if word.isEmpty then { text := [], newLine := gap.newLine, cursor := gap.cursor }
    else
      let next := plainGap (gap.cursor.advance word.length)
      -- A comment or a line that is indented less ends the scalar, not only its word.
      if next.text.isEmpty || next.cursor.here = some '#' ||
          (!inFlow && (next.cursor.column : Int) < indent) then
        { text := gap.text ++ word, newLine := next.newLine, cursor := next.cursor }
      else
        let others := plainFrom inFlow indent fuel next
        { others with text := gap.text ++ word ++ others.text }

/-- The plain scalar that starts here. -/
def plain (inFlow : Bool) (indent : Int) (cursor : Cursor) : Plain :=
  plainFrom inFlow indent (cursor.rest.length + 1) { text := [], cursor, newLine := false }

/-- The character an escape letter stands for. -/
def escaped? : Char → Option Char
  | '0' => some '\x00'
  | 'a' => some '\x07'
  | 'b' => some '\x08'
  | 't' | '\t' => some '\t'
  | 'n' => some '\n'
  | 'v' => some '\x0b'
  | 'f' => some '\x0c'
  | 'r' => some '\r'
  | 'e' => some '\x1b'
  | ' ' => some ' '
  | '"' => some '"'
  | '\\' => some '\\'
  | '/' => some '/'
  | 'N' => some (Char.ofNat 0x85)
  | '_' => some (Char.ofNat 0xA0)
  | 'L' => some (Char.ofNat 0x2028)
  | 'P' => some (Char.ofNat 0x2029)
  | _ => none

/-- How many hexadecimal digits follow an escape letter. -/
def codeLength? : Char → Option Nat
  | 'x' => some 2
  | 'u' => some 4
  | 'U' => some 8
  | _ => none

/-- Hexadecimal digits. -/
def isHexDigit (c : Char) : Bool := c.toNat < 0x80 && (Text.digitIn? 16 c).isSome

/-- The number that exactly so many hexadecimal digits spell here. -/
def hexCode? (count : Nat) (text : List Char) : Option Nat :=
  let digits := ((text.take count).takeWhile isHexDigit).filterMap (Text.digitIn? 16)
  if digits.length = count then some (Text.ofDigitsIn 16 digits) else none

/-- The line breaks inside a quoted scalar, blanks between them dropped. -/
def quotedBreaks : Nat → Cursor → Except Fault (List Char × Cursor)
  | 0, cursor => .ok ([], cursor)
  | fuel + 1, cursor =>
    if cursor.atMarker then cursor.refuse
    else
      let (_, cursor) := cursor.span fun c => c == ' ' || c == '\t'
      match cursor.lineBreak? with
      | none => .ok ([], cursor)
      | some (c, after) => do
        let (breaks, final) ← quotedBreaks fuel after
        return (c :: breaks, final)

/-- Blanks inside a quoted scalar: kept within a line, folded at its end. -/
def quotedGap (cursor : Cursor) : Except Fault (List Char × Cursor) := do
  let (blanks, cursor) := cursor.span fun c => c == ' ' || c == '\t'
  if cursor.rest.isEmpty then cursor.refuse
  match cursor.lineBreak? with
  | none => return (blanks, cursor)
  | some (first, after) =>
    let (breaks, final) ← quotedBreaks (after.rest.length + 1) after
    return (folded first breaks, final)

/-- An escape inside double quotes, from after its backslash. -/
def escape (cursor : Cursor) : Except Fault (List Char × Cursor) :=
  match cursor.here with
  | none => cursor.refuse
  | some c =>
    match escaped? c, codeLength? c with
    | some meant, _ => .ok ([meant], cursor.next)
    | none, some count =>
      match hexCode? count cursor.next.rest with
      | none => (cursor.next.span isHexDigit).2.refuse
      | some code =>
        if code < 0x110000 then .ok ([Char.ofNat code], cursor.next.advance count)
        else .error (.code code)
    | none, none =>
      match cursor.lineBreak? with
      -- An escaped line break joins two lines with nothing between them.
      | some (_, after) => quotedBreaks (after.rest.length + 1) after
      | none => cursor.refuse

/-- The rest of a quoted scalar, up to and over its closing quote. -/
def quotedFrom (double : Bool) : Nat → Cursor → Except Fault (List Char × Cursor)
  | 0, cursor => cursor.refuse
  | fuel + 1, cursor => do
    let goOn (part : List Char × Cursor) : Except Fault (List Char × Cursor) := do
      let (others, final) ← quotedFrom double fuel part.2
      return (part.1 ++ others, final)
    match cursor.here with
    | none => cursor.refuse
    | some c =>
      -- Between single quotes a quote is doubled; between double ones it is escaped.
      if !double && c = '\'' && cursor.ahead 1 = some '\'' then goOn (['\''], cursor.advance 2)
      else if c = (if double then '"' else '\'') then return ([], cursor.next)
      else if double && c = '\\' then goOn (← escape cursor.next)
      else if endsWord (some c) then goOn (← quotedGap cursor)
      else goOn ([c], cursor.next)

/-- The quoted scalar whose opening quote is here. -/
def quoted (double : Bool) (cursor : Cursor) : Except Fault (List Char × Cursor) :=
  quotedFrom double (cursor.rest.length + 1) cursor.next

/-- What becomes of the line breaks at the end of a block of lines. -/
inductive Chomping where
  | strip
  | clip
  | keep
  deriving DecidableEq, Repr

/-- The chomping that a sign asks for. -/
def Chomping.ofSign? : Option Char → Option Chomping
  | some '+' => some .keep
  | some '-' => some .strip
  | _ => none

/-- The indentation that a digit asks for. -/
def increment? : Option Char → Option Nat
  | some c => if c.isDigit then some (c.toNat - '0'.toNat) else none
  | none => none

/-- The header of a block: a sign and a digit in either order. -/
def blockHeader (cursor : Cursor) : Except Fault (Chomping × Option Nat × Cursor) := do
  let (sign, digit, cursor) :=
    match Chomping.ofSign? cursor.here, increment? cursor.here with
    | some sign, _ =>
      match increment? cursor.next.here with
      | some digit => (some sign, some digit, cursor.next.next)
      | none => (some sign, none, cursor.next)
    | none, some digit =>
      match Chomping.ofSign? cursor.next.here with
      | some sign => (some sign, some digit, cursor.next.next)
      | none => (none, some digit, cursor.next)
    | none, none => (none, none, cursor)
  if digit = some 0 || !endsField cursor.here then cursor.refuse
  return (sign.getD .clip, digit, cursor)

/-- The empty lines before a block, the deepest indentation among them, and the place after them. -/
def blockLead : Nat → Nat → Cursor → List Char × Nat × Cursor
  | 0, deepest, cursor => ([], deepest, cursor)
  | fuel + 1, deepest, cursor =>
    match cursor.lineBreak? with
    | some (c, after) =>
      let (breaks, found, final) := blockLead fuel deepest after
      (c :: breaks, found, final)
    | none =>
      if cursor.here = some ' ' then blockLead fuel (max deepest cursor.next.column) cursor.next
      else ([], deepest, cursor)

/-- The place after spaces, up to a column. -/
def indentTo (column : Nat) (cursor : Cursor) : Cursor :=
  cursor.advance (min (column - cursor.column) (cursor.rest.takeWhile (· == ' ')).length)

/-- The empty lines inside a block, and the place where the next line of it would start. -/
def blockBreaks (column : Nat) : Nat → Cursor → List Char × Cursor
  | 0, cursor => ([], cursor)
  | fuel + 1, cursor =>
    let cursor := indentTo column cursor
    match cursor.lineBreak? with
    | none => ([], cursor)
    | some (c, after) =>
      let (breaks, final) := blockBreaks column fuel after
      (c :: breaks, final)

/-- Whether a blank stands here. -/
def atBlank (cursor : Cursor) : Bool := cursor.here = some ' ' || cursor.here = some '\t'

/-- The lines of a block from here on, each kept or folded, and the end chomped. -/
def blockLines (fold : Bool) (chomping : Chomping) (column : Nat) :
    Nat → List Char → Cursor → List Char × Cursor
  | 0, _, cursor => ([], cursor)
  | fuel + 1, breaks, cursor =>
    if cursor.column = column && !cursor.rest.isEmpty then
      let (line, after) := cursor.span fun c => !isBreak c
      let (ending, after) := match after.lineBreak? with
        | some (c, past) => ([c], past)
        | none => ([], after)
      let (empty, after) := blockBreaks column (after.rest.length + 1) after
      if after.column = column && !after.rest.isEmpty then
        let joint :=
          -- Lines are joined only if neither of them starts with a blank.
          if fold && ending = ['\n'] && !atBlank cursor && !atBlank after then
            if empty.isEmpty then [' '] else []
          else ending
        let (others, final) := blockLines fold chomping column fuel empty after
        (breaks ++ line ++ joint ++ others, final)
      else
        let tail := match chomping with
          | .strip => []
          | .clip => ending
          | .keep => ending ++ empty
        (breaks ++ line ++ tail, after)
    else ((if chomping = .keep then breaks else []), cursor)

/-- The block of lines whose indicator is here, inside a collection of the given indentation. -/
def block (fold : Bool) (indent : Int) (cursor : Cursor) : Except Fault (List Char × Cursor) := do
  let (chomping, increment, cursor) ← blockHeader cursor.next
  let cursor ← cursor.finishLine
  let least := (max (indent + 1) 1).toNat
  let fuel := cursor.rest.length + 1
  let (column, breaks, cursor) :=
    match increment with
    | none =>
      let (breaks, deepest, cursor) := blockLead fuel 0 cursor
      -- The deepest indentation up to the first line counts, that of empty lines included.
      (max least deepest, breaks, cursor)
    | some extra =>
      let column := least + extra - 1
      let (breaks, cursor) := blockBreaks column fuel cursor
      (column, breaks, cursor)
  return blockLines fold chomping column fuel breaks cursor

end PageServer.Yaml

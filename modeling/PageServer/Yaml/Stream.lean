import PageServer.Yaml.Token

/-!
The stream of tokens of a document, read on demand.

Indentation opens and closes block collections, and a token turns out to be a key only when a colon
follows it, so a token is handed out when no colon can follow it any more.
-/

namespace PageServer.Yaml

/-- A token that may turn out to be a key. -/
structure Candidate where
  /-- Which token of the stream it is. -/
  number : Nat
  /-- Whether nothing but a key can stand in its place. -/
  required : Bool
  index : Nat
  line : Nat
  column : Nat
  deriving DecidableEq, Repr

/-- A stream of tokens. -/
structure Stream where
  cursor : Cursor
  /-- The place from which on the text cannot be read, if there is one. -/
  limit : Option Nat := none
  /-- How many flow collections are open. -/
  flow : Int := 0
  /-- The tokens read and not handed out. -/
  queue : List Token := []
  /-- How many tokens were handed out. -/
  taken : Nat := 0
  /-- The indentation of the innermost block collection. -/
  indent : Int := -1
  /-- The indentations of those around it. -/
  outer : List Int := []
  /-- Whether a key may start here. -/
  keyAllowed : Bool := true
  /-- The possible keys, at most one for each depth of flow collections. -/
  candidates : List (Int × Candidate) := []
  ended : Bool := false

namespace Stream

/-- Whether the stream stands inside a flow collection. -/
def inFlow (stream : Stream) : Bool := stream.flow != 0

/-- Adds a token at the end. -/
def push (stream : Stream) (token : Token) : Stream :=
  { stream with queue := stream.queue ++ [token] }

/-- Adds a token at the end, and goes on to a place. -/
def pushTo (stream : Stream) (token : Token) (cursor : Cursor) : Stream :=
  { stream.push token with cursor }

/-- Adds a token of so many characters. -/
def pushOver (stream : Stream) (token : Token) (length : Nat) : Stream :=
  stream.pushTo token (stream.cursor.advance length)

/-- Drops the candidates that are on an earlier line or too far back. -/
def dropStale (stream : Stream) : Except Fault Stream :=
  let stale (entry : Int × Candidate) : Bool :=
    entry.2.line != stream.cursor.line || stream.cursor.index - entry.2.index > 1024
  if stream.candidates.any fun entry => stale entry && entry.2.required then stream.cursor.refuse
  else .ok { stream with candidates := stream.candidates.filter fun entry => !stale entry }

/-- The candidate at this depth. -/
def candidate? (stream : Stream) : Option Candidate :=
  (stream.candidates.find? fun entry => entry.1 == stream.flow).map Prod.snd

/-- The stream without the candidate at this depth. -/
def withoutCandidate (stream : Stream) : Stream :=
  { stream with candidates := stream.candidates.filter fun entry => entry.1 != stream.flow }

/-- Gives up the candidate at this depth; one that had to be a key cannot be given up. -/
def dropCandidate (stream : Stream) : Except Fault Stream :=
  if stream.candidate?.any Candidate.required then stream.cursor.refuse
  else .ok stream.withoutCandidate

/-- Takes the next token as a candidate, if a key may start here. -/
def addCandidate (stream : Stream) : Except Fault Stream := do
  if !stream.keyAllowed then return stream
  -- At the indentation of a mapping nothing but one more key can stand.
  let required := !stream.inFlow && stream.indent == stream.cursor.column
  -- An older candidate at this depth has had its chance of a colon.
  let stream ← stream.dropCandidate
  return { stream with candidates := (stream.flow,
    { number := stream.taken + stream.queue.length, required, index := stream.cursor.index,
      line := stream.cursor.line, column := stream.cursor.column }) :: stream.candidates }

/-- Closes the block collections that are indented deeper than a column. -/
def closeTo (column : Int) : List Int → Stream → Stream
  | [], stream => stream
  | next :: rest, stream =>
    -- Each list entry is one collection around, so the recursion ends where nothing is open.
    if stream.indent > column then
      closeTo column rest { stream.push .blockEnd with indent := next, outer := rest }
    else stream

/-- Closes the block collections that end before a column; in flow, indentation means nothing. -/
def unwind (stream : Stream) (column : Int) : Stream :=
  if stream.inFlow then stream else closeTo column stream.outer stream

/-- Opens a block collection at a column, if it is deeper than the one around it. -/
def deepen? (stream : Stream) (column : Nat) : Option Stream :=
  if stream.indent < column then
    some { stream with indent := column, outer := stream.indent :: stream.outer }
  else none

/-- The place where the next token starts; after a line break a key may start. -/
def skipFrom : Nat → Stream → Stream
  | 0, stream => stream
  | fuel + 1, stream =>
    let cursor := stream.cursor.skipSpaces.skipComment
    match cursor.lineBreak? with
    | some (_, after) =>
      skipFrom fuel
        { stream with cursor := after, keyAllowed := stream.keyAllowed || !stream.inFlow }
    | none => { stream with cursor }

/-- The place where the next token starts. -/
def skip (stream : Stream) : Stream :=
  let cursor := stream.cursor
  -- Only at the very start is the mark of byte order passed over.
  let cursor := if cursor.index = 0 && cursor.here = some byteOrderMark then cursor.next else cursor
  skipFrom (cursor.rest.length + 1) { stream with cursor }

/-- Ends the stream. -/
def finish (stream : Stream) : Except Fault Stream := do
  let stream ← (stream.unwind (-1)).dropCandidate
  return { stream.push .streamEnd with keyAllowed := false, candidates := [], ended := true }

/-- Before a directive or a mark of a document, every block collection ends. -/
def startDocument (stream : Stream) : Except Fault Stream := do
  let stream ← (stream.unwind (-1)).dropCandidate
  return { stream with keyAllowed := false }

/-- Opens a flow collection. -/
def openFlow (stream : Stream) (token : Token) : Except Fault Stream := do
  let stream ← stream.addCandidate
  return { stream.pushOver token 1 with flow := stream.flow + 1, keyAllowed := true }

/-- Closes a flow collection. -/
def closeFlow (stream : Stream) (token : Token) : Except Fault Stream := do
  let stream ← stream.dropCandidate
  return { stream.pushOver token 1 with flow := stream.flow - 1, keyAllowed := false }

/-- The comma after an entry. -/
def comma (stream : Stream) : Except Fault Stream := do
  let stream ← { stream with keyAllowed := true }.dropCandidate
  return stream.pushOver .comma 1

/-- Opens a block collection here, if a key may start here and the collection is new. -/
def openBlock (stream : Stream) (token : Token) : Except Fault Stream :=
  if stream.inFlow then .ok stream
  else if !stream.keyAllowed then stream.cursor.refuse
  else
    match stream.deepen? stream.cursor.column with
    | some deeper => .ok (deeper.push token)
    | none => .ok stream

/-- The dash before an entry. -/
def entry (stream : Stream) : Except Fault Stream := do
  let stream ← stream.openBlock .blockSequence
  let stream ← { stream with keyAllowed := true }.dropCandidate
  return stream.pushOver .entry 1

/-- The question mark before a key. -/
def key (stream : Stream) : Except Fault Stream := do
  let stream ← stream.openBlock .blockMapping
  let stream ← { stream with keyAllowed := !stream.inFlow }.dropCandidate
  return stream.pushOver .key 1

/-- Puts tokens before the token of a number. -/
def insertBefore (stream : Stream) (number : Nat) (tokens : List Token) : Stream :=
  let place := number - stream.taken
  { stream with queue := stream.queue.take place ++ tokens ++ stream.queue.drop place }

/-- The colon before a value; it makes the candidate at this depth a key. -/
def value (stream : Stream) : Except Fault Stream := do
  match stream.candidate? with
  | some found =>
    let stream := { stream.withoutCandidate with keyAllowed := false }
    -- The tokens go before the key, which was read before its colon was.
    let deeper := if stream.inFlow then none else stream.deepen? found.column
    let stream := match deeper with
      | some deeper => deeper.insertBefore found.number [.blockMapping, .key]
      | none => stream.insertBefore found.number [.key]
    return stream.pushOver .value 1
  | none =>
    let stream ← stream.openBlock .blockMapping
    let stream ← { stream with keyAllowed := !stream.inFlow }.dropCandidate
    return stream.pushOver .value 1

/-- A token that may be a key, read from here by a function. -/
def candidateToken (stream : Stream) (read : Cursor → Except Fault (Token × Cursor)) :
    Except Fault Stream := do
  let stream ← stream.addCandidate
  let (token, after) ← read stream.cursor
  return { stream.pushTo token after with keyAllowed := false }

/-- An anchor or an alias. -/
def name (make : String → Token) (cursor : Cursor) : Except Fault (Token × Cursor) := do
  let (name, after) ← anchorName cursor.next
  return (make name, after)

/-- A quoted scalar. -/
def quotedToken (double : Bool) (cursor : Cursor) : Except Fault (Token × Cursor) := do
  let (text, after) ← quoted double cursor
  return (.scalar (String.ofList text) false, after)

/-- A block of lines; after it a key may start. -/
def lines (stream : Stream) (fold : Bool) : Except Fault Stream := do
  let stream ← { stream with keyAllowed := true }.dropCandidate
  let (text, after) ← block fold stream.indent stream.cursor
  return stream.pushTo (.scalar (String.ofList text) false) after

/-- A plain scalar; if it ended with a line, a key may start after it. -/
def plainToken (stream : Stream) : Except Fault Stream := do
  let stream ← stream.addCandidate
  let found := plain stream.inFlow (stream.indent + 1) stream.cursor
  return { stream.pushTo (.scalar (String.ofList found.text) true) found.cursor with
    keyAllowed := found.newLine }

/-- The characters that no plain scalar starts with. -/
def indicators : List Char := "-?:,[]\x7b\x7d#&*!|>'\"%@\x60".toList

/-- Whether a plain scalar starts here. -/
def startsPlain (stream : Stream) (c : Char) : Bool :=
  (!endsWord (some c) && !indicators.contains c) ||
    (!endsWord (stream.cursor.ahead 1) && (c == '-' || (!stream.inFlow && (c == '?' || c == ':'))))

/-- Reads the token that starts with a character. -/
def readAt (stream : Stream) (c : Char) : Except Fault Stream := do
  -- In flow these signs need no blank after them to be signs.
  let lone := stream.inFlow || endsWord (stream.cursor.ahead 1)
  -- Marks of documents come first: they end whatever is open.
  if c = '%' && stream.cursor.column = 0 then
    let stream ← stream.startDocument
    let (token, after) ← directive stream.cursor
    return stream.pushTo token after
  else if stream.cursor.column = 0 && stream.cursor.startsMarker '-' then
    return (← stream.startDocument).pushOver .documentStart 3
  else if stream.cursor.column = 0 && stream.cursor.startsMarker '.' then
    return (← stream.startDocument).pushOver .documentEnd 3
  else if c = '[' then stream.openFlow .flowSequence
  else if c = '\x7b' then stream.openFlow .flowMapping
  else if c = ']' then stream.closeFlow .flowSequenceEnd
  else if c = '\x7d' then stream.closeFlow .flowMappingEnd
  else if c = ',' then stream.comma
  else if c = '-' && endsWord (stream.cursor.ahead 1) then stream.entry
  else if c = '?' && lone then stream.key
  else if c = ':' && lone then stream.value
  else if c = '*' then stream.candidateToken (name .alias)
  else if c = '&' then stream.candidateToken (name .anchor)
  else if c = '!' then stream.candidateToken tag
  else if c = '|' && !stream.inFlow then stream.lines false
  else if c = '>' && !stream.inFlow then stream.lines true
  else if c = '\'' then stream.candidateToken (quotedToken false)
  else if c = '"' then stream.candidateToken (quotedToken true)
  else if stream.startsPlain c then stream.plainToken
  else stream.cursor.refuse

/-- Whether a place is beyond what can be read. -/
def exceeds (stream : Stream) (place : Nat) : Bool := stream.limit.any (· ≤ place)

/-- Refuses a stream that has come to where the text cannot be read. -/
def within (stream : Stream) : Except Fault Stream :=
  if stream.exceeds stream.cursor.index then .error .character else .ok stream

/-- Reads at least one token more; a fault beyond what can be read is that it cannot be read. -/
def more (stream : Stream) : Except Fault Stream := do
  let stream ← stream.skip.within
  let stream ← stream.dropStale
  -- What ended with the last line is closed before the token is read.
  let stream := stream.unwind stream.cursor.column
  let found := match stream.cursor.here with
    | none => stream.finish
    | some c => stream.readAt c
  match found with
  | .error (.scanner place) =>
    -- A character that cannot be read is met before it can be misplaced.
    throw (if stream.exceeds place then .character else .scanner place)
  | .error fault => throw fault
  | .ok next => next.within

/-- Reads tokens until the first one in the queue cannot become a key any more. -/
def settle : Nat → Stream → Except Fault Stream
  | 0, stream => .ok stream
  | fuel + 1, stream => do
    if stream.ended then return stream
    if stream.queue.isEmpty then settle fuel (← stream.more)
    else
      let stream ← stream.dropStale
      -- The first token may still become a key, and then others go before it.
      if stream.candidates.any fun entry => entry.2.number == stream.taken then
        settle fuel (← stream.more)
      else return stream

/-- The next token, and the stream that has it at its head. -/
def peek (stream : Stream) : Except Fault (Token × Stream) := do
  let stream ← settle (stream.cursor.rest.length + 2) stream
  return (stream.queue.head?.getD .streamEnd, stream)

/-- The stream without its next token. -/
def drop (stream : Stream) : Stream :=
  { stream with queue := stream.queue.tail, taken := stream.taken + 1 }

end Stream

end PageServer.Yaml

import PageServer.Store.Keyword
import PageServer.Store.Number

/-! The tokens of a statement's text. -/

namespace PageServer.Store

/-- What a token is. -/
inductive TokenKind where
  | word
  /-- A name between quotes; double quotes leave open whether it is a name or a text. -/
  | quotedName (name : String) (double : Bool)
  | string (content : String)
  | integer
  | float
  | blob
  | placeholder
  | symbol
  /-- Characters that make no token. -/
  | illegal
  deriving DecidableEq, Repr

/-- A token: what it is and how it is written. -/
structure Token where
  kind : TokenKind
  text : String
  deriving DecidableEq, Repr

namespace Token

/-- A word. -/
def ofWord (text : String) : Token := ⟨.word, text⟩

/-- A symbol. -/
def ofSymbol (text : String) : Token := ⟨.symbol, text⟩

/-- Whether a token is the given word, in any case. -/
def isWord (token : Token) (name : String) : Bool :=
  token.kind == .word && fold token.text == name

/-- Whether a token is the given symbol. -/
def isSymbol (token : Token) (text : String) : Bool :=
  token.kind == .symbol && token.text == text

end Token

/-- Characters of words after the first. -/
def isWordChar (c : Char) : Bool := c.isAlphanum || c == '_' || c == '$' || c.toNat ≥ 0x80

/-- Blanks that a run of blanks may start with. -/
def startsSpace (c : Char) : Bool := isSpace c && c != '\x0b'

/-- Hexadecimal digits. -/
def isHexDigit (c : Char) : Bool := c.toNat < 0x80 && (Text.digitIn? 16 c).isSome

/-- How many characters a block comment takes, from after its opening; one without end takes all. -/
def commentLength : List Char → Nat
  | [] => 0
  | '*' :: '/' :: _ => 2
  | _ :: rest => commentLength rest + 1

/-- The content up to the closing quote, how many characters that took, and whether it was there. -/
def quotedPart (quote : Char) : List Char → List Char × Nat × Bool
  -- Without a closing quote the rest of the text is taken, and makes no token.
  | [] => ([], 0, false)
  | c :: rest =>
    if c = quote then
      match rest with
      | d :: after =>
        -- A quote that is doubled stands for itself.
        if d = quote then
          let (content, length, closed) := quotedPart quote after
          (c :: content, length + 2, closed)
        else ([], 1, true)
      | [] => ([], 1, true)
    else
      let (content, length, closed) := quotedPart quote rest
      (c :: content, length + 1, closed)

/-- How many characters an exponent takes here, if it has a digit. -/
def exponentLength : List Char → Nat
  | mark :: rest =>
    if mark == 'e' || mark == 'E' then
      -- A mark without digits after it is no exponent, and starts a word instead.
      let sign := if rest.head? == some '+' || rest.head? == some '-' then 1 else 0
      let digits := ((rest.drop sign).takeWhile Char.isDigit).length
      if digits = 0 then 0 else 1 + sign + digits
    else 0
  | [] => 0

/-- The number that starts here: its kind and its length. -/
def numberAt (text : List Char) : TokenKind × Nat :=
  let hex := match text with
    | '0' :: x :: rest =>
      if x == 'x' || x == 'X' then (rest.takeWhile isHexDigit).length else 0
    | _ => 0
  -- A zero and a mark without hexadecimal digits are no such number.
  if hex > 0 then (.integer, hex + 2)
  else
    let whole := (text.takeWhile Char.isDigit).length
    let fraction := match text.drop whole with
      | '.' :: rest => 1 + (rest.takeWhile Char.isDigit).length
      | _ => 0
    let exponent := exponentLength (text.drop (whole + fraction))
    let length := whole + fraction + exponent
    -- A word cannot start right after a number.
    let junk := ((text.drop length).takeWhile isWordChar).length
    if junk > 0 then (.illegal, length + junk)
    else (if fraction + exponent = 0 then .integer else .float, length)

/-- How many characters a named placeholder takes after its first, and whether it is well formed. -/
def placeholderRest (named : Bool) : List Char → Nat × Bool
  | [] => (0, named)
  -- A name may hold doubled colons, and end with one part in parentheses.
  | ':' :: ':' :: rest =>
    let (length, formed) := placeholderRest named rest
    (length + 2, formed)
  | c :: rest =>
    if isWordChar c then
      let (length, formed) := placeholderRest true rest
      (length + 1, formed)
    else if c = '(' && named then
      let inner := (rest.takeWhile fun d => !isSpace d && d != ')').length
      if rest[inner]? = some ')' then (inner + 2, true) else (inner + 1, false)
    else (0, named)

/-- The blob literal whose quote follows: its kind and its length. -/
def blobAt (text : List Char) : TokenKind × Nat :=
  let digits := ((text.drop 2).takeWhile isHexDigit).length
  let after := text.drop (2 + digits)
  let closed := after.head? = some '\''
  -- A blob that is not well formed still takes all up to its closing quote.
  let upTo := (after.takeWhile (· != '\'')).length
  let length := 2 + digits + upTo + (if (after.drop upTo).isEmpty then 0 else 1)
  (if closed && digits % 2 = 0 then .blob else .illegal, length)

/-- The symbols of two and three characters. -/
def longSymbols : List String := ["->>", "->", "==", "<=", "<>", "<<", ">=", ">>", "!=", "||"]

/-- The symbols of one character. -/
def shortSymbols : List Char := "-/%=<>|,&~()*+;.".toList

/-- The symbol that starts here. -/
def symbolAt (text : List Char) : TokenKind × Nat :=
  -- The longest ones come first, so that none is taken for its own start.
  match longSymbols.find? fun symbol => symbol.toList.isPrefixOf text with
  | some symbol => (.symbol, symbol.length)
  | none =>
    if (text.head?.any shortSymbols.contains) then (.symbol, 1) else (.illegal, 1)

/-- The token that starts with a character that is no blank: its kind and its length. -/
def tokenAt (c : Char) (rest : List Char) : TokenKind × Nat :=
  let text := c :: rest
  if c = '\'' || c = '"' || c = '\x60' then
    let (content, length, closed) := quotedPart c rest
    let content := String.ofList content
    (if !closed then .illegal
      else if c = '\'' then .string content
      else .quotedName content (c = '"'), length + 1)
  else if c = '[' then
    let content := rest.takeWhile (· != ']')
    -- Between brackets nothing can be doubled: the first one that closes ends the name.
    if (rest.drop content.length).isEmpty then (.illegal, content.length + 1)
    else (.quotedName (String.ofList content) false, content.length + 2)
  else if c.isDigit || (c = '.' && rest.head?.any Char.isDigit) then numberAt text
  -- A question mark may stand alone, any other mark needs a name.
  else if c = '?' then (.placeholder, 1 + (rest.takeWhile Char.isDigit).length)
  else if c = ':' || c = '@' || c = '#' || c = '$' then
    let (length, formed) := placeholderRest false rest
    (if formed then .placeholder else .illegal, length + 1)
  else if (c = 'x' || c = 'X') && rest.head? = some '\'' then blobAt text
  else if c.isAlpha || c = '_' || c.toNat ≥ 0x80 then
    (.word, 1 + (rest.takeWhile isWordChar).length)
  else symbolAt text

/-- How many characters of a blank or a comment start here; none if a token does. -/
def blankLength (c : Char) (rest : List Char) : Nat :=
  -- A vertical tab goes on with a blank, but cannot start one.
  if startsSpace c then 1 + (rest.takeWhile isSpace).length
  else if c.toNat = 0xFEFF then 1
  else
    match c, rest with
    | '-', '-' :: _ => 1 + (rest.takeWhile (· != '\n')).length
    -- The star that opens a comment cannot close it as well.
    | '/', '*' :: d :: after => 2 + commentLength (d :: after)
    | _, _ => 0

/--
The tokens of a text up to the end of its first statement, and what follows that.

A semicolon ends a statement, and nothing is read beyond what makes no token.
-/
def scan : Nat → List Char → List Token × List Char
  | 0, text => ([], text)
  | _, [] => ([], [])
  | fuel + 1, c :: rest =>
    let blank := blankLength c rest
    -- Blanks and comments part tokens and leave no trace.
    if blank > 0 then scan fuel ((c :: rest).drop blank)
    else
      let (kind, length) := tokenAt c rest
      let token : Token := ⟨kind, String.ofList ((c :: rest).take length)⟩
      let after := (c :: rest).drop length
      -- Reading gets no further than this token, so nothing after it matters.
      if kind = .illegal then ([token], [])
      else if token.isSymbol ";" then ([token], after)
      else
        let (tokens, tail) := scan fuel after
        (token :: tokens, tail)

/-- The tokens of a text, and what follows its first statement. -/
def tokens (text : String) : List Token × List Char := scan (text.length + 1) text.toList

/-- Whether nothing but blanks and comments is left. -/
def isBlankRest : Nat → List Char → Bool
  | 0, text => text.isEmpty
  | _, [] => true
  | fuel + 1, c :: rest =>
    if c = ' ' || c = '\t' || c = '\x0c' || c = '\n' || c = '\r' then isBlankRest fuel rest
    else
      match c, rest with
      | '-', '-' :: after => isBlankRest fuel (after.dropWhile (· != '\n'))
      -- Here the star that opens a comment may close it too.
      | '/', '*' :: after => isBlankRest fuel (after.drop (commentLength after))
      | _, _ => false

end PageServer.Store

import Rollout.Number.Integer
import Rollout.Text.Encoding
import Rollout.Yaml.ScalarText

/-!
# Tokens of a YAML text

The lexer cuts a text into tokens. Indentation becomes tokens too: a block that
starts is announced by `blockSequenceStart` or `blockMappingStart`, and a line
that stands further left than its block ends it with `blockEnd`.

Not all of a text is cut at once: a token counts as known when nothing that
comes later can put another one in front of it. So a text whose end is at fault
still has `Tokens` that may show a fault of another kind before.

A key is only known as one when its colon comes. So the lexer remembers, for
every level of flow brackets, where the last thing stood that may turn out to be
a key, and puts the `key` token in front of it afterwards. Such a thing has to
lie on the same line as the colon, at most 1024 characters before it.
-/

namespace Rollout.Yaml

/-- A token. The end of the text is the end of the list of tokens. -/
inductive Token where
  | versionDirective (major minor : Nat)
  | tagDirective (handle uri : String)
  /-- A directive without a meaning. -/
  | otherDirective
  | documentStart
  | documentEnd
  | blockSequenceStart
  | blockMappingStart
  | blockEnd
  | flowSequenceStart
  | flowSequenceEnd
  | flowMappingStart
  | flowMappingEnd
  | flowEntry
  | blockEntry
  | key
  | value
  | reference (name : String)
  | anchor (name : String)
  | tag (handle : Option String) (suffix : String)
  | scalar (text : String) (isPlain : Bool)
  deriving DecidableEq, Repr

namespace Token

/-! ## Tokens of one piece -/

/-- Anchors and aliases: a word after the mark. -/
def readName (c : Cursor) : Except Error (String × Cursor) :=
  let (name, c) := c.next.span isWordChar
  if name.isEmpty then .error .malformedAnchor
  else if isSeparator c.peek || "?:,]\x7d%@\x60".toList.contains c.peek then
    .ok (String.ofList name, c)
  else .error .malformedAnchor

/-- Characters of a tag as they are written. -/
def isUriChar (c : Char) : Bool :=
  c.isAlphanum || "-;/?:@&=+$,_.!~*'()[]%".toList.contains c

/-- Bytes written as `%` and two hexadecimal digits each. -/
def uriEscapes : (fuel : Nat) → Cursor → Bytes → Except Error (Bytes × Cursor)
  | 0, c, bs => .ok (bs, c)
  | fuel + 1, c, bs =>
      if c.peek == '%' then
        match Hex.digit? (c.peekAt 1), Hex.digit? (c.peekAt 2) with
        | some h, some l => uriEscapes fuel (c.skip 3) (bs ++ [UInt8.ofNat (16 * h + l)])
        | _, _ => .error .malformedTag
      else .ok (bs, c)

/-- The characters of bytes written as escapes. -/
def ofUriBytes (bs : Bytes) : Except Error (List Char) :=
  match Text.decode? bs with
  | some cs => .ok cs
  | none => .error .malformedTag

def readUri : (fuel : Nat) → Cursor → List Char → Except Error (String × Cursor)
  | 0, _, _ => .error .malformedTag
  | fuel + 1, c, text =>
      if c.peek == '%' then do
        let (bs, c) ← uriEscapes fuel c []
        let piece ← ofUriBytes bs
        readUri fuel c (text ++ piece)
      else if isUriChar c.peek then readUri fuel c.next (text ++ [c.peek])
      else if text.isEmpty then .error .malformedTag
      else .ok (String.ofList text, c)

/-- A tag handle: `!`, or a word between two of them. -/
def readHandle (c : Cursor) : Except Error (String × Cursor) :=
  if c.peek != '!' then .error .malformedTag
  else if c.peekAt 1 == ' ' then .ok ("!", c.next)
  else
    let (name, after) := c.next.span isWordChar
    if after.peek == '!' then .ok (String.ofList ('!' :: name ++ ['!']), after.next)
    else .error .malformedTag

/-- Whether a second `!` comes before the tag ends. -/
def hasHandle (cs : List Char) : Bool :=
  (cs.takeWhile fun ch => !isSpaceOrEnd ch).contains '!'

/-- A tag after its mark `!`. -/
def readTag (c : Cursor) : Except Error (Token × Cursor) := do
  let fuel := c.rest.length + 1
  let following := c.peekAt 1
  let (token, c) ←
    if following == '<' then do
      let (suffix, c) ← readUri fuel (c.skip 2) []
      if c.peek == '>' then pure (Token.tag none suffix, c.next) else .error .malformedTag
    else if isSeparator following then pure (Token.tag none "!", c.next)
    else if hasHandle c.next.rest then do
      let (handle, c) ← readHandle c
      let (suffix, c) ← readUri fuel c []
      pure (Token.tag (some handle) suffix, c)
    else do
      let (suffix, c) ← readUri fuel c.next []
      pure (Token.tag (some "!") suffix, c)
  if isSpaceOrEnd c.peek then return (token, c) else .error .malformedTag

/-! ## Directives -/

/-- A number of a version. -/
def readVersionNumber (c : Cursor) : Except Error (Nat × Cursor) :=
  let (ds, c) := c.span Char.isDigit
  if ds.isEmpty then .error .malformedDirective
  else if Integer.maxDecimalDigits < ds.length then .error .versionTooLong
  else .ok (ds.foldl (fun n d => 10 * n + (d.toNat - 48)) 0, c)

/-- The version that a text says it is written in. -/
def readVersion (c : Cursor) : Except Error (Token × Cursor) := do
  let (major, c) ← readVersionNumber c.skipSpaces
  if c.peek != '.' then .error .malformedDirective
  let (minor, c) ← readVersionNumber c.next
  if isSpaceOrEnd c.peek then return (.versionDirective major minor, c)
  else .error .malformedDirective

/-- A handle and what it stands for. -/
def readTagDirective (c : Cursor) : Except Error (Token × Cursor) := do
  let (handle, c) ← readHandle c.skipSpaces
  if c.peek != ' ' then .error .malformedDirective
  let c := c.skipSpaces
  let (uri, c) ← readUri (c.rest.length + 1) c []
  if isSpaceOrEnd c.peek then return (.tagDirective handle uri, c)
  else .error .malformedDirective

/-- A line that starts with `%`. -/
def readDirective (c : Cursor) : Except Error (Token × Cursor) := do
  let (name, c) := c.next.span isWordChar
  if name.isEmpty || !isSpaceOrEnd c.peek then .error .malformedDirective
  let (token, c) ←
    if name == "YAML".toList then readVersion c
    else if name == "TAG".toList then readTagDirective c
    else pure (.otherDirective, c.skipLine)
  let c := c.skipComment
  if !isBreakOrEnd c.peek then .error .malformedDirective
  else return (token, ((c.lineBreak?).map Prod.snd).getD c)

end Token

/-! ## The lexer -/

/-- Something that may turn out to be a key: where it stands, and whether it has to be one. -/
structure PossibleKey where
  /-- How many tokens come before it. -/
  position : Nat
  required : Bool
  index : Nat
  line : Nat
  column : Nat
  deriving Repr

/-- The lexer between two tokens. -/
structure Lexer where
  cursor : Cursor
  tokens : Array Token
  /-- How many flow brackets are open. -/
  flow : Nat
  /-- The column of the innermost block, `-1` outside all blocks. -/
  indent : Int
  /-- The columns of the blocks around it. -/
  outer : List Int
  /-- Whether a key may start here. -/
  keyAllowed : Bool
  /-- The possible keys by level of flow brackets. -/
  keys : List (Nat × PossibleKey)

namespace Lexer

def start (cs : List Char) : Lexer :=
  { cursor := .start cs, tokens := #[], flow := 0, indent := -1, outer := [],
    keyAllowed := true, keys := [] }

def push (l : Lexer) (t : Token) : Lexer := { l with tokens := l.tokens.push t }

/-- The lexer with a token put in at a position. -/
def insert (l : Lexer) (position : Nat) (t : Token) : Lexer :=
  { l with
    tokens := (l.tokens.extract 0 position).push t ++ l.tokens.extract position l.tokens.size }

/-! ### Possible keys -/

/-- The possible key of the current level. -/
def key? (l : Lexer) : Option PossibleKey :=
  (l.keys.find? fun k => k.1 == l.flow).map Prod.snd

/-- Forgets the possible key of the current level, which must not have had to be one. -/
def forgetKey (l : Lexer) : Except Error Lexer :=
  if (l.key?.map PossibleKey.required).getD false then .error .missingColon
  else .ok { l with keys := l.keys.filter fun k => k.1 != l.flow }

/-- Remembers that what comes next may be a key. -/
def rememberKey (l : Lexer) : Except Error Lexer := do
  if !l.keyAllowed then return l
  let l ← l.forgetKey
  let key : PossibleKey :=
    { position := l.tokens.size
      required := l.flow == 0 && l.indent == (l.cursor.column : Int)
      index := l.cursor.index, line := l.cursor.line, column := l.cursor.column }
  return { l with keys := (l.flow, key) :: l.keys }

/-- Whether a possible key lies too far back to be one. -/
def isStale (l : Lexer) (k : PossibleKey) : Bool :=
  k.line != l.cursor.line || l.cursor.index - k.index > 1024

/-- Forgets the possible keys that lie too far back. -/
def dropStaleKeys (l : Lexer) : Except Error Lexer :=
  if l.keys.any fun k => l.isStale k.2 && k.2.required then .error .missingColon
  else .ok { l with keys := l.keys.filter fun k => !l.isStale k.2 }

/-! ### Indentation -/

/-- Ends the blocks that stand further right than a column. -/
def unwind (l : Lexer) (column : Int) : Lexer :=
  if l.flow != 0 then l else go l l.outer
where
  /-- Ends blocks while there are any. -/
  go (l : Lexer) : List Int → Lexer
    | [] => l
    | up :: outer =>
        if column < l.indent then
          go { l with indent := up, outer, tokens := l.tokens.push .blockEnd } outer
        else l

/-- Starts a block at a column that is further right than the current one. -/
def indentTo (l : Lexer) (column : Nat) : Lexer × Bool :=
  if l.indent < column then
    ({ l with outer := l.indent :: l.outer, indent := column }, true)
  else (l, false)

/-- Past blanks, comments and line ends; after a line end outside brackets a key may start. -/
def skipToToken : (fuel : Nat) → Lexer → Lexer
  | 0, l => l
  | fuel + 1, l =>
      let c := l.cursor.skipComment
      match c.lineBreak? with
      | some (_, after) =>
          skipToToken fuel { l with cursor := after, keyAllowed := l.keyAllowed || l.flow == 0 }
      | none => { l with cursor := c }

/-! ### One token -/

/-- A token of `n` characters. -/
def take (l : Lexer) (n : Nat) (t : Token) : Lexer :=
  { l with cursor := l.cursor.skip n, tokens := l.tokens.push t }

/-- A directive or a document mark: it ends all blocks. -/
def atTopLevel (l : Lexer) : Except Error Lexer := do
  let l ← (l.unwind (-1)).forgetKey
  return { l with keyAllowed := false }

def openBracket (l : Lexer) (t : Token) : Except Error Lexer := do
  let l ← l.rememberKey
  return { l with flow := l.flow + 1, keyAllowed := true }.take 1 t

/-- A closing bracket, which needs an opening one. -/
def closeBracket (l : Lexer) (t : Token) : Except Error Lexer := do
  let l ← l.forgetKey
  if l.flow = 0 then .error .unexpectedToken
  else return { l with flow := l.flow - 1, keyAllowed := false }.take 1 t

/-- A comma between entries in brackets. -/
def flowEntry (l : Lexer) : Except Error Lexer := do
  let l ← l.forgetKey
  return { l with keyAllowed := true }.take 1 .flowEntry

/-- A block that starts at the current column, if it is further right than the current one. -/
def startBlock (l : Lexer) (column : Nat) (t : Token) : Lexer :=
  let (l, started) := l.indentTo column
  if started then l.push t else l

/-- The hyphen of a block entry. -/
def blockEntry (l : Lexer) : Except Error Lexer := do
  let l ←
    if l.flow != 0 then pure l
    else if !l.keyAllowed then .error .misplacedIndicator
    else pure (l.startBlock l.cursor.column .blockSequenceStart)
  let l ← { l with keyAllowed := true }.forgetKey
  return l.take 1 .blockEntry

/-- The question mark of a key that is written out. -/
def explicitKey (l : Lexer) : Except Error Lexer := do
  let l ←
    if l.flow != 0 then pure l
    else if !l.keyAllowed then .error .misplacedIndicator
    else pure (l.startBlock l.cursor.column .blockMappingStart)
  let l ← { l with keyAllowed := l.flow == 0 }.forgetKey
  return l.take 1 .key

/-- A colon: what may have been a key is one, or the value has no simple key. -/
def value (l : Lexer) : Except Error Lexer := do
  match l.key? with
  | some k =>
      let l := { l with keys := l.keys.filter fun k => k.1 != l.flow }
      let l := l.insert k.position .key
      let (l, started) := if l.flow == 0 then l.indentTo k.column else (l, false)
      let l := if started then l.insert k.position .blockMappingStart else l
      return { l with keyAllowed := false }.take 1 .value
  | none =>
      let l ←
        if l.flow != 0 then pure l
        else if !l.keyAllowed then .error .misplacedIndicator
        else pure (l.startBlock l.cursor.column .blockMappingStart)
      let l ← { l with keyAllowed := l.flow == 0 }.forgetKey
      return l.take 1 .value

/-- An anchor, an alias, a tag or a quoted scalar: it may be a key or part of one. -/
def piece (l : Lexer) (read : Cursor → Except Error (Token × Cursor)) : Except Error Lexer := do
  let l ← l.rememberKey
  let (t, c) ← read l.cursor
  return { l with keyAllowed := false, cursor := c, tokens := l.tokens.push t }

def readQuoted (double : Bool) (c : Cursor) : Except Error (Token × Cursor) := do
  let (text, c) ← ScalarText.quoted double (c.rest.length + 1) c.next []
  return (.scalar (String.ofList text) false, c)

def blockScalar (l : Lexer) (folded : Bool) : Except Error Lexer := do
  let l ← { l with keyAllowed := true }.forgetKey
  let (text, c) ← ScalarText.block folded l.indent l.cursor.next
  return { l with cursor := c, tokens := l.tokens.push (.scalar (String.ofList text) false) }

/-- A plain scalar. After it a key may start if it ended with a line. -/
def plainScalar (l : Lexer) : Except Error Lexer := do
  let l ← l.rememberKey
  let (text, c, broke) :=
    ScalarText.plain (l.flow != 0) (l.indent + 1) (l.cursor.rest.length + 1) l.cursor [] [] false
  return { l with
    cursor := c, keyAllowed := broke, tokens := l.tokens.push (.scalar (String.ofList text) true) }

/-- Whether a plain scalar may start at a character, given the one after it. -/
def startsPlain (flow : Bool) (c following : Char) : Bool :=
  !(isSeparator c || "-?:,[]\x7b\x7d#&*!|>'\"%@\x60".toList.contains c) ||
    (!isSeparator following && (c == '-' || (!flow && (c == '?' || c == ':'))))

/-- The token at the cursor, which is not at the end of the text. -/
def token (l : Lexer) : Except Error Lexer :=
  let c := l.cursor
  let ch := c.peek
  let following := c.peekAt 1
  let flow := l.flow != 0
  if c.column = 0 && ch == '%' then do
    let l ← l.atTopLevel
    let (t, c) ← Token.readDirective l.cursor
    return { l with cursor := c, tokens := l.tokens.push t }
  else if c.column = 0 && c.atMark '-' then do return (← l.atTopLevel).take 3 .documentStart
  else if c.column = 0 && c.atMark '.' then do return (← l.atTopLevel).take 3 .documentEnd
  else if ch == '[' then l.openBracket .flowSequenceStart
  else if ch == '\x7b' then l.openBracket .flowMappingStart
  else if ch == ']' then l.closeBracket .flowSequenceEnd
  else if ch == '\x7d' then l.closeBracket .flowMappingEnd
  else if ch == ',' then l.flowEntry
  else if ch == '-' && isSeparator following then l.blockEntry
  else if ch == '?' && (flow || isSeparator following) then l.explicitKey
  else if ch == ':' && (flow || isSeparator following) then l.value
  else if ch == '*' then l.piece fun c => do
    let (name, c) ← Token.readName c
    return (.reference name, c)
  else if ch == '&' then l.piece fun c => do
    let (name, c) ← Token.readName c
    return (.anchor name, c)
  else if ch == '!' then l.piece Token.readTag
  else if ch == '|' && !flow then l.blockScalar false
  else if ch == '>' && !flow then l.blockScalar true
  else if ch == '\'' then l.piece (readQuoted false)
  else if ch == '"' then l.piece (readQuoted true)
  else if startsPlain flow ch following then l.plainScalar
  else .error .strayCharacter

/-- How many tokens are known: those before the first thing that may still turn out to be a key. -/
def known (l : Lexer) : Nat := l.keys.foldl (fun n k => n.min k.2.position) l.tokens.size

/-- The lexer after one more token and the blocks that start or end with it, and whether the text
has ended. -/
def advance (l : Lexer) : Except Error (Lexer × Bool) := do
  let l := l.skipToToken (l.cursor.rest.length + 1)
  let l ← l.dropStaleKeys
  let l := l.unwind l.cursor.column
  if isEnd l.cursor.peek then return (← (l.unwind (-1)).forgetKey, true)
  else return (← (← l.token).dropStaleKeys, false)

end Lexer

/-! ## Texts -/

/-- The tokens of a text as far as they are known, and what is wrong after them if anything is. -/
structure Tokens where
  known : List Token
  fault? : Option Error
  deriving Repr

namespace Tokens

/-- The tokens from the place of a lexer on. -/
def ofLexer : (fuel : Nat) → Lexer → Tokens
  | 0, l => ⟨l.tokens.toList, none⟩
  | fuel + 1, l =>
      match l.advance with
      | .error e => ⟨l.tokens.toList.take l.known, some e⟩
      | .ok (l, true) => ⟨l.tokens.toList, none⟩
      | .ok (l, false) => ofLexer fuel l

/-- The tokens of a text, which may start with a byte order mark. -/
def ofText (cs : List Char) : Tokens :=
  if cs.all isAllowed then
    let c := Cursor.start cs
    let c := if c.peek == '\uFEFF' then c.next else c
    ofLexer (cs.length + 1) { Lexer.start cs with cursor := c }
  else ⟨[], some .forbiddenCharacter⟩

end Tokens

end Rollout.Yaml

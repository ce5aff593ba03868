import Rollout.Yaml.Error

/-!
# A place in a YAML text

A cursor is what is left of the text, together with the line and the column it
starts at. Columns decide about indentation, and the index decides how far back
a key may lie. Looking past the end gives the NUL character, which no YAML text
contains.
-/

namespace Rollout.Yaml

/-! ## Classes of characters -/

/-- Characters that a YAML text may contain. -/
def isAllowed (c : Char) : Bool :=
  let n := c.toNat
  n == 9 || n == 10 || n == 13 || (0x20 ≤ n && n ≤ 0x7E) || n == 0x85 ||
    (0xA0 ≤ n && n ≤ 0xD7FF) || (0xE000 ≤ n && n ≤ 0xFFFD) || 0x10000 ≤ n

/-- The end of the text. -/
def isEnd (c : Char) : Bool := c.toNat == 0

/-- Characters that end a line. -/
def isBreak (c : Char) : Bool :=
  c == '\n' || c == '\r' || c == '\x85' || c == '\u2028' || c == '\u2029'

/-- A line end or the end of the text. -/
def isBreakOrEnd (c : Char) : Bool := isEnd c || isBreak c

/-- A blank, a line end or the end of the text. -/
def isSpaceOrEnd (c : Char) : Bool := c == ' ' || isBreakOrEnd c

/-- A blank, a tab, a line end or the end of the text. -/
def isSeparator (c : Char) : Bool := c == '\t' || isSpaceOrEnd c

/-- ASCII letters, digits, the hyphen and the underscore. -/
def isWordChar (c : Char) : Bool := c.isAlphanum || c == '-' || c == '_'

/-! ## Cursors -/

/-- What is left of a text, and where it starts. -/
structure Cursor where
  rest : List Char
  index : Nat
  line : Nat
  column : Nat
  deriving Repr

namespace Cursor

def start (cs : List Char) : Cursor := ⟨cs, 0, 0, 0⟩

def peek (c : Cursor) : Char := c.rest.headD '\x00'

def peekAt (c : Cursor) (k : Nat) : Char := (c.rest.drop k).headD '\x00'

def next (c : Cursor) : Cursor :=
  match c.rest with
  | [] => c
  | ch :: rest =>
      if ch == '\n' || ch == '\x85' || ch == '\u2028' || ch == '\u2029' ||
          (ch == '\r' && rest.head? != some '\n') then
        ⟨rest, c.index + 1, c.line + 1, 0⟩
      else if ch == '\uFEFF' then ⟨rest, c.index + 1, c.line, c.column⟩
      else ⟨rest, c.index + 1, c.line, c.column + 1⟩

/-- `n` characters on. -/
def skip (c : Cursor) : Nat → Cursor
  | 0 => c
  | n + 1 => c.next.skip n

/-- The characters up to the first that fails a test, and the cursor there. -/
def span (c : Cursor) (p : Char → Bool) : List Char × Cursor :=
  let taken := c.rest.takeWhile p
  (taken, c.skip taken.length)

/-- Past all blanks. -/
def skipSpaces (c : Cursor) : Cursor := (c.span (· == ' ')).2

/-- Past blanks, but not beyond a column. -/
def skipSpacesTo (c : Cursor) (column : Nat) : Cursor :=
  c.skip ((c.rest.takeWhile (· == ' ')).length.min (column - c.column))

/-- Up to the end of the line. -/
def skipLine (c : Cursor) : Cursor := (c.span fun ch => !isBreakOrEnd ch).2

/-- A line end: how it reads, and the cursor after it. -/
def lineBreak? (c : Cursor) : Option (Char × Cursor) :=
  let ch := c.peek
  if ch == '\r' && c.peekAt 1 == '\n' then some ('\n', c.skip 2)
  else if ch == '\r' || ch == '\n' || ch == '\x85' then some ('\n', c.next)
  else if ch == '\u2028' || ch == '\u2029' then some (ch, c.next)
  else none

/-- Whether a document mark stands here: three characters, then a separator. -/
def atMark (c : Cursor) (mark : Char) : Bool :=
  c.peek == mark && c.peekAt 1 == mark && c.peekAt 2 == mark && isSeparator (c.peekAt 3)

/-- Whether the start or the end of a document is marked here. -/
def atDocumentMark (c : Cursor) : Bool := c.atMark '-' || c.atMark '.'

/-- Past blanks and a comment, up to the end of the line. -/
def skipComment (c : Cursor) : Cursor :=
  let c := c.skipSpaces
  if c.peek == '#' then c.skipLine else c

end Cursor

end Rollout.Yaml

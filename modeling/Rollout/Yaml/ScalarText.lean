import Rollout.Text.Hex
import Rollout.Yaml.Cursor

/-!
# The text of a scalar

A scalar is written plain, between quotation marks, or as a block. In each style
line ends inside it are folded by one rule: a single line end reads as a blank,
and of several the first is dropped. Each reader below starts at the scalar's
first character and gives its text and the cursor after it.

Loops take as fuel the number of characters left, which every turn reduces.
-/

namespace Rollout.Yaml.ScalarText

/-- How folded line ends read: the first of several is dropped, one alone is a blank. -/
def fold (first : Char) (more : List Char) : List Char :=
  if first != '\n' then first :: more
  else if more.isEmpty then [' '] else more

/-! ## Plain -/

/-- Whether a plain scalar stops at a character, given the one after it. -/
def stopsPlain (flow : Bool) (c following : Char) : Bool :=
  isSeparator c ||
    (c == ':' && (isSeparator following || (flow && ",[]\x7b\x7d".toList.contains following))) ||
    (flow && ",?[]\x7b\x7d".toList.contains c)

/-- How many characters a plain scalar takes before it stops or is interrupted. -/
def plainLength (flow : Bool) : List Char → Nat
  | [] => 0
  | c :: rest =>
      if stopsPlain flow c (rest.headD '\x00') then 0 else plainLength flow rest + 1

/-- Line ends and blanks between the lines of a plain scalar; nothing at a document mark. -/
def plainBreaks : (fuel : Nat) → Cursor → List Char → Option (List Char) × Cursor
  | 0, c, breaks => (some breaks, c)
  | fuel + 1, c, breaks =>
      if c.atDocumentMark then (none, c)
      else
        let c := c.skipSpaces
        match c.lineBreak? with
        | some (ch, after) => plainBreaks fuel after (breaks ++ [ch])
        | none => (some breaks, c)

/-- What separates two pieces of a plain scalar, the cursor after it, and whether a line ended. -/
def plainSpaces (c : Cursor) : List Char × Cursor × Bool :=
  let (blanks, c) := c.span (· == ' ')
  match c.lineBreak? with
  | some (ch, after) =>
      match plainBreaks (after.rest.length + 1) after [] with
      | (some breaks, c) => (fold ch breaks, c, true)
      | (none, c) => ([], c, true)
  | none => (blanks, c, false)

/-- A plain scalar of a given least indentation: text, cursor, and whether a line ended last. -/
def plain (flow : Bool) (indent : Int) :
    (fuel : Nat) → Cursor → (text spaces : List Char) → (broke : Bool) →
      List Char × Cursor × Bool
  | 0, c, text, _, broke => (text, c, broke)
  | fuel + 1, c, text, spaces, broke =>
      let length := if c.peek == '#' then 0 else plainLength flow c.rest
      if length = 0 then (text, c, broke)
      else
        let text := text ++ spaces ++ c.rest.take length
        let (spaces, c, broke) := plainSpaces (c.skip length)
        if spaces.isEmpty || c.peek == '#' || (!flow && (c.column : Int) < indent) then
          (text, c, broke)
        else plain flow indent fuel c text spaces broke

/-! ## Quoted -/

/-- The character that a one-letter escape stands for. -/
def escape? (c : Char) : Option Char :=
  match c with
  | '0' => some '\x00'
  | 'a' => some '\x07'
  | 'b' => some '\x08'
  | 't' => some '\t'
  | '\t' => some '\t'
  | 'n' => some '\n'
  | 'v' => some '\x0b'
  | 'f' => some '\x0c'
  | 'r' => some '\r'
  | 'e' => some '\x1b'
  | ' ' => some ' '
  | '"' => some '"'
  | '\\' => some '\\'
  | '/' => some '/'
  | 'N' => some '\x85'
  | '_' => some '\u00a0'
  | 'L' => some '\u2028'
  | 'P' => some '\u2029'
  | _ => none

/-- How many hexadecimal digits follow an escape letter. -/
def escapeDigits? (c : Char) : Option Nat :=
  match c with
  | 'x' => some 2
  | 'u' => some 4
  | 'U' => some 8
  | _ => none

/-- The character of a code point; a surrogate reads as the replacement character. -/
def ofCodePoint (n : Nat) : Except Error Char :=
  if n.isValidChar then .ok (Char.ofNat n)
  else if n < 0x110000 then .ok '\uFFFD'
  else if n < 0x80000000 then .error .codePointTooLarge
  else .error .codePointUnbounded

/-- The character that hexadecimal digits stand for. -/
def ofEscapeDigits (ds : List Char) (width : Nat) : Except Error Char :=
  match ds.mapM Hex.digit? with
  | some ns =>
      if ns.length = width then ofCodePoint (ns.foldl (fun n d => 16 * n + d) 0)
      else .error .malformedEscape
  | none => .error .malformedEscape

/-- Line ends and blanks inside a quoted scalar. -/
def quotedBreaks : (fuel : Nat) → Cursor → List Char → Except Error (List Char × Cursor)
  | 0, c, breaks => .ok (breaks, c)
  | fuel + 1, c, breaks =>
      if c.atDocumentMark then .error .unfinishedScalar
      else
        let c := (c.span fun ch => ch == ' ' || ch == '\t').2
        match c.lineBreak? with
        | some (ch, after) => quotedBreaks fuel after (breaks ++ [ch])
        | none => .ok (breaks, c)

/-- Blanks inside a quoted scalar: kept within a line, folded at its end. -/
def quotedSpaces (c : Cursor) : Except Error (List Char × Cursor) :=
  let (blanks, c) := c.span fun ch => ch == ' ' || ch == '\t'
  if isEnd c.peek then .error .unfinishedScalar
  else match c.lineBreak? with
    | some (ch, after) => do
        let (breaks, c) ← quotedBreaks (after.rest.length + 1) after []
        return (fold ch breaks, c)
    | none => .ok (blanks, c)

/-- One escape after its backslash. -/
def quotedEscape (c : Cursor) : Except Error (List Char × Cursor) :=
  match escape? c.peek with
  | some ch => .ok ([ch], c.next)
  | none =>
      match escapeDigits? c.peek with
      | some width => do
          let ch ← ofEscapeDigits (c.next.rest.take width) width
          return ([ch], c.next.skip width)
      | none =>
          match c.lineBreak? with
          | some (_, after) => quotedBreaks (after.rest.length + 1) after []
          | none => .error .malformedEscape

/-- A quoted scalar after its opening mark. -/
def quoted (double : Bool) :
    (fuel : Nat) → Cursor → (text : List Char) → Except Error (List Char × Cursor)
  | 0, _, _ => .error .unfinishedScalar
  | fuel + 1, c, text =>
      let ch := c.peek
      if !double && ch == '\'' && c.peekAt 1 == '\'' then
        quoted double fuel (c.skip 2) (text ++ ['\''])
      else if ch == (if double then '"' else '\'') then .ok (text, c.next)
      else if double && ch == '\\' then do
        let (piece, c) ← quotedEscape c.next
        quoted double fuel c (text ++ piece)
      else if isSeparator ch then do
        let (piece, c) ← quotedSpaces c
        quoted double fuel c (text ++ piece)
      else
        quoted double fuel c.next (text ++ [ch])

/-! ## Blocks -/

/-- What becomes of the line ends after a block scalar. -/
inductive Chomping where
  | clip
  | strip
  | keep
  deriving DecidableEq, Repr

/-- The chomping that a sign asks for. -/
def chomping? (c : Char) : Option Chomping :=
  if c == '+' then some .keep else if c == '-' then some .strip else none

/-- The indentation that a digit asks for. -/
def increment? (c : Char) : Option Nat :=
  if '0' ≤ c && c ≤ '9' then some (c.toNat - 48) else none

/-- A sign and a digit after the block's mark, in either order and both optional. -/
def blockHeader (c : Cursor) : Except Error (Chomping × Option Nat × Cursor) := do
  let (chomp, increment, c) :=
    match chomping? c.peek with
    | some chomp =>
        match increment? c.next.peek with
        | some n => (chomp, some n, c.skip 2)
        | none => (chomp, none, c.next)
    | none =>
        match increment? c.peek with
        | some n =>
            match chomping? c.next.peek with
            | some chomp => (chomp, some n, c.skip 2)
            | none => (.clip, some n, c.next)
        | none => (.clip, none, c)
  if increment = some 0 then .error .malformedBlockHeader
  else if !isSpaceOrEnd c.peek then .error .malformedBlockHeader
  else
    let c := c.skipComment
    if !isBreakOrEnd c.peek then .error .malformedBlockHeader
    else return (chomp, increment, ((c.lineBreak?).map Prod.snd).getD c)

/-- Empty lines before the first line of a block, and the deepest indentation seen. -/
def blockIndentation :
    (fuel : Nat) → Cursor → (breaks : List Char) → (deepest : Nat) → List Char × Nat × Cursor
  | 0, c, breaks, deepest => (breaks, deepest, c)
  | fuel + 1, c, breaks, deepest =>
      if c.peek == ' ' then blockIndentation fuel c.next breaks (deepest.max c.next.column)
      else match c.lineBreak? with
        | some (ch, after) => blockIndentation fuel after (breaks ++ [ch]) deepest
        | none => (breaks, deepest, c)

/-- Empty lines inside a block of known indentation. -/
def blockBreaks (indent : Nat) :
    (fuel : Nat) → Cursor → (breaks : List Char) → List Char × Cursor
  | 0, c, breaks => (breaks, c)
  | fuel + 1, c, breaks =>
      let c := c.skipSpacesTo indent
      match c.lineBreak? with
      | some (ch, after) => blockBreaks indent fuel after (breaks ++ [ch])
      | none => (breaks, c)

/-- Whether a line of a block starts with a blank or a tab. -/
def isMoreIndented (c : Char) : Bool := c == ' ' || c == '\t'

/-- The line end between two lines of a block. -/
def joint (folded : Bool) (ending : List Char) (before after : Char) (breaks : List Char) :
    List Char :=
  if folded && ending == ['\n'] && !isMoreIndented before && !isMoreIndented after then
    (if breaks.isEmpty then [' '] else [])
  else ending

/-- The lines of a block: text, the last line end, the empty lines after it, and the cursor. -/
def blockLines (folded : Bool) (indent : Nat) :
    (fuel : Nat) → Cursor → (text ending breaks : List Char) →
      List Char × List Char × List Char × Cursor
  | 0, c, text, ending, breaks => (text, ending, breaks, c)
  | fuel + 1, c, text, ending, breaks =>
      if c.column = indent ∧ isEnd c.peek = false then
        let first := c.peek
        let (line, c) := c.span fun ch => !isBreakOrEnd ch
        let text := text ++ breaks ++ line
        let (ending, c) := match c.lineBreak? with
          | some (ch, after) => ([ch], after)
          | none => ([], c)
        let (breaks, c) := blockBreaks indent (c.rest.length + 1) c []
        if c.column = indent ∧ isEnd c.peek = false then
          blockLines folded indent fuel c (text ++ joint folded ending first c.peek breaks)
            ending breaks
        else (text, ending, breaks, c)
      else (text, ending, breaks, c)

/-- A block scalar after its mark, inside a block of the given indentation. -/
def block (folded : Bool) (parent : Int) (c : Cursor) : Except Error (List Char × Cursor) := do
  let (chomp, increment, c) ← blockHeader c
  let least := (max (parent + 1) 1).toNat
  let (breaks, indent, c) :=
    match increment with
    | none =>
        let (breaks, deepest, c) := blockIndentation (c.rest.length + 1) c [] 0
        (breaks, least.max deepest, c)
    | some n =>
        let indent := least + n - 1
        let (breaks, c) := blockBreaks indent (c.rest.length + 1) c []
        (breaks, indent, c)
  let (text, ending, breaks, c) := blockLines folded indent (c.rest.length + 1) c [] [] breaks
  return match chomp with
    | .strip => (text, c)
    | .clip => (text ++ ending, c)
    | .keep => (text ++ ending ++ breaks, c)

end Rollout.Yaml.ScalarText

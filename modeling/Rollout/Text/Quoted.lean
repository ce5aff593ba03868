import Rollout.Text.Hex
import Rollout.Text.Printable

/-!
# Quoted text

Inside a list or a mapping a text is shown between quotation marks, so that its
ends can be seen. The mark is the single quote, or the double quote for a text
that has single quotes and no double ones. The mark itself and the backslash
are escaped, line ends and tabs by a letter, and what is not printable by its
code point in two, four or eight hexadecimal digits.

Byte strings are shown the same way behind a `b`, every byte outside printable
ASCII in two digits.
-/

namespace Rollout.Text

def quoteMark (cs : List Char) : Char :=
  if cs.contains '\'' && !cs.contains '"' then '"' else '\''

/-- The spelling of one character between quotation marks. -/
def escapeChar (mark c : Char) : List Char :=
  if c = '\\' ∨ c = mark then ['\\', c]
  else if c = '\n' then ['\\', 'n']
  else if c = '\r' then ['\\', 'r']
  else if c = '\t' then ['\\', 't']
  else if isPrintable c then [c]
  else if c.toNat < 0x100 then '\\' :: 'x' :: Hex.ofNat 2 c.toNat
  else if c.toNat < 0x10000 then '\\' :: 'u' :: Hex.ofNat 4 c.toNat
  else '\\' :: 'U' :: Hex.ofNat 8 c.toNat

/-- A text between quotation marks. -/
def quote (s : String) : String :=
  let cs := s.toList
  let mark := quoteMark cs
  String.ofList (mark :: (cs.flatMap (escapeChar mark) ++ [mark]))

/-- The spelling of one byte between quotation marks. -/
def escapeByte (mark : Char) (b : UInt8) : List Char :=
  let c := Char.ofNat b.toNat
  if c = '\\' ∨ c = mark then ['\\', c]
  else if c = '\n' then ['\\', 'n']
  else if c = '\r' then ['\\', 'r']
  else if c = '\t' then ['\\', 't']
  else if 32 ≤ b.toNat ∧ b.toNat < 127 then [c]
  else '\\' :: 'x' :: Hex.ofNat 2 b.toNat

/-- A byte string between quotation marks. -/
def quoteBytes (bs : Bytes) : String :=
  let mark := quoteMark (bs.map fun b => Char.ofNat b.toNat)
  String.ofList ('b' :: mark :: (bs.flatMap (escapeByte mark) ++ [mark]))

end Rollout.Text

import Rollout.Text.Blank
import Rollout.Text.Digit

/-!
# Integers written as text

An integer is written as an optional sign and digits, with single underscores
allowed between digits and blanks allowed around it. Letters are digits beyond
nine in the bases that need them, in either case. In base 2, 8 and 16 the
digits may follow a mark such as `0x`, with one underscore allowed after it.

A decimal integer has at most 4300 digits. The four separator characters
U+001C to U+001F are blanks elsewhere, but not around a number.
-/

namespace Rollout.Integer

/-- The most digits a decimal integer may have. -/
def maxDecimalDigits : Nat := 4300

/-- The value of a digit: a decimal digit of any alphabet, or an ASCII letter from ten on. -/
def digit? (c : Char) : Option Nat :=
  match Text.decimalDigit? c with
  | some d => some d
  | none =>
      if 'a' ≤ c && c ≤ 'z' then some (c.toNat - 87)
      else if 'A' ≤ c && c ≤ 'Z' then some (c.toNat - 55)
      else none

/-- Digits below a base, with single underscores between them. -/
def digits? (base : Nat) : List Char → Option (List Nat)
  | [] => none
  | [c] => (digit? c).bind fun d => if d < base then some [d] else none
  | c :: '_' :: rest => do
      let d ← digit? c
      if d < base then (digits? base rest).map (d :: ·) else none
  | c :: rest => do
      let d ← digit? c
      if d < base then (digits? base rest).map (d :: ·) else none

/-- Blanks that may stand around a number. -/
def isBlank (c : Char) : Bool :=
  Text.isBlank c && !(28 ≤ c.toNat && c.toNat ≤ 31)

/-- The characters without the blanks at their ends. -/
def trim (cs : List Char) : List Char :=
  ((cs.dropWhile isBlank).reverse.dropWhile isBlank).reverse

/-- The sign of a number, and what follows it. -/
def splitSign : List Char → Bool × List Char
  | '-' :: rest => (true, rest)
  | '+' :: rest => (false, rest)
  | cs => (false, cs)

/-- A number of absolute value `n` and the given sign. -/
def signed (negative : Bool) (n : Nat) : Int := if negative then -(n : Int) else n

/-- What follows the mark of a base, if one is there, and one underscore after it. -/
def dropMark (mark : Char) : List Char → List Char
  | '0' :: m :: rest =>
      if m.toLower = mark then (match rest with | '_' :: more => more | _ => rest)
      else '0' :: m :: rest
  | cs => cs

def readDecimal? (cs : List Char) : Option Int := do
  let (negative, body) := splitSign (trim cs)
  let ds ← digits? 10 body
  if ds.length ≤ maxDecimalDigits then some (signed negative (Text.number 10 ds)) else none

/-- An integer in base 2, 8 or 16, whose digits may follow the mark of the base. -/
def readBased? (base : Nat) (mark : Char) (cs : List Char) : Option Int := do
  let (negative, body) := splitSign (trim cs)
  let ds ← digits? base (dropMark mark body)
  some (signed negative (Text.number base ds))

def text (n : Int) : String := toString n

/-- Whether an integer has no more digits than a decimal integer may have. -/
def isWritable (n : Int) : Bool := decide (n.natAbs < Nat.pow 10 maxDecimalDigits)

end Rollout.Integer

import Rollout.Number.Integer

/-!
# Binary floating point numbers

The numbers of the 64-bit binary format, as exact values: a finite one is a
significand below `2 ^ 53` times a power of two of exponent at least `-1074`.
All operations are exact rational arithmetic followed by one rounding to the
nearest number of the format, a tie going to the even significand, so there is
no machine arithmetic to trust.

`round` is that rounding; reading a decimal, sums and products go through it.
-/

namespace Rollout

/-- A number of the 64-bit binary format. -/
inductive Binary64 where
  | nan
  | infinite (negative : Bool)
  | finite (negative : Bool) (significand : Nat) (exponent : Int)
  deriving DecidableEq, Repr

namespace Binary64

/-! ## Rounding -/

/-- The least exponent of a finite number. -/
def minExponent : Int := -1074

/-- The greatest exponent of a finite number. -/
def maxExponent : Int := 971

/-- Zero of either sign. -/
def zero (negative : Bool) : Binary64 := .finite negative 0 minExponent

/-- `num / den` to the nearest whole number, a tie to the even one. -/
def roundDiv (num den : Nat) : Nat :=
  let q := num / den
  let r := num % den
  if den < 2 * r then q + 1
  else if 2 * r = den then q + q % 2
  else q

/-- `n * 2 ^ e`, for either sign of the exponent, as a fraction. -/
def scaled (n : Nat) (e : Int) : Nat × Nat :=
  if 0 ≤ e then (n * Nat.pow 2 e.toNat, 1) else (n, Nat.pow 2 (-e).toNat)

/-- The exponent of the greatest power of two not above `num / den`. -/
def magnitude (num den : Nat) : Int :=
  let guess : Int := (Nat.log2 num : Int) - Nat.log2 den
  let reached := if 0 ≤ guess then den * Nat.pow 2 guess.toNat ≤ num
    else den ≤ num * Nat.pow 2 (-guess).toNat
  if reached then guess else guess - 1

/-- The number of the format nearest to `± num / den`. -/
def round (negative : Bool) (num den : Nat) : Binary64 :=
  if num = 0 then zero negative
  else
    let e := max (magnitude num den - 52) minExponent
    let m := if 0 ≤ e then roundDiv num (den * Nat.pow 2 e.toNat)
      else roundDiv (num * Nat.pow 2 (-e).toNat) den
    let (m, e) := if m = Nat.pow 2 53 then (Nat.pow 2 52, e + 1) else (m, e)
    if maxExponent < e then .infinite negative else .finite negative m e

/-- The number of the format nearest to `± digits * 10 ^ exponent`. -/
def ofDecimal (negative : Bool) (digits : Nat) (exponent : Int) : Binary64 :=
  let places : Int := (Nat.toDigits 10 digits).length
  if digits = 0 then zero negative
  else if 400 < places + exponent then .infinite negative
  else if places + exponent < -400 then zero negative
  else if 0 ≤ exponent then round negative (digits * Nat.pow 10 exponent.toNat) 1
  else round negative digits (Nat.pow 10 (-exponent).toNat)

/-- The number of the format nearest to an integer. -/
def ofInt (n : Int) : Binary64 := round (decide (n < 0)) n.natAbs 1

/-! ## Arithmetic -/

/-- The number with the other sign. -/
def neg : Binary64 → Binary64
  | .nan => .nan
  | .infinite s => .infinite !s
  | .finite s m e => .finite (!s) m e

/-- The nearest number to a sum; two equal numbers of opposite sign add to `+0`. -/
def add : Binary64 → Binary64 → Binary64
  | .nan, _ => .nan
  | _, .nan => .nan
  | .infinite s, .infinite t => if s = t then .infinite s else .nan
  | .infinite s, .finite .. => .infinite s
  | .finite .., .infinite t => .infinite t
  | .finite s m e, .finite t n f =>
      let low := min e f
      let a := Integer.signed s (m * Nat.pow 2 (e - low).toNat)
      let b := Integer.signed t (n * Nat.pow 2 (f - low).toNat)
      let sum := a + b
      let negative := if sum = 0 then s && t else decide (sum < 0)
      let (num, den) := scaled sum.natAbs low
      round negative num den

/-- The nearest number to a product. -/
def mul : Binary64 → Binary64 → Binary64
  | .nan, _ => .nan
  | _, .nan => .nan
  | .infinite s, .infinite t => .infinite (s != t)
  | .infinite s, .finite t n _ => if n = 0 then .nan else .infinite (s != t)
  | .finite s m _, .infinite t => if m = 0 then .nan else .infinite (s != t)
  | .finite s m e, .finite t n f =>
      let (num, den) := scaled (m * n) (e + f)
      round (s != t) num den

/-- Whether the number is zero, of either sign. -/
def isZero : Binary64 → Bool
  | .finite _ m _ => m == 0
  | _ => false

/-- The integer part of a finite number. -/
def truncate? : Binary64 → Option Int
  | .finite s m e =>
      let (num, den) := scaled m e
      some (Integer.signed s (num / den))
  | _ => none

/-- Whether a number is exactly the given integer. -/
def isInteger (x : Binary64) (n : Int) : Bool :=
  match x with
  | .finite s m e =>
      let (num, den) := scaled m e
      num % den == 0 && Integer.signed s (num / den) == n
  | _ => false

/-- Equality of values: the two zeros are equal, and so is a NaN to itself. -/
def same : Binary64 → Binary64 → Bool
  | .nan, .nan => true
  | .infinite s, .infinite t => s == t
  | .finite s m e, .finite t n f => (m == 0 && n == 0) || (s == t && m == n && e == f)
  | _, _ => false

/-! ## Reading -/

/-- Decimal digits at the front of a text, and the rest. -/
def spanDigits : List Char → List Nat × List Char
  | [] => ([], [])
  | c :: rest =>
      match Text.decimalDigit? c with
      | some d => let (ds, tail) := spanDigits rest; (d :: ds, tail)
      | none => ([], c :: rest)

/-- A power of ten after `e` or `E`, or nothing at all. -/
def readExponent? : List Char → Option Int
  | [] => some 0
  | c :: rest =>
      if c = 'e' ∨ c = 'E' then
        let (negative, body) := Integer.splitSign rest
        match spanDigits body with
        | (d :: ds, []) => some (Integer.signed negative (Text.number 10 (d :: ds)))
        | _ => none
      else none

/-- An unsigned number in decimal: digits with at most one point, then an exponent. -/
def readUnsigned? (negative : Bool) (cs : List Char) : Option Binary64 :=
  let (whole, rest) := spanDigits cs
  let (fraction, rest) := match rest with
    | '.' :: more => spanDigits more
    | _ => ([], rest)
  if whole.isEmpty && fraction.isEmpty then none
  else do
    let e ← readExponent? rest
    some (ofDecimal negative (Text.number 10 (whole ++ fraction)) (e - fraction.length))

/-- A number as text: blanks around it, a sign, then decimal digits, `inf`, `infinity` or `nan`. -/
def read? (cs : List Char) : Option Binary64 :=
  let (negative, body) := Integer.splitSign (Integer.trim cs)
  match String.ofList (body.map Char.toLower) with
  | "inf" => some (.infinite negative)
  | "infinity" => some (.infinite negative)
  | "nan" => some .nan
  | _ => readUnsigned? negative body

end Binary64

end Rollout

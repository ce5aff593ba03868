import Rollout.Number.Binary64

/-!
# Shortest decimals

A finite number is written with the fewest significant digits that read back as
the number itself, and among those of that length with the ones nearest to it.

`digits` finds them: for one digit, two digits, and so on, the two neighbours of
the number on the decimal grid of that many digits are tried in exact
arithmetic. Seventeen digits always suffice. `Decimal.text` then lays the
digits out: positionally from `10 ^ -4` to below `10 ^ 16`, with a fraction
always shown, and with a signed exponent of at least two digits elsewhere.
-/

namespace Rollout.Binary64

/-- Whether the fraction `num / den` reads back as the positive number `m * 2 ^ e`. -/
def readsBack (num den : Nat) (m : Nat) (e : Int) : Bool :=
  round false num den == .finite false m e

/-- `10 ^ k` for either sign of `k`, as a fraction. -/
def powerOfTen (k : Int) : Nat × Nat :=
  if 0 ≤ k then (Nat.pow 10 k.toNat, 1) else (1, Nat.pow 10 (-k).toNat)

/-- The exponent of the greatest power of ten not above the positive `m * 2 ^ e`. -/
def decimalMagnitude (m : Nat) (e : Int) : Int :=
  let (num, den) := scaled m e
  ((Nat.toDigits 10 (num * Nat.pow 10 400 / den)).length : Int) - 401

/-- The best number of whole grid steps `10 ^ grid` that reads back as `m * 2 ^ e`. -/
def onGrid? (m : Nat) (e grid : Int) : Option Nat :=
  let (num, den) := scaled m e
  let (up, down) := powerOfTen grid
  -- the number is `steps + rest / unit` grid steps
  let unit := den * up
  let steps := num * down / unit
  let rest := num * down % unit
  let lowFits := readsBack (steps * up) down m e
  let highFits := readsBack ((steps + 1) * up) down m e
  if lowFits && highFits then
    some (if 2 * rest < unit || (2 * rest == unit && steps % 2 == 0) then steps else steps + 1)
  else if lowFits then some steps
  else if highFits then some (steps + 1)
  else none

/-- Tries grids of `n`, `n + 1`, … digits, `fuel` of them. -/
def search (m : Nat) (e top : Int) : (fuel : Nat) → (n : Int) → Nat × Int
  | 0, n => ((onGrid? m e (top - n + 1)).getD 0, top - n + 1)
  | fuel + 1, n =>
      match onGrid? m e (top - n + 1) with
      | some steps => (steps, top - n + 1)
      | none => search m e top fuel (n + 1)

/-- The shortest decimal `d * 10 ^ k` that reads back as the positive `m * 2 ^ e`. -/
def shortest (m : Nat) (e : Int) : Nat × Int :=
  search m e (decimalMagnitude m e) 17 1

/-- The digits of a number without zeros at the end. -/
def significantDigits (d : Nat) : List Char :=
  ((Nat.toDigits 10 d).reverse.dropWhile (· == '0')).reverse

/-- Digits before the point and after it, for a leading digit at `10 ^ top`. -/
def positional (ds : List Char) (top : Int) : List Char :=
  if top < 0 then '0' :: '.' :: (List.replicate (-top - 1).toNat '0' ++ ds)
  else
    let whole := top.toNat + 1
    let padded := ds ++ List.replicate (whole - ds.length) '0'
    let fraction := padded.drop whole
    padded.take whole ++ '.' :: (if fraction.isEmpty then ['0'] else fraction)

/-- An exponent with its sign and at least two digits. -/
def exponentText (top : Int) : List Char :=
  let ds := Nat.toDigits 10 top.natAbs
  (if top < 0 then '-' else '+') :: (if ds.length < 2 then '0' :: ds else ds)

/-- One digit, the others after a point, and the exponent. -/
def scientific (ds : List Char) (top : Int) : List Char :=
  let mantissa := match ds with
    | [] => ['0']
    | [d] => [d]
    | d :: more => d :: '.' :: more
  mantissa ++ 'e' :: exponentText top

def text : Binary64 → String
  | .nan => "nan"
  | .infinite s => if s then "-inf" else "inf"
  | .finite s m e =>
      let body :=
        if m = 0 then ['0', '.', '0']
        else
          let (d, k) := shortest m e
          let ds := Nat.toDigits 10 d
          let top := k + ds.length - 1
          let ds := significantDigits d
          if -4 ≤ top ∧ top < 16 then positional ds top else scientific ds top
      String.ofList (if s then '-' :: body else body)

end Rollout.Binary64

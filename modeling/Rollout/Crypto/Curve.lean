import Rollout.Crypto.Keccak

/-!
# Accounts of the curve secp256k1

A private key is a number from one to below the order of the curve's group. Its
account is named by the last twenty bytes of the Keccak digest of the public
point, the two coordinates one after the other in 32 bytes each.

Points are kept in Jacobian coordinates, `(x / z², y / z³)`, so that a multiple
of the generator costs one modular inverse at the very end. The point at
infinity is the one with `z = 0`.
-/

namespace Rollout.Curve

/-- The characteristic of the field of coordinates. -/
def fieldSize : Nat := Nat.pow 2 256 - Nat.pow 2 32 - 977

/-- The order of the group generated by `generator`. -/
def groupOrder : Nat :=
  0xFFFFFFFFFFFFFFFFFFFFFFFFFFFFFFFEBAAEDCE6AF48A03BBFD25E8CD0364141

/-- A point in Jacobian coordinates. -/
structure Point where
  x : Nat
  y : Nat
  z : Nat
  deriving DecidableEq, Repr

/-- The neutral element of the group. -/
def infinity : Point := ⟨1, 1, 0⟩

def generator : Point :=
  ⟨0x79BE667EF9DCBBAC55A06295CE870B07029BFCDB2DCE28D959F2815B16F81798,
   0x483ADA7726A3C4655DA4FBFC0E1108A8FD17B448A68554199C47D08FFB10D4B8, 1⟩

/-! ## Field arithmetic -/

/-- Product of two coordinates. -/
def mul (a b : Nat) : Nat := a * b % fieldSize

/-- Difference of two coordinates below the field size. -/
def sub (a b : Nat) : Nat := (a + fieldSize - b) % fieldSize

/-- `base ^ exponent`, reading `bits` binary digits of the exponent. -/
def power (base : Nat) : (bits : Nat) → (exponent : Nat) → Nat
  | 0, _ => 1
  | bits + 1, e =>
      let root := power base bits (e / 2)
      if e % 2 = 1 then mul (mul root root) base else mul root root

/-- The inverse of a nonzero coordinate, by Fermat's little theorem. -/
def inverse (a : Nat) : Nat := power a 256 (fieldSize - 2)

/-! ## The group -/

def double (p : Point) : Point :=
  let yy := mul p.y p.y
  let s := mul 4 (mul p.x yy)
  let m := mul 3 (mul p.x p.x)
  let x := sub (mul m m) (mul 2 s)
  ⟨x, sub (mul m (sub s x)) (mul 8 (mul yy yy)), mul 2 (mul p.y p.z)⟩

/-- The sum of two points. -/
def add (p q : Point) : Point :=
  if p.z = 0 then q
  else if q.z = 0 then p
  else
    let pp := mul p.z p.z
    let qq := mul q.z q.z
    let u := mul p.x qq
    let v := mul q.x pp
    let s := mul p.y (mul q.z qq)
    let t := mul q.y (mul p.z pp)
    if u = v then (if s = t then double p else infinity)
    else
      let h := sub v u
      let r := sub t s
      let hh := mul h h
      let hhh := mul h hh
      let w := mul u hh
      let x := sub (sub (mul r r) hhh) (mul 2 w)
      ⟨x, sub (mul r (sub w x)) (mul s hhh), mul h (mul p.z q.z)⟩

/-- `k` times a point, reading `bits` binary digits of `k`. -/
def multiple (p : Point) : (bits : Nat) → (k : Nat) → Point
  | 0, _ => infinity
  | bits + 1, k =>
      let half := double (multiple p bits (k / 2))
      if k % 2 = 1 then add half p else half

/-- The affine coordinates of a point other than infinity. -/
def affine (p : Point) : Nat × Nat :=
  let i := inverse p.z
  (mul p.x (mul i i), mul p.y (mul i (mul i i)))

/-! ## Accounts -/

/-- A number in 32 bytes, the most significant first. -/
def word (n : Nat) : Bytes :=
  (List.range 32).map fun i => UInt8.ofNat (n / Nat.pow 2 (8 * (31 - i)))

/-- The number that bytes denote, the most significant first. -/
def number (bs : Bytes) : Nat := bs.foldl (fun n b => 256 * n + b.toNat) 0

/-- The twenty bytes that name the account of a private key. -/
def accountOf (key : Nat) : Bytes :=
  let (x, y) := affine (multiple generator 256 key)
  (Keccak.digest (word x ++ word y)).drop 12

/-- The account of a private key written in 32 bytes, where the key is in range. -/
def account? (key : Bytes) : Option Bytes :=
  let k := number key
  if key.length = 32 ∧ 0 < k ∧ k < groupOrder then some (accountOf k) else none

end Rollout.Curve

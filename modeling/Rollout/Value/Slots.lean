import Rollout.Value.Basic

/-!
# The order of a set

The members of a set of numbers are not shown in the order in which they came.
They lie in a table of slots and are shown slot by slot. The slot of a number is
what the size of the table leaves of its key, and its key is the number modulo
the prime `2 ^ 61 - 1`, so that equal numbers of different kinds have one key. A
member that finds its slot taken looks for a free one on a walk that depends on
the key alone.

`arrange` gives the members in this order. What is not a number has no key, and
a set that holds such a member keeps the order in which its members came.
-/

namespace Rollout.Value.Slots

/-- The prime that numbers are reduced by. -/
def prime : Nat := Nat.pow 2 61 - 1

/-- A number of the given sign reduced; what would be `-1` is `-2`. -/
def reduce (negative : Bool) (n : Nat) : Int :=
  let r := Integer.signed negative (n % prime)
  if r = -1 then -2 else r

/-- The key of a number, if it is one. As `2 ^ 61` is one modulo the prime, only the rest of an
exponent by 61 matters. -/
def signedKey? : Value → Option Int
  | .bool b => some (if b then 1 else 0)
  | .int n => some (reduce (decide (n < 0)) n.natAbs)
  | .float (.finite negative m e) => some (reduce negative (m * Nat.pow 2 (e % 61).toNat))
  | .float (.infinite negative) => some (if negative then -314159 else 314159)
  | _ => none

/-- The key of a number as an unsigned number of 64 bits. -/
def key? (v : Value) : Option Nat := (signedKey? v).map fun k : Int => (k % Nat.pow 2 64).toNat

/-- The size of the table for so many members: a power of two. -/
def tableSize (members : Nat) : Nat :=
  if members ≤ 4 then 8 else Nat.pow 2 (Nat.log2 (2 * members) + 1)

abbrev Table := Array (Option Value)

/-- Whether nothing lies in a slot. -/
def isFree (t : Table) (slot : Nat) : Bool := ((t[slot]?).join).isNone

/-- The first free slot of a walk: ten slots in a row as far as the table reaches, then a leap that
the rest of the key decides. -/
def walk? (t : Table) : (fuel : Nat) → (slot key : Nat) → Option Nat
  | 0, _, _ => none
  | fuel + 1, slot, key =>
      let stretch := if slot + 9 < t.size then 10 else 1
      match (List.range' slot stretch).find? (isFree t) with
      | some free => some free
      | none => walk? t fuel ((5 * slot + 1 + key / 32) % t.size) (key / 32)

/-- The table with one more member. -/
def place? (t : Table) (v : Value) : Option Table := do
  let key ← key? v
  let slot ← walk? t (t.size + 16) (key % t.size) key
  return t.setIfInBounds slot (some v)

/-- The members of a set in the order in which they are shown. -/
def arrange (members : List Value) : List Value :=
  match members.foldlM place? (Array.replicate (tableSize members.length) none) with
  | some t => t.toList.filterMap fun v => v
  | none => members

end Rollout.Value.Slots

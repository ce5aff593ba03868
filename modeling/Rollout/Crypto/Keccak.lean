import Rollout.Text.Hex

/-!
# Keccak-256

The sponge of rate 136 bytes over the permutation Keccak-f[1600], with the
padding `01 00 … 00 80` that the chain uses. The state is twenty-five lanes of
64 bits, lane `(x, y)` at position `x + 5 * y`; every step of a round is given
lane by lane, and the step that moves lanes is written from the lane it moves
to, so that no step updates in place.
-/

namespace Rollout.Keccak

/-- The permuted state: lane `(x, y)` stands at `x + 5 * y`. -/
abbrev Lanes := Vector UInt64 25

/-- Lane `(x, y)`, coordinates taken modulo five. -/
def lane (a : Lanes) (x y : Nat) : UInt64 := a.get ⟨x % 5 + 5 * (y % 5), by omega⟩

/-- The state whose lane `(x, y)` is `f x y`. -/
def tabulate (f : Nat → Nat → UInt64) : Lanes :=
  Vector.ofFn fun i => f (i.val % 5) (i.val / 5)

/-- Rotation of a lane to the left, by less than 64 places. -/
def rotate (w : UInt64) (k : Nat) : UInt64 :=
  if k = 0 then w else w <<< UInt64.ofNat k ||| w >>> UInt64.ofNat (64 - k)

/-- How far each lane is rotated before it moves. -/
def offsets : List Nat :=
  [0, 1, 62, 28, 27, 36, 44, 6, 55, 20, 3, 10, 43, 25, 39, 41, 45, 15, 21, 8, 18, 2, 61, 56, 14]

/-- The constants that tell the rounds apart. -/
def roundConstants : List UInt64 :=
  [0x0000000000000001, 0x0000000000008082, 0x800000000000808a, 0x8000000080008000,
   0x000000000000808b, 0x0000000080000001, 0x8000000080008081, 0x8000000000008009,
   0x000000000000008a, 0x0000000000000088, 0x0000000080008009, 0x000000008000000a,
   0x000000008000808b, 0x800000000000008b, 0x8000000000008089, 0x8000000000008003,
   0x8000000000008002, 0x8000000000000080, 0x000000000000800a, 0x800000008000000a,
   0x8000000080008081, 0x8000000000008080, 0x0000000080000001, 0x8000000080008008]

/-! ## One round -/

/-- Each lane takes in the parities of two neighbouring columns. -/
def mixColumns (a : Lanes) : Lanes :=
  let parity : Vector UInt64 5 := Vector.ofFn fun x =>
    lane a x 0 ^^^ lane a x 1 ^^^ lane a x 2 ^^^ lane a x 3 ^^^ lane a x 4
  let column (x : Nat) : UInt64 := parity.get ⟨x % 5, by omega⟩
  tabulate fun x y => lane a x y ^^^ column (x + 4) ^^^ rotate (column (x + 1)) 1

/-- Each lane is rotated by its offset and moved to its new place. -/
def move (a : Lanes) : Lanes :=
  tabulate fun x y =>
    rotate (lane a (x + 3 * y) x) (offsets.getD ((x + 3 * y) % 5 + 5 * x) 0)

/-- Each lane takes in, within its row, the lanes right of it. -/
def mixRows (a : Lanes) : Lanes :=
  tabulate fun x y => lane a x y ^^^ (~~~(lane a (x + 1) y) &&& lane a (x + 2) y)

def round (a : Lanes) (c : UInt64) : Lanes :=
  let b := mixRows (move (mixColumns a))
  b.set 0 (b.get 0 ^^^ c)

/-- The permutation: twenty-four rounds. -/
def permute (a : Lanes) : Lanes := roundConstants.foldl round a

/-! ## The sponge -/

/-- Bytes taken in by one permutation. -/
def rate : Nat := 136

/-- A lane from its bytes, the least significant one first. -/
def laneOfBytes (bs : Bytes) : UInt64 :=
  bs.foldr (fun b acc => acc <<< 8 ||| b.toUInt64) 0

/-- The bytes of a lane, the least significant one first. -/
def bytesOfLane (w : UInt64) : Bytes :=
  (List.range 8).map fun i => (w >>> UInt64.ofNat (8 * i)).toUInt8

/-- A block put onto the state, then permuted. -/
def absorb (a : Lanes) (block : Bytes) : Lanes :=
  permute (tabulate fun x y =>
    lane a x y ^^^ laneOfBytes ((block.drop (8 * (x + 5 * y))).take 8))

/-- The message filled up to whole blocks. -/
def pad (message : Bytes) : Bytes :=
  let gap := rate - message.length % rate
  if gap = 1 then message ++ [0x81]
  else message ++ [0x01] ++ List.replicate (gap - 2) 0x00 ++ [0x80]

/-- All blocks of a padded message, `n` of them at most. -/
def absorbAll : Nat → Lanes → Bytes → Lanes
  | 0, a, _ => a
  | n + 1, a, bs => absorbAll n (absorb a (bs.take rate)) (bs.drop rate)

def digest (message : Bytes) : Bytes :=
  let a := absorbAll (message.length / rate + 1) (Vector.replicate 25 0) (pad message)
  (List.range 4).flatMap fun i => bytesOfLane (lane a i 0)

end Rollout.Keccak

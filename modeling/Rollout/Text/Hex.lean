/-!
# Hexadecimal text

Bytes are written as two digits each, in lower case. They are read from a text
with an optional `0x` or `0X` in front, in either case, and an odd number of
digits is padded with one zero on the left.

`Hex.decode?` works on the digits alone and wants an even number of them;
`Hex.read?` adds the conventions above. `decode?_encode` says that reading back
what was written gives the bytes again.
-/

namespace Rollout

/-- A string of bytes. -/
abbrev Bytes := List UInt8

namespace Hex

/-! ## Digits -/

/-- The value of a hexadecimal digit of either case. -/
def digit? (c : Char) : Option Nat :=
  if '0' ≤ c && c ≤ '9' then some (c.toNat - 48)
  else if 'a' ≤ c && c ≤ 'f' then some (c.toNat - 87)
  else if 'A' ≤ c && c ≤ 'F' then some (c.toNat - 55)
  else none

/-- Hexadecimal digits of either case. -/
def isDigit (c : Char) : Bool := (digit? c).isSome

/-- The lower-case digit of a number below sixteen. -/
def digit (n : Nat) : Char :=
  if n < 10 then Char.ofNat (48 + n) else Char.ofNat (87 + n)

theorem digit?_digit {n : Nat} (h : n < 16) : digit? (digit n) = some n := by
  have : ∀ k : Fin 16, digit? (digit k.val) = some k.val := by decide
  exact this ⟨n, h⟩

/-! ## Bytes -/

/-- Two digits for each byte. -/
def encode : Bytes → List Char
  | [] => []
  | b :: bs => digit (b.toNat / 16) :: digit (b.toNat % 16) :: encode bs

/-- The bytes of an even number of digits. -/
def decode? : List Char → Option Bytes
  | [] => some []
  | [_] => none
  | hi :: lo :: rest => do
      let h ← digit? hi
      let l ← digit? lo
      let bs ← decode? rest
      return UInt8.ofNat (16 * h + l) :: bs

/-- What was written is read back. -/
theorem decode?_encode (bs : Bytes) : decode? (encode bs) = some bs := by
  induction bs with
  | nil => rfl
  | cons b bs ih =>
      have hlt : b.toNat < 256 := b.toNat_lt
      have hhi : digit? (digit (b.toNat / 16)) = some (b.toNat / 16) := digit?_digit (by omega)
      have hlo : digit? (digit (b.toNat % 16)) = some (b.toNat % 16) := digit?_digit (by omega)
      have hb : 16 * (b.toNat / 16) + b.toNat % 16 = b.toNat := by omega
      have hs : UInt8.ofNat (16 * (b.toNat / 16) + b.toNat % 16) = b := by
        rw [hb]; exact UInt8.ofNat_toNat
      simp only [encode, decode?, hhi, hlo, ih, Option.bind_eq_bind, Option.bind_some,
        Option.pure_def, hs]

/-- Two digits for each byte, as a text. -/
def text (bs : Bytes) : String := String.ofList (encode bs)

/-- The text without a leading `0x` or `0X`. -/
def dropMark : List Char → List Char
  | '0' :: 'x' :: rest => rest
  | '0' :: 'X' :: rest => rest
  | cs => cs

/-- The digits with a zero in front where their number is odd. -/
def padEven (cs : List Char) : List Char :=
  if cs.length % 2 = 1 then '0' :: cs else cs

/-- The bytes that a text denotes: an optional mark, then digits of either case. -/
def read? (s : String) : Option Bytes := decode? (padEven (dropMark s.toList))

/-- The digits of a number in hexadecimal, padded with zeros to a width. -/
def ofNat : (width : Nat) → Nat → List Char
  | 0, _ => []
  | w + 1, n => ofNat w (n / 16) ++ [digit (n % 16)]

end Hex

end Rollout

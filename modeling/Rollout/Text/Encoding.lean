import Rollout.Text.Hex

/-!
# Text in files

A file holds bytes, and a text file is read as UTF-8 in its strict form: no
surrogates, no overlong sequences, nothing beyond U+10FFFF. After decoding, a
carriage return ends a line just as a line feed does, alone or in front of one,
and every line end reads as a line feed.

`decode?` takes one character off the front at a time; `encode` is the other
direction.
-/

namespace Rollout.Text

/-! ## UTF-8 -/

/-- The low six bits of a continuation byte. -/
def continuation? (b : UInt8) : Option Nat :=
  if 0x80 ≤ b.toNat ∧ b.toNat < 0xC0 then some (b.toNat - 0x80) else none

/-- The character of a code point that is a scalar value not below `least`. -/
def scalar? (least n : Nat) : Option Char :=
  if least ≤ n ∧ n.isValidChar then some (Char.ofNat n) else none

/-- The characters of a byte string in UTF-8. -/
def decode? : Bytes → Option (List Char)
  | [] => some []
  | a :: rest =>
      if a.toNat < 0x80 then (decode? rest).map (Char.ofNat a.toNat :: ·)
      else if a.toNat < 0xC0 then none
      else if a.toNat < 0xE0 then
        match rest with
        | b :: rest => do
            let x ← continuation? b
            let char ← scalar? 0x80 ((a.toNat - 0xC0) * 64 + x)
            return char :: (← decode? rest)
        | _ => none
      else if a.toNat < 0xF0 then
        match rest with
        | b :: c :: rest => do
            let x ← continuation? b
            let y ← continuation? c
            let char ← scalar? 0x800 (((a.toNat - 0xE0) * 64 + x) * 64 + y)
            return char :: (← decode? rest)
        | _ => none
      else if a.toNat < 0xF8 then
        match rest with
        | b :: c :: d :: rest => do
            let x ← continuation? b
            let y ← continuation? c
            let z ← continuation? d
            let char ← scalar? 0x10000 ((((a.toNat - 0xF0) * 64 + x) * 64 + y) * 64 + z)
            return char :: (← decode? rest)
        | _ => none
      else none

def encodeChar (c : Char) : Bytes :=
  let n := c.toNat
  if n < 0x80 then [UInt8.ofNat n]
  else if n < 0x800 then [UInt8.ofNat (0xC0 + n / 64), UInt8.ofNat (0x80 + n % 64)]
  else if n < 0x10000 then
    [UInt8.ofNat (0xE0 + n / 4096), UInt8.ofNat (0x80 + n / 64 % 64),
     UInt8.ofNat (0x80 + n % 64)]
  else
    [UInt8.ofNat (0xF0 + n / 262144), UInt8.ofNat (0x80 + n / 4096 % 64),
     UInt8.ofNat (0x80 + n / 64 % 64), UInt8.ofNat (0x80 + n % 64)]

def encode (cs : List Char) : Bytes := cs.flatMap encodeChar

/-! ## Line ends -/

/-- The text with a line feed for every line end. -/
def unifyLines : List Char → List Char
  | [] => []
  | '\r' :: '\n' :: rest => '\n' :: unifyLines rest
  | '\r' :: rest => '\n' :: unifyLines rest
  | c :: rest => c :: unifyLines rest

/-- The characters of a text file, if it is one. -/
def ofFile? (bs : Bytes) : Option (List Char) := (decode? bs).map unifyLines

end Rollout.Text

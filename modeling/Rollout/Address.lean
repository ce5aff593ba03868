import Rollout.Text.Hex

/-!
# Account addresses

An address is forty hexadecimal digits with an optional `0x` or `0X` in front.
Its canonical spelling starts with `0x` and carries a checksum in the case of
its letters: a letter is upper case exactly when the digit at its place in the
hash of the lower-case spelling is eight or more.

The hash is a parameter of `canonicalWith`, because nothing about the spelling
but the place of its capitals depends on it. The shape of an address has nothing
to do with its checksum: `Address.digits?` accepts every mixture of cases. A
reader of addresses may be stricter where letters of both cases occur. Which of
these texts it takes is a parameter of `isTaken`; all that is asked of it is that
it takes the canonical spellings (`TakesCanonical`).
-/

namespace Rollout.Address

/-- ASCII letters in lower case, every other character as it is. -/
def lower (c : Char) : Char :=
  if 'A' ≤ c && c ≤ 'Z' then Char.ofNat (c.toNat + 32) else c

/-- ASCII letters in upper case, every other character as it is. -/
def upper (c : Char) : Char :=
  if 'a' ≤ c && c ≤ 'z' then Char.ofNat (c.toNat - 32) else c

/-- The forty digits of an address as they are written, if the text is one. -/
def digits? (s : String) : Option (List Char) :=
  let cs := Hex.dropMark s.toList
  if cs.length = 40 ∧ cs.all Hex.isDigit = true then some cs else none

/-- Texts that have the shape of an address. -/
def isAddress (s : String) : Bool := (digits? s).isSome

/-- Lower-case digits with the letters raised where the hash's digit is at least eight. -/
def raise (ds : List Char) (hash : List Char) : List Char :=
  List.zipWith (fun c h => if 8 ≤ (Hex.digit? h).getD 0 then upper c else c) ds hash

/-- The bytes of a text of ASCII characters. -/
def asciiBytes (cs : List Char) : Bytes := cs.map fun c => UInt8.ofNat c.toNat

/-- The canonical spelling of forty digits, under a hash of at least twenty bytes. -/
def canonicalDigits (hash : Bytes → Bytes) (ds : List Char) : List Char :=
  let ls := ds.map lower
  raise ls (Hex.encode (hash (asciiBytes ls)))

/-- The canonical spelling of an address, if the text is one. -/
def canonicalWith (hash : Bytes → Bytes) (s : String) : Option String :=
  (digits? s).map fun ds => String.ofList ('0' :: 'x' :: canonicalDigits hash ds)

/-! ## Reading -/

/-- Whether there are letters of both cases behind the mark of a text. -/
def isMixed (s : String) : Bool :=
  let cs := Hex.dropMark s.toList
  cs.any (fun c => 'a' ≤ c && c ≤ 'z') && cs.any fun c => 'A' ≤ c && c ≤ 'Z'

/-- Addresses that are taken: one with letters of both cases has to be among those that the reader
takes. -/
def isTaken (takes : String → Bool) (s : String) : Bool :=
  isAddress s && (!isMixed s || takes s)

/-- The reader takes canonical spellings. -/
def TakesCanonical (hash : Bytes → Bytes) (takes : String → Bool) : Prop :=
  ∀ s, canonicalWith hash s = some s → takes s = true

/-- The canonical spelling of an address that is taken. -/
def readWith (hash : Bytes → Bytes) (takes : String → Bool) (s : String) : Option String :=
  if isTaken takes s then canonicalWith hash s else none

/-! ## Bytes -/

/-- The address of twenty bytes in its canonical spelling. -/
def ofBytesWith (hash : Bytes → Bytes) (bs : Bytes) : String :=
  String.ofList ('0' :: 'x' :: canonicalDigits hash (Hex.encode bs))

end Rollout.Address

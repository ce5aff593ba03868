import Rollout.Proofs.Outcome
import Rollout.Settings.Params

/-!
# Canonical addresses

The canonical spelling of an address is an address again: forty digits behind
the mark. It changes the case of letters only, and the hash of a lower-case
spelling has a digit for each of the forty places.

So nothing that was brought to its canonical spelling is the placeholder of a
contract that is not known yet, which is no address. And nothing is gained by
spelling it once more: the canonical spelling depends on the lower-case spelling
alone, and the two have the same. As every reader takes canonical spellings, what
was read once is read again as itself, however strict the reader is about the
case of letters.

## Main results

* `Address.isAddress_canonicalWith`: the canonical spelling is an address.
* `Address.canonicalWith_canonicalWith`: it is its own canonical spelling.
* `Address.readWith_readWith`: what was read is read as itself.
* `isAddress_of_addressOfKey?`: the account of a private key has an address.
* `isCanonical_of_checksum`, `isCanonical_of_optionalAddress`: what was read as
  an address is in its canonical spelling.
-/

namespace Rollout

namespace Hex

/-- Digits are ASCII characters. -/
theorem toNat_lt_of_isDigit {c : Char} (h : isDigit c = true) : c.toNat < 128 := by
  have hbound : ∀ {lo hi : Char}, (lo ≤ c && c ≤ hi) = true → c.toNat ≤ hi.toNat := by
    intro lo hi hrange
    simp only [Bool.and_eq_true, decide_eq_true_eq] at hrange
    exact hrange.2
  unfold isDigit digit? at h
  split at h
  · exact Nat.lt_of_le_of_lt (hbound ‹_›) (by decide)
  split at h
  · exact Nat.lt_of_le_of_lt (hbound ‹_›) (by decide)
  split at h
  · exact Nat.lt_of_le_of_lt (hbound ‹_›) (by decide)
  · cases h

/-- What holds of each digit below the end of ASCII holds of all digits. -/
theorem forall_isDigit {P : Char → Prop}
    (hall : ∀ n < 128, isDigit (Char.ofNat n) = true → P (Char.ofNat n)) {c : Char}
    (h : isDigit c = true) : P c := by
  have hc : Char.ofNat c.toNat = c := Char.ofNat_toNat c
  have hdigit := hall c.toNat (toNat_lt_of_isDigit h)
  rw [hc] at hdigit
  exact hdigit h

theorem length_encode (bs : Bytes) : (encode bs).length = 2 * bs.length := by
  induction bs with
  | nil => rfl
  | cons b bs ih =>
      rw [encode, List.length_cons, List.length_cons, ih, List.length_cons]
      omega

/-- Bytes are written in digits. -/
theorem isDigit_of_mem_encode {bs : Bytes} : ∀ c ∈ encode bs, isDigit c = true := by
  induction bs with
  | nil => nofun
  | cons b bs ih =>
      intro c hc
      have hb : b.toNat < 256 := b.toNat_lt
      rw [encode, List.mem_cons, List.mem_cons] at hc
      rcases hc with rfl | rfl | hc
      · rw [isDigit, digit?_digit (by omega)]
        rfl
      · rw [isDigit, digit?_digit (Nat.mod_lt _ (by decide))]
        rfl
      · exact ih c hc

theorem length_ofNat (width n : Nat) : (ofNat width n).length = width := by
  induction width generalizing n with
  | zero => rfl
  | succ w ih => rw [ofNat, List.length_append, ih, List.length_singleton]

/-- A number is written in digits. -/
theorem isDigit_of_mem_ofNat {width n : Nat} : ∀ c ∈ ofNat width n, isDigit c = true := by
  induction width generalizing n with
  | zero => nofun
  | succ w ih =>
      intro c hc
      rcases List.mem_append.mp hc with hc | hc
      · exact ih c hc
      · rw [List.mem_singleton.mp hc, isDigit, digit?_digit (Nat.mod_lt n (by decide))]
        rfl

end Hex

theorem Keccak.length_digest (message : Bytes) : (digest message).length = 32 := by
  have hlane : ∀ lane, (bytesOfLane lane).length = 8 := by simp [bytesOfLane]
  simp only [digest, List.length_flatMap, hlane]
  rfl

namespace Address

theorem isDigit_lower {c : Char} (h : Hex.isDigit c = true) : Hex.isDigit (lower c) = true :=
  Hex.forall_isDigit (P := fun c => Hex.isDigit (lower c) = true) (by decide) h

theorem isDigit_upper {c : Char} (h : Hex.isDigit c = true) : Hex.isDigit (upper c) = true :=
  Hex.forall_isDigit (P := fun c => Hex.isDigit (upper c) = true) (by decide) h

/-- Raising letters leaves digits digits. -/
theorem isDigit_of_mem_raise {ds hash : List Char} (hds : ∀ c ∈ ds, Hex.isDigit c = true) :
    ∀ c ∈ raise ds hash, Hex.isDigit c = true := by
  intro c hc
  obtain ⟨i, hi, rfl⟩ := List.mem_iff_getElem.mp hc
  unfold raise at hi ⊢
  rw [List.getElem_zipWith]
  rw [List.length_zipWith] at hi
  have hlt : i < ds.length := by omega
  have hdigit : Hex.isDigit ds[i] = true := hds _ (List.getElem_mem hlt)
  split
  · exact isDigit_upper hdigit
  · exact hdigit

theorem length_raise {ds hash : List Char} (h : ds.length ≤ hash.length) :
    (raise ds hash).length = ds.length := by
  rw [raise, List.length_zipWith]
  omega

/-- Lowering letters leaves digits digits. -/
theorem isDigit_of_mem_map_lower {ds : List Char} (hds : ds.all Hex.isDigit = true) :
    ∀ c ∈ ds.map lower, Hex.isDigit c = true := by
  intro c hc
  obtain ⟨c', hc', rfl⟩ := List.mem_map.mp hc
  exact isDigit_lower (List.all_eq_true.mp hds c' hc')

/-- A hash of twenty bytes has a digit for each of forty. -/
theorem length_le_hash {hash : Bytes → Bytes} (hhash : ∀ bs, 20 ≤ (hash bs).length)
    {ds : List Char} (hlen : ds.length = 40) :
    (ds.map lower).length ≤ (Hex.encode (hash (asciiBytes (ds.map lower)))).length := by
  have h := hhash (asciiBytes (ds.map lower))
  rw [List.length_map, Hex.length_encode]
  omega

/-- The canonical spelling of digits has as many digits, if the hash has a digit for each. -/
theorem canonicalDigits_spec {hash : Bytes → Bytes} (hhash : ∀ bs, 20 ≤ (hash bs).length)
    {ds : List Char} (hlen : ds.length = 40) (hds : ds.all Hex.isDigit = true) :
    (canonicalDigits hash ds).length = 40 ∧ (canonicalDigits hash ds).all Hex.isDigit = true := by
  unfold canonicalDigits
  refine ⟨?_, List.all_eq_true.mpr (isDigit_of_mem_raise (isDigit_of_mem_map_lower hds))⟩
  rw [length_raise (length_le_hash hhash hlen), List.length_map, hlen]

/-- Nothing is raised where there are no letters. -/
theorem raise_eq_self {ds hash : List Char} (hds : ∀ c ∈ ds, upper c = c)
    (hlen : ds.length ≤ hash.length) : raise ds hash = ds := by
  refine List.ext_getElem (length_raise hlen) fun i hi hi' => ?_
  unfold raise at hi ⊢
  rw [List.getElem_zipWith]
  split
  · exact hds _ (List.getElem_mem hi')
  · rfl

/-- Digits without letters are in their canonical spelling. -/
theorem canonicalDigits_eq_self {hash : Bytes → Bytes} (hhash : ∀ bs, 20 ≤ (hash bs).length)
    {ds : List Char} (hlen : ds.length = 40) (hlower : ∀ c ∈ ds, lower c = c)
    (hupper : ∀ c ∈ ds, upper c = c) : canonicalDigits hash ds = ds := by
  have hsame : ds.map lower = ds := (List.map_congr_left hlower).trans (List.map_id ds)
  have hlong := length_le_hash hhash hlen
  unfold canonicalDigits
  rw [hsame] at hlong ⊢
  exact raise_eq_self hupper hlong

/-- The digits of an address with its mark. -/
theorem digits?_ofList {ds : List Char} (hlen : ds.length = 40)
    (hds : ds.all Hex.isDigit = true) : digits? (String.ofList ('0' :: 'x' :: ds)) = some ds := by
  unfold digits?
  rw [String.toList_ofList]
  exact if_pos ⟨hlen, hds⟩

/-- Forty digits behind the mark are an address. -/
theorem isAddress_of_digits {ds : List Char} (hlen : ds.length = 40)
    (hds : ds.all Hex.isDigit = true) : isAddress (String.ofList ('0' :: 'x' :: ds)) = true := by
  rw [isAddress, digits?_ofList hlen hds]
  rfl

/-- The digits of an address are forty digits. -/
theorem spec_of_digits? {s : String} {ds : List Char} (h : digits? s = some ds) :
    ds.length = 40 ∧ ds.all Hex.isDigit = true := by
  unfold digits? at h
  dsimp only at h
  split at h
  · rename_i hcs
    cases h
    exact hcs
  · cases h

/-- The canonical spelling of an address is an address. -/
theorem isAddress_canonicalWith {hash : Bytes → Bytes} (hhash : ∀ bs, 20 ≤ (hash bs).length)
    {s address : String} (h : canonicalWith hash s = some address) : isAddress address = true := by
  obtain ⟨ds, hdigits, rfl⟩ := Option.map_eq_some_iff.mp h
  obtain ⟨hlen, hds⟩ := spec_of_digits? hdigits
  obtain ⟨hlong, hall⟩ := canonicalDigits_spec hhash hlen hds
  exact isAddress_of_digits hlong hall

/-- The canonical spelling of twenty bytes is an address. -/
theorem isAddress_ofBytesWith {hash : Bytes → Bytes} (hhash : ∀ bs, 20 ≤ (hash bs).length)
    {bs : Bytes} (hlen : bs.length = 20) : isAddress (ofBytesWith hash bs) = true := by
  have hdigits : (Hex.encode bs).length = 40 := by rw [Hex.length_encode, hlen]
  obtain ⟨hlong, hall⟩ := canonicalDigits_spec hhash hdigits
    (List.all_eq_true.mpr Hex.isDigit_of_mem_encode)
  exact isAddress_of_digits hlong hall

/-! ## The canonical spelling of a canonical spelling -/

theorem lower_upper {c : Char} (h : Hex.isDigit c = true) : lower (upper c) = lower c :=
  Hex.forall_isDigit (P := fun c => lower (upper c) = lower c) (by decide) h

theorem lower_lower {c : Char} (h : Hex.isDigit c = true) : lower (lower c) = lower c :=
  Hex.forall_isDigit (P := fun c => lower (lower c) = lower c) (by decide) h

/-- Raised letters are lowered to what they were. -/
theorem map_lower_raise {ds hash : List Char} (hds : ∀ c ∈ ds, Hex.isDigit c = true)
    (hlen : ds.length ≤ hash.length) : (raise ds hash).map lower = ds.map lower := by
  induction ds generalizing hash with
  | nil => rfl
  | cons c ds ih =>
      cases hash with
      | nil => simp at hlen
      | cons h hash =>
          have hc : Hex.isDigit c = true := hds c List.mem_cons_self
          have hraise : raise (c :: ds) (h :: hash) =
              (if 8 ≤ (Hex.digit? h).getD 0 then upper c else c) :: raise ds hash := rfl
          have hfirst : lower (if 8 ≤ (Hex.digit? h).getD 0 then upper c else c) = lower c := by
            split
            · exact lower_upper hc
            · rfl
          rw [hraise, List.map_cons, List.map_cons, hfirst,
            ih (fun c' hc' => hds c' (List.mem_cons_of_mem c hc')) (Nat.le_of_succ_le_succ hlen)]

section

variable {hash : Bytes → Bytes} (hhash : ∀ bs, 20 ≤ (hash bs).length)

include hhash

/-- The lower-case spelling is that of the digits before. -/
theorem map_lower_canonicalDigits {ds : List Char} (hlen : ds.length = 40)
    (hds : ds.all Hex.isDigit = true) : (canonicalDigits hash ds).map lower = ds.map lower := by
  rw [canonicalDigits, map_lower_raise (isDigit_of_mem_map_lower hds) (length_le_hash hhash hlen),
    List.map_map]
  refine List.map_congr_left fun c hc => ?_
  exact lower_lower (List.all_eq_true.mp hds c hc)

theorem canonicalDigits_canonicalDigits {ds : List Char} (hlen : ds.length = 40)
    (hds : ds.all Hex.isDigit = true) :
    canonicalDigits hash (canonicalDigits hash ds) = canonicalDigits hash ds := by
  rw [canonicalDigits, map_lower_canonicalDigits hhash hlen hds]
  rfl

/-- The canonical spelling of digits is its own canonical spelling. -/
theorem canonicalWith_ofDigits {ds : List Char} (hlen : ds.length = 40)
    (hds : ds.all Hex.isDigit = true) :
    canonicalWith hash (String.ofList ('0' :: 'x' :: canonicalDigits hash ds)) =
      some (String.ofList ('0' :: 'x' :: canonicalDigits hash ds)) := by
  obtain ⟨hlong, hall⟩ := canonicalDigits_spec hhash hlen hds
  rw [canonicalWith, digits?_ofList hlong hall, Option.map_some,
    canonicalDigits_canonicalDigits hhash hlen hds]

/-- The canonical spelling of an address is its own canonical spelling. -/
theorem canonicalWith_canonicalWith {s address : String}
    (h : canonicalWith hash s = some address) : canonicalWith hash address = some address := by
  obtain ⟨ds, hdigits, rfl⟩ := Option.map_eq_some_iff.mp h
  obtain ⟨hlen, hds⟩ := spec_of_digits? hdigits
  exact canonicalWith_ofDigits hhash hlen hds

end

/-! ## What is taken -/

section

variable {hash : Bytes → Bytes} {takes : String → Bool} {s address : String}

theorem isAddress_of_isTaken (h : isTaken takes s = true) : isAddress s = true :=
  (Bool.and_eq_true_iff.mp h).1

theorem readWith_eq_some_iff :
    readWith hash takes s = some address ↔
      isTaken takes s = true ∧ canonicalWith hash s = some address := by
  unfold readWith
  split
  · rename_i htaken
    exact (and_iff_right htaken).symm
  · rename_i hrefused
    exact iff_of_false nofun fun h => hrefused h.1

/-- An address is read if it is taken. -/
theorem exists_readWith (hash : Bytes → Bytes) (h : isTaken takes s = true) :
    ∃ r, readWith hash takes s = some r := by
  obtain ⟨ds, hdigits⟩ := Option.isSome_iff_exists.mp (isAddress_of_isTaken h)
  have hcanonical : canonicalWith hash s =
      some (String.ofList ('0' :: 'x' :: canonicalDigits hash ds)) := by
    rw [canonicalWith, hdigits, Option.map_some]
  exact ⟨_, readWith_eq_some_iff.mpr ⟨h, hcanonical⟩⟩

variable (hhash : ∀ bs, 20 ≤ (hash bs).length) (htakes : TakesCanonical hash takes)

include hhash htakes

/-- The canonical spelling of an address is taken. -/
theorem isTaken_canonicalWith (h : canonicalWith hash s = some address) :
    isTaken takes address = true := by
  have hself : canonicalWith hash address = some address := canonicalWith_canonicalWith hhash h
  rw [isTaken, isAddress_canonicalWith hhash h, htakes address hself, Bool.or_true, Bool.and_true]

/-- The canonical spelling of an address is read as itself. -/
theorem readWith_of_canonicalWith (h : canonicalWith hash s = some address) :
    readWith hash takes address = some address :=
  readWith_eq_some_iff.mpr
    ⟨isTaken_canonicalWith hhash htakes h, canonicalWith_canonicalWith hhash h⟩

/-- What was read is read as itself. -/
theorem readWith_readWith (h : readWith hash takes s = some address) :
    readWith hash takes address = some address :=
  readWith_of_canonicalWith hhash htakes (readWith_eq_some_iff.mp h).2

end

end Address

theorem Keccak.twenty_le_length_digest (bs : Bytes) : 20 ≤ (digest bs).length := by
  rw [length_digest]
  decide

/-- The account of a private key has an address. -/
theorem isAddress_of_addressOfKey? {key address : String}
    (h : addressOfKey? key = some address) : Address.isAddress address = true := by
  obtain ⟨bytes, _, h⟩ := Option.bind_eq_some_iff.mp h
  obtain ⟨account, haccount, h⟩ := Option.bind_eq_some_iff.mp h
  cases h
  unfold Curve.account? at haccount
  dsimp only at haccount
  split at haccount
  · cases haccount
    refine Address.isAddress_ofBytesWith Keccak.twenty_le_length_digest ?_
    simp [Curve.accountOf, Keccak.length_digest]
  · cases haccount

/-! ## Addresses that were read -/

/-- A text that is an address. -/
def Value.IsAddress (v : Value) : Prop := ∃ s, v = .text s ∧ Address.isAddress s = true

/-- A text that is taken for an address. -/
def Value.IsTaken (takes : String → Bool) (v : Value) : Prop :=
  ∃ s, v = .text s ∧ Address.isTaken takes s = true

theorem Value.IsTaken.isAddress {takes : String → Bool} {v : Value} (h : v.IsTaken takes) :
    v.IsAddress := by
  obtain ⟨s, rfl, hs⟩ := h
  exact ⟨s, rfl, Address.isAddress_of_isTaken hs⟩

section

variable {hash : Bytes → Bytes} {takes : String → Bool}

/-- What is read as an address under a hash is the canonical spelling of a text. -/
theorem checksumWith_eq_ok {v : Value} {name address : String} :
    checksumWith hash takes v name = .ok address ↔
      ∃ s, v = .text s ∧ Address.readWith hash takes s = some address := by
  unfold checksumWith
  cases v with
  | text s =>
      dsimp only
      cases hfound : Address.readWith hash takes s <;> simp [hfound]
  | _ => simp

theorem exists_checksumWith (hash : Bytes → Bytes) {v : Value} (h : v.IsTaken takes)
    (name : String) :
    ∃ address, checksumWith hash takes v name = .ok address := by
  obtain ⟨s, rfl, hs⟩ := h
  obtain ⟨address, haddress⟩ := Address.exists_readWith hash hs
  exact ⟨address, checksumWith_eq_ok.mpr ⟨s, rfl, haddress⟩⟩

/-- What is not taken is refused with its value, unless an integer in it is too long for that. -/
theorem checksumWith_eq_error {v : Value} (h : ¬v.IsTaken takes) (name : String) :
    checksumWith hash takes v name =
      .error (if v.isWritable then .invalidAddress name v else .numberTooLong) := by
  unfold checksumWith
  cases v with
  | text s =>
      have hrefused : ¬Address.isTaken takes s = true := fun hs => h ⟨s, rfl, hs⟩
      dsimp only
      rw [Address.readWith, if_neg hrefused]
      rfl
  | _ => rfl

end

section

variable [Address.CaseRule]

/-- A text that is an address in its canonical spelling: what is read from it, under whatever name,
is itself. -/
def Value.IsCanonical (v : Value) : Prop := ∃ s, v = .text s ∧ ∀ name, checksum v name = .ok s

/-- What is read as an address is the canonical spelling of a text. -/
theorem checksum_eq_ok {v : Value} {name address : String} :
    checksum v name = .ok address ↔
      ∃ s, v = .text s ∧
        Address.readWith Keccak.digest Address.CaseRule.takes s = some address :=
  checksumWith_eq_ok

theorem isCanonical_of_canonicalWith {s : String}
    (h : Address.canonicalWith Keccak.digest s = some s) : (Value.text s).IsCanonical :=
  ⟨s, rfl, fun _ => checksum_eq_ok.mpr ⟨s, rfl, Address.readWith_of_canonicalWith
    Keccak.twenty_le_length_digest Address.CaseRule.takesCanonical h⟩⟩

theorem Value.IsCanonical.isTaken {v : Value} (h : v.IsCanonical) :
    v.IsTaken Address.CaseRule.takes := by
  obtain ⟨s, rfl, hs⟩ := h
  obtain ⟨s', heq, hread⟩ := checksum_eq_ok.mp (hs "")
  cases heq
  exact ⟨s, rfl, (Address.readWith_eq_some_iff.mp hread).1⟩

theorem Value.IsCanonical.isAddress {v : Value} (h : v.IsCanonical) : v.IsAddress :=
  h.isTaken.isAddress

/-- What was read as an address is read as itself. -/
theorem isCanonical_of_checksum {v : Value} {name address : String}
    (h : checksum v name = .ok address) : (Value.text address).IsCanonical := by
  obtain ⟨s, rfl, hs⟩ := checksum_eq_ok.mp h
  exact isCanonical_of_canonicalWith (Address.canonicalWith_canonicalWith
    Keccak.twenty_le_length_digest (Address.readWith_eq_some_iff.mp hs).2)

theorem isCanonical_of_optionalAddress {s : Option String} {name address : String}
    (h : optionalAddress s name = .ok (some address)) : (Value.text address).IsCanonical := by
  unfold optionalAddress at h
  split at h
  · cases h
  split at h
  · cases h
  · obtain ⟨found, hfound, h⟩ := Outcome.bind_eq_ok.mp h
    cases h
    exact isCanonical_of_checksum hfound

end

/-- No address is the placeholder. -/
theorem ne_placeholder_of_isAddress {s : String} (h : Address.isAddress s = true) :
    s ≠ placeholder := by
  rintro rfl
  revert h
  decide

/-- A text that is an address is resolved. -/
theorem isUnresolved_of_isAddress {s : String} (h : Address.isAddress s = true) :
    isUnresolved (.text s) = false := by
  rw [← Bool.not_eq_true, isUnresolved, Value.isText_text, beq_iff_eq]
  exact ne_placeholder_of_isAddress h

/-- Every contract of the chain gets an address. -/
def Chain.GivesAddresses (c : Chain) : Prop := ∀ n, Address.isAddress (c.addressOf n) = true

end Rollout

import Rollout.Proofs.Text.Spelling

/-!
# The checksum of an address

The canonical spelling of an address depends on its twenty bytes alone, and it
tells them apart. So it is the same for all spellings of the bytes: with a mark or
without, and in whatever case the letters are.

The case of the letters is the checksum. Whether it is looked at when an address
is read is up to the reader; the program itself does not look. Where the reader
does not either, a letter in the wrong case is put right, and where a digit is
wrong, the letters are put into the case that fits the wrong digit. What is not
an address is refused by its shape, and so is every value that is no text. A value
can only be refused with a message if it can be shown.

## Main results

* `Address.canonicalWith_eq_some_iff`: the canonical spelling of an address is
  that of the bytes it denotes.
* `Address.ofBytesWith_injective`: different bytes have different canonical
  spellings.
* `Address.readsAddresses`: what reading addresses comes to, under a hash and for
  a reader that takes the canonical spellings.
* `Address.refuses_of_isMisspelt`: a reader that asks for the canonical spelling
  refuses every address with a letter in the wrong case.
-/

namespace Rollout.Address

/-- A text denotes bytes: behind a mark or none are their digits, in whatever case. -/
def Denotes (s : String) (bs : Bytes) : Prop :=
  ∃ mark ∈ Hex.marks, ∃ ds, s.toList = mark ++ ds ∧ ds.map lower = Hex.encode bs

/-! ## Digits and bytes -/

/-- The digits of an address are what stands behind its mark. -/
theorem digits?_eq_some_iff {s : String} {ds : List Char} :
    digits? s = some ds ↔ (∃ mark ∈ Hex.marks, s.toList = mark ++ ds) ∧ ds.length = 40 ∧
      ∀ c ∈ ds, Hex.isDigit c = true := by
  constructor
  · intro h
    obtain ⟨hlen, hds⟩ := spec_of_digits? h
    refine ⟨?_, hlen, List.all_eq_true.mp hds⟩
    unfold digits? at h
    dsimp only at h
    split at h
    · cases h
      exact Hex.exists_mark_append_dropMark s.toList
    · cases h
  · rintro ⟨⟨mark, hmark, hs⟩, hlen, hds⟩
    unfold digits?
    dsimp only
    rw [hs, Hex.dropMark_append hmark hds]
    exact if_pos ⟨hlen, List.all_eq_true.mpr hds⟩

/-- Bytes are denoted by their digits in upper case as well. -/
theorem map_lower_map_upper_encode (bs : Bytes) :
    ((Hex.encode bs).map upper).map lower = Hex.encode bs := by
  rw [List.map_map, ← Hex.map_lower_encode bs, List.map_map]
  refine List.map_congr_left fun c hc => ?_
  have hdigit := Hex.isDigit_of_mem_encode c hc
  exact (lower_upper (isDigit_lower hdigit)).trans (lower_lower hdigit)

/-- A text is an address exactly if it denotes twenty bytes. -/
theorem digits?_eq_some_iff_denotes {s : String} {ds : List Char} :
    digits? s = some ds ↔ ∃ bs, bs.length = 20 ∧ ds.map lower = Hex.encode bs ∧
      ∃ mark ∈ Hex.marks, s.toList = mark ++ ds := by
  rw [digits?_eq_some_iff]
  constructor
  · rintro ⟨hmark, hlen, hds⟩
    obtain ⟨bs, hbs⟩ := Hex.exists_decode? (by rw [hlen]) hds
    have hencode := Hex.decode?_eq_some_iff.mp hbs
    have hbytes := Hex.length_of_map_lower hencode
    exact ⟨bs, by omega, hencode, hmark⟩
  · rintro ⟨bs, hlen, hds, hmark⟩
    exact ⟨hmark, by rw [Hex.length_of_map_lower hds, hlen], Hex.isDigit_of_map_lower hds⟩

theorem Denotes.eq {s : String} {bs bs' : Bytes} (h : Denotes s bs) (h' : Denotes s bs') :
    bs = bs' := by
  obtain ⟨mark, hmark, ds, hs, hds⟩ := h
  obtain ⟨mark', hmark', ds', hs', hds'⟩ := h'
  have hsame : ds = ds' := by
    rw [← Hex.dropMark_append hmark (Hex.isDigit_of_map_lower hds), ← hs, hs',
      Hex.dropMark_append hmark' (Hex.isDigit_of_map_lower hds')]
  subst hsame
  exact Hex.encode_injective (hds.symm.trans hds')

/-! ## Canonical spellings -/

variable {hash : Bytes → Bytes}

/-- The case in which digits are given does not matter. -/
theorem canonicalDigits_of_map_lower {ds : List Char} {bs : Bytes}
    (h : ds.map lower = Hex.encode bs) :
    canonicalDigits hash ds = canonicalDigits hash (Hex.encode bs) := by
  rw [canonicalDigits, canonicalDigits, h, Hex.map_lower_encode]

/-- The canonical spelling of an address is that of the bytes it denotes. -/
theorem canonicalWith_eq_some_iff {s r : String} :
    canonicalWith hash s = some r ↔
      ∃ bs, bs.length = 20 ∧ Denotes s bs ∧ r = ofBytesWith hash bs := by
  rw [canonicalWith, Option.map_eq_some_iff]
  constructor
  · rintro ⟨ds, hdigits, rfl⟩
    obtain ⟨bs, hlen, hds, mark, hmark, hs⟩ := digits?_eq_some_iff_denotes.mp hdigits
    exact ⟨bs, hlen, ⟨mark, hmark, ds, hs, hds⟩, by
      rw [ofBytesWith, canonicalDigits_of_map_lower hds]⟩
  · rintro ⟨bs, hlen, ⟨mark, hmark, ds, hs, hds⟩, rfl⟩
    refine ⟨ds, digits?_eq_some_iff_denotes.mpr ⟨bs, hlen, hds, mark, hmark, hs⟩, ?_⟩
    rw [ofBytesWith, canonicalDigits_of_map_lower hds]

theorem isAddress_iff {s : String} : isAddress s = true ↔ ∃ bs, bs.length = 20 ∧ Denotes s bs := by
  constructor
  · intro h
    obtain ⟨ds, hdigits⟩ := Option.isSome_iff_exists.mp h
    obtain ⟨bs, hlen, hds, mark, hmark, hs⟩ := digits?_eq_some_iff_denotes.mp hdigits
    exact ⟨bs, hlen, mark, hmark, ds, hs, hds⟩
  · rintro ⟨bs, hlen, mark, hmark, ds, hs, hds⟩
    exact Option.isSome_iff_exists.mpr
      ⟨ds, digits?_eq_some_iff_denotes.mpr ⟨bs, hlen, hds, mark, hmark, hs⟩⟩

/-- Digits behind a mark or none, in lower case or in upper case, denote the bytes. -/
theorem denotes_ofList (bs : Bytes) {mark : List Char} (hmark : mark ∈ Hex.marks) :
    Denotes (String.ofList (mark ++ Hex.encode bs)) bs ∧
      Denotes (String.ofList (mark ++ (Hex.encode bs).map upper)) bs :=
  ⟨⟨mark, hmark, _, String.toList_ofList, Hex.map_lower_encode bs⟩,
    ⟨mark, hmark, _, String.toList_ofList, map_lower_map_upper_encode bs⟩⟩

section

variable (hhash : ∀ bs, 20 ≤ (hash bs).length)

include hhash

/-- The canonical digits of twenty bytes are their digits, up to the case. -/
theorem canonicalDigits_encode_spec {bs : Bytes} (hlen : bs.length = 20) :
    (canonicalDigits hash (Hex.encode bs)).length = 40 ∧
      (∀ c ∈ canonicalDigits hash (Hex.encode bs), Hex.isDigit c = true) ∧
      (canonicalDigits hash (Hex.encode bs)).map lower = Hex.encode bs := by
  have hdigits : (Hex.encode bs).length = 40 := by rw [Hex.length_encode, hlen]
  have hall : (Hex.encode bs).all Hex.isDigit = true :=
    List.all_eq_true.mpr Hex.isDigit_of_mem_encode
  obtain ⟨hlong, hcanonical⟩ := canonicalDigits_spec hhash hdigits hall
  exact ⟨hlong, List.all_eq_true.mp hcanonical,
    (map_lower_canonicalDigits hhash hdigits hall).trans (Hex.map_lower_encode bs)⟩

/-- Different bytes have different canonical spellings. -/
theorem ofBytesWith_injective {bs bs' : Bytes} (hlen : bs.length = 20) (hlen' : bs'.length = 20)
    (h : ofBytesWith hash bs = ofBytesWith hash bs') : bs = bs' := by
  have hdigits : canonicalDigits hash (Hex.encode bs) = canonicalDigits hash (Hex.encode bs') := by
    have hlists := congrArg String.toList h
    rw [ofBytesWith, ofBytesWith, String.toList_ofList, String.toList_ofList] at hlists
    exact (List.cons.inj (List.cons.inj hlists).2).2
  refine Hex.encode_injective ?_
  rw [← (canonicalDigits_encode_spec hhash hlen).2.2, hdigits,
    (canonicalDigits_encode_spec hhash hlen').2.2]

end

/-! ## The case of the letters -/

/-- A digit in lower case is no capital letter. -/
theorem not_capital_lower {c : Char} (h : Hex.isDigit c = true) :
    ¬('A' ≤ lower c && lower c ≤ 'Z') = true :=
  Hex.forall_isDigit (P := fun c => ¬('A' ≤ lower c && lower c ≤ 'Z') = true) (by decide) h

/-- A digit in upper case is no small letter. -/
theorem not_small_upper {c : Char} (h : Hex.isDigit c = true) :
    ¬('a' ≤ upper c && upper c ≤ 'z') = true :=
  Hex.forall_isDigit (P := fun c => ¬('a' ≤ upper c && upper c ≤ 'z') = true) (by decide) h

section

variable {mark ds : List Char} (hmark : mark ∈ Hex.marks)
  (hds : ∀ c ∈ ds, Hex.isDigit c = true)

include hmark hds

/-- The letters of an address are those of its digits. -/
theorem isMixed_ofList :
    isMixed (String.ofList (mark ++ ds)) =
      (ds.any (fun c => 'a' ≤ c && c ≤ 'z') && ds.any fun c => 'A' ≤ c && c ≤ 'Z') := by
  rw [isMixed, String.toList_ofList, Hex.dropMark_append hmark hds]

theorem isMixed_map_lower : isMixed (String.ofList (mark ++ ds.map lower)) = false := by
  have hdigits : ∀ c ∈ ds.map lower, Hex.isDigit c = true :=
    List.forall_mem_map.mpr fun c hc => isDigit_lower (hds c hc)
  have hnone : ((ds.map lower).any fun c => 'A' ≤ c && c ≤ 'Z') = false := by
    rw [List.any_map]
    exact List.any_eq_false.mpr fun c hc => not_capital_lower (hds c hc)
  rw [isMixed_ofList hmark hdigits, hnone, Bool.and_false]

theorem isMixed_map_upper : isMixed (String.ofList (mark ++ ds.map upper)) = false := by
  have hdigits : ∀ c ∈ ds.map upper, Hex.isDigit c = true :=
    List.forall_mem_map.mpr fun c hc => isDigit_upper (hds c hc)
  have hnone : ((ds.map upper).any fun c => 'a' ≤ c && c ≤ 'z') = false := by
    rw [List.any_map]
    exact List.any_eq_false.mpr fun c hc => not_small_upper (hds c hc)
  rw [isMixed_ofList hmark hdigits, hnone, Bool.false_and]

end

/-! ## Reading addresses -/

/-- Reading a value fails as a fault of the configuration that there is a message for. -/
def Refuses (r : Except ConfigFault String) : Prop :=
  ∃ f, r = .error f ∧ (Failure.configuration f).title? = some "ConfigurationError"

/-- A text with letters of both cases that is not in its canonical spelling. -/
def IsMisspelt (hash : Bytes → Bytes) (v : Value) : Prop :=
  ∃ s, v = .text s ∧ isMixed s = true ∧ canonicalWith hash s ≠ some s

/-- A value of which it can be seen that it is no address: it is misspelt, or no text at all. -/
def IsMistaken (hash : Bytes → Bytes) (v : Value) : Prop :=
  IsMisspelt hash v ∨ ∀ s, v ≠ .text s

variable {takes : String → Bool}

/-- An address is taken unless its letters are of both cases and the reader does not take it. -/
theorem isTaken_iff {s : String} :
    isTaken takes s = true ↔ (∃ bs, bs.length = 20 ∧ Denotes s bs) ∧
      (isMixed s = true → takes s = true) := by
  rw [isTaken, Bool.and_eq_true, isAddress_iff]
  cases isMixed s <;> simp

/-- Bytes are read in their canonical spelling, from a text that is taken. -/
theorem checksumWith_eq_ok_iff {s : String} {bs : Bytes} (hlen : bs.length = 20)
    (h : Denotes s bs) (name : String) :
    checksumWith hash takes (.text s) name = .ok (ofBytesWith hash bs) ↔
      (isMixed s = true → takes s = true) := by
  have hcanonical : canonicalWith hash s = some (ofBytesWith hash bs) :=
    canonicalWith_eq_some_iff.mpr ⟨bs, hlen, h, rfl⟩
  rw [checksumWith_eq_ok]
  constructor
  · rintro ⟨_, ⟨⟩, hread⟩
    exact (isTaken_iff.mp (readWith_eq_some_iff.mp hread).1).2
  · intro hcase
    exact ⟨s, rfl, readWith_eq_some_iff.mpr ⟨isTaken_iff.mpr ⟨⟨bs, hlen, h⟩, hcase⟩, hcanonical⟩⟩

/-- What is not taken is refused, if it can be shown. -/
theorem refuses_iff_isWritable {v : Value} (hv : ¬v.IsTaken takes) {name : String} :
    Refuses (checksumWith hash takes v name) ↔ v.isWritable = true := by
  rw [checksumWith_eq_error hv]
  cases v.isWritable with
  | true => exact iff_of_true ⟨_, rfl, rfl⟩ rfl
  | false =>
      refine iff_of_false ?_ Bool.false_ne_true
      rintro ⟨f, hf, htitle⟩
      cases hf
      cases htitle

/-- A text is refused exactly if it is not taken. -/
theorem refuses_text_iff {s name : String} :
    Refuses (checksumWith hash takes (.text s) name) ↔ ¬isTaken takes s = true := by
  constructor
  · rintro ⟨f, hf, -⟩ hs
    obtain ⟨address, haddress⟩ := exists_checksumWith hash ⟨s, rfl, hs⟩ name
    rw [haddress] at hf
    cases hf
  · intro hs
    refine (refuses_iff_isWritable ?_).mpr rfl
    rintro ⟨s', hsame, hs'⟩
    cases hsame
    exact hs hs'

/-- A mistake is found unless it is in the case of an address that the reader takes, or in a value
that cannot be shown. -/
theorem refuses_mistaken_iff (v : Value) (name : String) :
    (IsMistaken hash v → Refuses (checksumWith hash takes v name)) ↔
      (∀ s bs, v = .text s → bs.length = 20 → Denotes s bs → IsMisspelt hash v →
        takes s = false) ∧
        ((∀ s, v ≠ .text s) → v.isWritable = true) := by
  have hkind : (∀ s, v ≠ .text s) → ¬v.IsTaken takes := fun hv ⟨s, hs, _⟩ => hv s hs
  constructor
  · intro h
    refine ⟨?_, fun hv => (refuses_iff_isWritable (hkind hv)).mp (h (.inr hv))⟩
    rintro s bs rfl hlen hbs hmisspelt
    rw [← Bool.not_eq_true]
    intro htakes
    refine refuses_text_iff.mp (h (.inl hmisspelt)) ?_
    exact isTaken_iff.mpr ⟨⟨bs, hlen, hbs⟩, fun _ => htakes⟩
  · rintro ⟨hcase, hshown⟩ (hmisspelt | hv)
    · obtain ⟨s, rfl, hmixed, -⟩ := id hmisspelt
      rw [refuses_text_iff, isTaken_iff]
      rintro ⟨⟨bs, hlen, hbs⟩, htakes⟩
      exact Bool.false_ne_true ((hcase s bs rfl hlen hbs hmisspelt).symm.trans (htakes hmixed))
    · exact (refuses_iff_isWritable (hkind hv)).mpr (hshown hv)

/-- What reading addresses comes to, under a hash and for a reader that takes some addresses with
letters of both cases. What is read is forty digits behind the mark, and read again it is itself;
two texts are read alike exactly if they denote the same twenty bytes; the digits of any twenty
bytes can be read, in lower case or in upper case, with the mark or without. With letters of both
cases they can be read exactly if the reader takes them: so a mistake is refused exactly if it is
not in a text that the reader takes, and not in a value that cannot be shown. -/
structure ReadsAddresses (hash : Bytes → Bytes) (takes : String → Bool) : Prop where
  canonical : ∀ v name r, checksumWith hash takes v name = .ok r → ∃ s ds ds',
    v = .text s ∧ digits? s = some ds ∧ r = String.ofList ('0' :: 'x' :: ds') ∧
    ds'.length = 40 ∧ (∀ c ∈ ds', Hex.isDigit c = true) ∧ ds'.map lower = ds.map lower
  fixed : ∀ v name r, checksumWith hash takes v name = .ok r →
    ∀ name', checksumWith hash takes (.text r) name' = .ok r
  same_iff : ∀ s s' name name' r r', checksumWith hash takes (.text s) name = .ok r →
    checksumWith hash takes (.text s') name' = .ok r' →
      (r = r' ↔ ∃ bs, bs.length = 20 ∧ Denotes s bs ∧ Denotes s' bs)
  accepted : ∀ bs, bs.length = 20 → ∀ mark ∈ [[], ['0', 'x']], ∀ name,
    checksumWith hash takes (.text (String.ofList (mark ++ Hex.encode bs))) name =
        .ok (ofBytesWith hash bs) ∧
      checksumWith hash takes (.text (String.ofList (mark ++ (Hex.encode bs).map upper))) name =
        .ok (ofBytesWith hash bs)
  anyCase : ∀ s bs, bs.length = 20 → Denotes s bs → ∀ name,
    checksumWith hash takes (.text s) name = .ok (ofBytesWith hash bs) ↔
      (isMixed s = true → takes s = true)
  mistaken_iff : ∀ v name, (IsMistaken hash v → Refuses (checksumWith hash takes v name)) ↔
    (∀ s bs, v = .text s → bs.length = 20 → Denotes s bs → IsMisspelt hash v → takes s = false) ∧
      ((∀ s, v ≠ .text s) → v.isWritable = true)

/-- All of this holds under every hash that has a digit for each of forty, and for every reader that
takes canonical spellings. -/
theorem readsAddresses (hhash : ∀ bs, 20 ≤ (hash bs).length) (htakes : TakesCanonical hash takes) :
    ReadsAddresses hash takes where
  canonical := by
    intro v name r h
    obtain ⟨s, rfl, hs⟩ := checksumWith_eq_ok.mp h
    obtain ⟨ds, hdigits, rfl⟩ := Option.map_eq_some_iff.mp (readWith_eq_some_iff.mp hs).2
    obtain ⟨hlen, hds⟩ := spec_of_digits? hdigits
    obtain ⟨hlong, hall⟩ := canonicalDigits_spec hhash hlen hds
    exact ⟨s, ds, _, rfl, hdigits, rfl, hlong, List.all_eq_true.mp hall,
      map_lower_canonicalDigits hhash hlen hds⟩
  fixed := by
    intro v name r h name'
    obtain ⟨s, rfl, hs⟩ := checksumWith_eq_ok.mp h
    exact checksumWith_eq_ok.mpr ⟨r, rfl, readWith_readWith hhash htakes hs⟩
  same_iff := by
    intro s s' name name' r r' h h'
    obtain ⟨_, hs, hr⟩ := checksumWith_eq_ok.mp h
    obtain ⟨_, hs', hr'⟩ := checksumWith_eq_ok.mp h'
    cases hs
    cases hs'
    obtain ⟨bs, hlen, hbs, rfl⟩ := canonicalWith_eq_some_iff.mp (readWith_eq_some_iff.mp hr).2
    obtain ⟨bs', hlen', hbs', rfl⟩ := canonicalWith_eq_some_iff.mp (readWith_eq_some_iff.mp hr').2
    constructor
    · intro hsame
      obtain rfl := ofBytesWith_injective hhash hlen hlen' hsame
      exact ⟨bs, hlen, hbs, hbs'⟩
    · rintro ⟨both, -, hboth, hboth'⟩
      rw [hbs.eq hboth, hbs'.eq hboth']
  accepted := by
    intro bs hlen mark hmark name
    have hmarks : mark ∈ Hex.marks := by
      revert mark
      decide
    obtain ⟨hlower, hupper⟩ := denotes_ofList bs hmarks
    have hdigits : ∀ c ∈ Hex.encode bs, Hex.isDigit c = true := Hex.isDigit_of_mem_encode
    constructor
    · refine (checksumWith_eq_ok_iff hlen hlower name).mpr fun hmixed => ?_
      have hcase := isMixed_map_lower hmarks hdigits
      rw [Hex.map_lower_encode] at hcase
      exact absurd (hcase.symm.trans hmixed) Bool.false_ne_true
    · refine (checksumWith_eq_ok_iff hlen hupper name).mpr fun hmixed => ?_
      have hcase := isMixed_map_upper hmarks hdigits
      exact absurd (hcase.symm.trans hmixed) Bool.false_ne_true
  anyCase := fun _ _ hlen hbs => checksumWith_eq_ok_iff hlen hbs
  mistaken_iff := refuses_mistaken_iff

/-- They hold under the hash that addresses are read with, if the case of letters does not
matter. -/
theorem readsAddresses_digest :
    (∀ bs, 20 ≤ (Keccak.digest bs).length) ∧
      TakesCanonical Keccak.digest CaseRule.any.takes ∧
      ReadsAddresses Keccak.digest CaseRule.any.takes :=
  ⟨Keccak.twenty_le_length_digest, CaseRule.any.takesCanonical,
    readsAddresses Keccak.twenty_le_length_digest CaseRule.any.takesCanonical⟩

/-- Whether a text is in its canonical spelling. A reader that asks for this where letters are of
both cases takes canonical spellings. -/
def isCanonicalWith (hash : Bytes → Bytes) (s : String) : Bool := canonicalWith hash s == some s

theorem takesCanonical_isCanonicalWith : TakesCanonical hash (isCanonicalWith hash) :=
  fun _ h => beq_iff_eq.mpr h

/-- It refuses every text that is misspelt. -/
theorem refuses_of_isMisspelt {v : Value} (h : IsMisspelt hash v) (name : String) :
    Refuses (checksumWith hash (isCanonicalWith hash) v name) := by
  obtain ⟨s, rfl, -, hspelt⟩ := id h
  refine (refuses_mistaken_iff _ name).mpr ⟨?_, fun hv => absurd rfl (hv s)⟩ (.inl h)
  rintro _ bs ⟨⟩ - - -
  exact beq_eq_false_iff_ne.mpr hspelt

/-- An address with every letter in the wrong case is read as if they were in the right one. -/
theorem checksum_misspelt :
    IsMistaken Keccak.digest (.text "0x5AaEB6053f3e94c9B9a09F33669435e7eF1bEaED") ∧
    checksum (.text "0x5AaEB6053f3e94c9B9a09F33669435e7eF1bEaED") "ADMIN_ADDRESS" =
      .ok "0x5aAeb6053F3E94C9b9A09f33669435E7Ef1BeAed" ∧
    ¬Refuses (checksum (.text "0x5AaEB6053f3e94c9B9a09F33669435e7eF1bEaED") "ADMIN_ADDRESS") := by
  have hcanonical : canonicalWith Keccak.digest "0x5AaEB6053f3e94c9B9a09F33669435e7eF1bEaED" =
      some "0x5aAeb6053F3E94C9b9A09f33669435E7Ef1BeAed" := by decide +kernel
  have htaken : isTaken CaseRule.takes "0x5AaEB6053f3e94c9B9a09F33669435e7eF1bEaED" = true := by
    decide +kernel
  have hread : checksum (.text "0x5AaEB6053f3e94c9B9a09F33669435e7eF1bEaED") "ADMIN_ADDRESS" =
      .ok "0x5aAeb6053F3E94C9b9A09f33669435E7Ef1BeAed" :=
    checksumWith_eq_ok.mpr ⟨_, rfl, readWith_eq_some_iff.mpr ⟨htaken, hcanonical⟩⟩
  have hmixed : isMixed "0x5AaEB6053f3e94c9B9a09F33669435e7eF1bEaED" = true := by decide +kernel
  refine ⟨.inl ⟨_, rfl, hmixed, ?_⟩, hread, ?_⟩
  · rw [hcanonical]
    decide +kernel
  · rw [hread]
    rintro ⟨f, hf, -⟩
    cases hf

end Rollout.Address

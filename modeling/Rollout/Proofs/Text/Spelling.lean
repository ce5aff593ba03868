import Mathlib.Data.List.TakeWhile
import Rollout.Proofs.Address.Canonical
import Rollout.Text.Blank

/-!
# Spellings of bytes

Bytes are written in one way, two lower-case digits each, but they may be spelled
in many: in digits of either case, behind a mark or not, with blanks around.
`Hex.Spells` says which digits a text spells without reading it. Dropping the
blanks and then the mark finds these digits, and nothing else is dropped, because
no digit is a blank and no mark can start a row of digits.

Reading digits is the inverse of writing bytes up to the case of letters.

## Main results

* `Text.trimChars_surrounded`, `Text.exists_surrounded`: what trimming leaves of a
  text.
* `Hex.spells_iff`: the digits that a text spells are what is left of it.
* `Hex.decode?_eq_some_iff`: digits are read as the bytes whose digits they are.
-/

namespace Rollout

/-! ## Blanks -/

namespace Text

/-- Every character of a list is a blank. -/
def AreBlanks (cs : List Char) : Prop := ∀ c ∈ cs, isBlank c = true

instance (cs : List Char) : Decidable (AreBlanks cs) :=
  decidable_of_iff (cs.all isBlank = true) List.all_eq_true

section

variable {p : Char → Bool}

/-- A text without the characters of a kind at its ends. -/
def strip (p : Char → Bool) (cs : List Char) : List Char :=
  ((cs.dropWhile p).reverse.dropWhile p).reverse

theorem dropWhile_eq_nil {cs : List Char} (h : ∀ c ∈ cs, p c = true) : cs.dropWhile p = [] :=
  List.dropWhile_eq_nil_iff.mpr h

/-- What is put behind a text and is of the kind does not show in what is left. -/
theorem strip_append (cs : List Char) {after : List Char} (h : ∀ c ∈ after, p c = true) :
    strip p (cs ++ after) = strip p cs := by
  have hreverse : after.reverse.dropWhile p = [] :=
    dropWhile_eq_nil fun c hc => h c (List.mem_reverse.mp hc)
  unfold strip
  rw [List.dropWhile_append]
  split
  · rename_i hempty
    rw [dropWhile_eq_nil h, List.isEmpty_iff.mp hempty]
  · rw [List.reverse_append, List.dropWhile_append, hreverse]
    rfl

/-- Neither does what is put in front. -/
theorem append_strip {before : List Char} (cs : List Char) (h : ∀ c ∈ before, p c = true) :
    strip p (before ++ cs) = strip p cs := by
  unfold strip
  rw [List.dropWhile_append_of_pos h]

/-- A text without such characters is left as it is. -/
theorem strip_eq_self {cs : List Char} (h : ∀ c ∈ cs, p c = false) : strip p cs = cs := by
  have hkeeps : ∀ ds : List Char, (∀ c ∈ ds, p c = false) → ds.dropWhile p = ds := by
    intro ds hds
    cases ds with
    | nil => rfl
    | cons c ds => rw [List.dropWhile_cons, hds c List.mem_cons_self, if_neg Bool.false_ne_true]
  rw [strip, hkeeps cs h, hkeeps cs.reverse fun c hc => h c (List.mem_reverse.mp hc),
    List.reverse_reverse]

/-- What stands between such characters and has none is what is left. -/
theorem strip_surrounded {before core after : List Char} (hbefore : ∀ c ∈ before, p c = true)
    (hcore : ∀ c ∈ core, p c = false) (hafter : ∀ c ∈ after, p c = true) :
    strip p (before ++ core ++ after) = core := by
  rw [strip_append _ hafter, append_strip _ hbefore, strip_eq_self hcore]

/-- Nothing else is dropped, and that only at the ends. -/
theorem exists_around_strip (p : Char → Bool) (cs : List Char) :
    ∃ before after, cs = before ++ strip p cs ++ after ∧ (∀ c ∈ before, p c = true) ∧
      ∀ c ∈ after, p c = true := by
  have htaken : ∀ ds : List Char, ∀ c ∈ ds.takeWhile p, p c = true :=
    fun ds => List.all_eq_true.mp List.all_takeWhile
  have hfront := List.takeWhile_append_dropWhile (p := p) (l := cs)
  have hback := List.takeWhile_append_dropWhile (p := p) (l := (cs.dropWhile p).reverse)
  refine ⟨cs.takeWhile p, ((cs.dropWhile p).reverse.takeWhile p).reverse, ?_, htaken _,
    fun c hc => htaken _ c (List.mem_reverse.mp hc)⟩
  have hrest : cs.dropWhile p =
      strip p cs ++ ((cs.dropWhile p).reverse.takeWhile p).reverse := by
    rw [strip, ← List.reverse_append, hback, List.reverse_reverse]
  rw [List.append_assoc, ← hrest, hfront]

end

/-- Blanks put behind a text do not show in its trimmed form. -/
theorem trimChars_append_blanks (cs : List Char) {after : List Char} (h : AreBlanks after) :
    trimChars (cs ++ after) = trimChars cs := strip_append cs h

/-- What stands between blanks and has none is what trimming leaves. -/
theorem trimChars_surrounded {before core after : List Char} (hbefore : AreBlanks before)
    (hcore : ∀ c ∈ core, isBlank c = false) (hafter : AreBlanks after) :
    trimChars (before ++ core ++ after) = core := strip_surrounded hbefore hcore hafter

/-- Trimming drops nothing but blanks at the ends. -/
theorem exists_surrounded (cs : List Char) :
    ∃ before after, cs = before ++ trimChars cs ++ after ∧ AreBlanks before ∧ AreBlanks after :=
  exists_around_strip isBlank cs

end Text

/-! ## Marks and digits -/

namespace Hex

open Address (lower)

/-- What may stand in front of digits: nothing, or the mark with a letter of either case. -/
def marks : List (List Char) := [[], ['0', 'x'], ['0', 'X']]

theorem isBlank_of_isDigit {c : Char} (h : isDigit c = true) : Text.isBlank c = false :=
  forall_isDigit (P := fun c => Text.isBlank c = false) (by decide) h

theorem isBlank_of_mem_mark {mark : List Char} (h : mark ∈ marks) :
    ∀ c ∈ mark, Text.isBlank c = false := by
  have hall : (marks.all fun mark => mark.all fun c => !Text.isBlank c) = true := by decide
  intro c hc
  have hmark := List.all_eq_true.mp hall mark h
  exact Bool.not_eq_true' _ ▸ List.all_eq_true.mp hmark c hc

/-- A mark in front of digits is all that is dropped. -/
theorem dropMark_append {mark ds : List Char} (hmark : mark ∈ marks)
    (hds : ∀ c ∈ ds, isDigit c = true) : dropMark (mark ++ ds) = ds := by
  simp only [marks, List.mem_cons, List.not_mem_nil, or_false] at hmark
  rcases hmark with rfl | rfl | rfl
  · rw [List.nil_append]
    unfold dropMark
    split
    · exact absurd (hds 'x' (by simp)) (by decide)
    · exact absurd (hds 'X' (by simp)) (by decide)
    · rfl
  · rfl
  · rfl

theorem exists_mark_append_dropMark (cs : List Char) :
    ∃ mark ∈ marks, cs = mark ++ dropMark cs := by
  unfold dropMark
  split
  · exact ⟨['0', 'x'], by decide, rfl⟩
  · exact ⟨['0', 'X'], by decide, rfl⟩
  · exact ⟨[], by decide, rfl⟩

/-- A text spells digits: blanks, a mark or none, the digits, and blanks. -/
structure Spells (s : String) (ds : List Char) : Prop where
  exists_around : ∃ before mark after, s.toList = before ++ (mark ++ ds) ++ after ∧
    Text.AreBlanks before ∧ mark ∈ marks ∧ Text.AreBlanks after
  digits : ∀ c ∈ ds, isDigit c = true

/-- The digits that a text spells are what is left of it without blanks and mark. -/
theorem spells_iff {s : String} {ds : List Char} :
    Spells s ds ↔ dropMark (Text.trimChars s.toList) = ds ∧ ∀ c ∈ ds, isDigit c = true := by
  constructor
  · rintro ⟨⟨before, mark, after, hs, hbefore, hmark, hafter⟩, hds⟩
    have hcore : ∀ c ∈ mark ++ ds, Text.isBlank c = false := by
      intro c hc
      rcases List.mem_append.mp hc with hc | hc
      · exact isBlank_of_mem_mark hmark c hc
      · exact isBlank_of_isDigit (hds c hc)
    rw [hs, Text.trimChars_surrounded hbefore hcore hafter, dropMark_append hmark hds]
    exact ⟨rfl, hds⟩
  · rintro ⟨rfl, hds⟩
    obtain ⟨before, after, hs, hbefore, hafter⟩ := Text.exists_surrounded s.toList
    obtain ⟨mark, hmark, hcore⟩ := exists_mark_append_dropMark (Text.trimChars s.toList)
    refine ⟨⟨before, mark, after, ?_, hbefore, hmark, hafter⟩, hds⟩
    rw [← hcore]
    exact hs

theorem Spells.eq {s : String} {ds ds' : List Char} (h : Spells s ds) (h' : Spells s ds') :
    ds = ds' :=
  (spells_iff.mp h).1.symm.trans (spells_iff.mp h').1

/-! ## Bytes -/

/-- A digit has one value in both cases. -/
theorem digit?_lower (c : Char) : digit? (lower c) = digit? c := by
  unfold lower
  split
  · rename_i hupper
    simp only [Bool.and_eq_true, decide_eq_true_eq] at hupper
    -- Upper-case letters are few, so their codes can be gone through.
    have hlt : c.toNat < 91 := Nat.lt_succ_of_le hupper.2
    have hle : 65 ≤ c.toNat := hupper.1
    have hall : ∀ n < 91, 65 ≤ n →
        digit? (Char.ofNat (n + 32)) = digit? (Char.ofNat n) := by decide
    have hc := hall c.toNat hlt hle
    rwa [Char.ofNat_toNat] at hc
  · rfl

theorem digit?_eq_some_iff {c : Char} {n : Nat} :
    digit? c = some n ↔ n < 16 ∧ lower c = digit n := by
  constructor
  · intro h
    have hdigit : isDigit c = true := by rw [isDigit, h]; rfl
    have hall := forall_isDigit
      (P := fun c => (digit? c).all fun n => decide (n < 16 ∧ lower c = digit n)) (by decide) hdigit
    rw [h] at hall
    exact of_decide_eq_true hall
  · rintro ⟨hn, hlower⟩
    rw [← digit?_lower, hlower, digit?_digit hn]

/-- Digits are read as the bytes that are written with these digits in lower case. -/
theorem decode?_eq_some_iff {cs : List Char} {bs : Bytes} :
    decode? cs = some bs ↔ cs.map lower = encode bs := by
  induction cs using decode?.induct generalizing bs with
  | case1 =>
      cases bs with
      | nil => exact iff_of_true rfl rfl
      | cons b bs => exact iff_of_false (by simp [decode?]) (by simp [encode])
  | case2 c =>
      cases bs with
      | nil => exact iff_of_false (by simp [decode?]) (by simp [encode])
      | cons b bs => exact iff_of_false (by simp [decode?]) (by simp [encode])
  | case3 high low rest ih =>
      rw [decode?, List.map_cons, List.map_cons]
      constructor
      · intro h
        obtain ⟨m, hm, h⟩ := Option.bind_eq_some_iff.mp h
        obtain ⟨n, hn, h⟩ := Option.bind_eq_some_iff.mp h
        obtain ⟨bytes, hbytes, h⟩ := Option.bind_eq_some_iff.mp h
        obtain ⟨hm, hhigh⟩ := digit?_eq_some_iff.mp hm
        obtain ⟨hn, hlow⟩ := digit?_eq_some_iff.mp hn
        cases h
        have hbyte : (UInt8.ofNat (16 * m + n)).toNat = 16 * m + n := by
          rw [UInt8.toNat_ofNat']
          omega
        have hdiv : (16 * m + n) / 16 = m := by omega
        have hmod : (16 * m + n) % 16 = n := by omega
        rw [encode, hbyte, hdiv, hmod, hhigh, hlow, ih.mp hbytes]
      · intro h
        cases bs with
        | nil => cases h
        | cons b bs =>
            have hb : b.toNat < 256 := b.toNat_lt
            rw [encode, List.cons.injEq, List.cons.injEq] at h
            obtain ⟨hhigh, hlow, hrest⟩ := h
            have hm : digit? high = some (b.toNat / 16) :=
              digit?_eq_some_iff.mpr ⟨by omega, hhigh⟩
            have hn : digit? low = some (b.toNat % 16) :=
              digit?_eq_some_iff.mpr ⟨Nat.mod_lt _ (by decide), hlow⟩
            have hbyte : UInt8.ofNat (16 * (b.toNat / 16) + b.toNat % 16) = b := by
              rw [Nat.div_add_mod]
              exact UInt8.ofNat_toNat
            simp only [hm, hn, ih.mpr hrest, Option.bind_eq_bind, Option.bind_some,
              Option.pure_def, hbyte]

theorem encode_injective {bs bs' : Bytes} (h : encode bs = encode bs') : bs = bs' := by
  have hread := decode?_encode bs
  rw [h, decode?_encode] at hread
  exact (Option.some.inj hread).symm

/-- Characters are digits if they are in lower case. -/
theorem isDigit_lower_iff {c : Char} : isDigit (lower c) = true ↔ isDigit c = true := by
  rw [isDigit, digit?_lower, isDigit]

/-- Digits of bytes are digits in whatever case. -/
theorem isDigit_of_map_lower {ds : List Char} {bs : Bytes} (h : ds.map lower = encode bs) :
    ∀ c ∈ ds, isDigit c = true := by
  intro c hc
  have hmem : lower c ∈ encode bs := by
    rw [← h]
    exact List.mem_map_of_mem hc
  rw [← isDigit_lower_iff]
  exact isDigit_of_mem_encode _ hmem

theorem length_of_map_lower {ds : List Char} {bs : Bytes} (h : ds.map lower = encode bs) :
    ds.length = 2 * bs.length := by
  rw [← length_encode, ← h, List.length_map]

theorem map_lower_encode (bs : Bytes) : (encode bs).map lower = encode bs :=
  decode?_eq_some_iff.mp (decode?_encode bs)

/-- An even number of digits can be read. -/
theorem exists_decode? {ds : List Char} (hlen : ds.length % 2 = 0)
    (hds : ∀ c ∈ ds, isDigit c = true) : ∃ bs, decode? ds = some bs := by
  induction ds using decode?.induct with
  | case1 => exact ⟨[], rfl⟩
  | case2 c => exact absurd hlen (by simp)
  | case3 high low rest ih =>
      obtain ⟨m, hm⟩ := Option.isSome_iff_exists.mp (hds high (by simp))
      obtain ⟨n, hn⟩ := Option.isSome_iff_exists.mp (hds low (by simp))
      have heven : rest.length % 2 = 0 := by
        rwa [List.length_cons, List.length_cons, Nat.add_assoc, Nat.add_mod_right] at hlen
      obtain ⟨bs, hbs⟩ := ih heven fun c hc => hds c (by simp [hc])
      exact ⟨_, by rw [decode?, hm, hn, hbs]; rfl⟩

end Hex

end Rollout

import Rollout.Number.Integer
import Rollout.Proofs.Text.Spelling

/-!
# Texts that denote integers

An integer is spelled by a sign or none and its decimal digits, with blanks
around. The digits may be of any alphabet and single underscores may stand
between them; `Numeral` says so one digit at a time, and `Spells` and `Denotes`
say which texts spell which integers, without reading them.

Reading takes the blanks off, then the sign, and then one digit after the other.
That finds what is spelled because no digit is a blank, a sign or an underscore,
so that a text denotes one integer at most. The only texts that denote an integer
and are not read are those with too many digits.

## Main results

* `Integer.digits?_eq_some_iff`: digits are read as they are spelled.
* `Integer.readDecimal?_eq_some_iff`: the texts that are read as an integer.
* `Integer.Denotes.eq`: a text denotes one integer at most.
-/

namespace Rollout.Integer

/-! ## Digits -/

/-- The digits of a number, the most significant first, with single underscores between them. -/
inductive Numeral : List Char → List Nat → Prop
  | last {c : Char} {d : Nat} (digit : Text.decimalDigit? c = some d) : Numeral [c] [d]
  | next {c : Char} {cs : List Char} {d : Nat} {ds : List Nat}
      (digit : Text.decimalDigit? c = some d) (rest : Numeral cs ds) : Numeral (c :: cs) (d :: ds)
  | apart {c : Char} {cs : List Char} {d : Nat} {ds : List Nat}
      (digit : Text.decimalDigit? c = some d) (rest : Numeral cs ds) :
      Numeral (c :: '_' :: cs) (d :: ds)

/-- A property of all decimal digits, of whatever alphabet, can be gone through. -/
theorem forall_decimalDigit {P : Char → Bool}
    (hall : (Text.zeros.all fun z => (List.range 10).all fun k => P (Char.ofNat (z + k))) = true)
    {c : Char} {d : Nat} (h : Text.decimalDigit? c = some d) : P c = true := by
  obtain ⟨z, hfound, -⟩ := Option.map_eq_some_iff.mp h
  have hrange := List.find?_some hfound
  simp only [Bool.and_eq_true, decide_eq_true_eq] at hrange
  have hzero := List.all_eq_true.mp hall z (List.mem_of_find?_eq_some hfound)
  have hdigit := List.all_eq_true.mp hzero (c.toNat - z) (List.mem_range.mpr (by omega))
  rwa [show z + (c.toNat - z) = c.toNat by omega, Char.ofNat_toNat] at hdigit

/-- No digit is a blank, a sign or an underscore. -/
theorem plain_of_decimalDigit {c : Char} {d : Nat} (h : Text.decimalDigit? c = some d) :
    isBlank c = false ∧ c ≠ '+' ∧ c ≠ '-' ∧ c ≠ '_' := by
  have hplain := forall_decimalDigit
    (P := fun c => !isBlank c && c != '+' && c != '-' && c != '_') (by decide +kernel) h
  simpa [and_assoc] using hplain

/-- The decimal digits are the digits below ten: letters begin with ten. -/
theorem digit?_lt_ten_iff {c : Char} {d : Nat} :
    digit? c = some d ∧ d < 10 ↔ Text.decimalDigit? c = some d := by
  unfold digit?
  cases hdigit : Text.decimalDigit? c with
  | some e =>
      refine and_iff_left_of_imp fun h => ?_
      rw [← Option.some.inj h]
      exact Text.decimalDigit?_lt hdigit
  | none =>
      refine iff_of_false ?_ nofun
      rintro ⟨hletter, hlt⟩
      dsimp only at hletter
      split at hletter
      · rename_i hrange
        simp only [Bool.and_eq_true, decide_eq_true_eq] at hrange
        have hle : 97 ≤ c.toNat := hrange.1
        have := Option.some.inj hletter
        omega
      · split at hletter
        · rename_i hrange
          simp only [Bool.and_eq_true, decide_eq_true_eq] at hrange
          have hle : 65 ≤ c.toNat := hrange.1
          have := Option.some.inj hletter
          omega
        · cases hletter

theorem Numeral.ne_nil {cs : List Char} {ds : List Nat} (h : Numeral cs ds) : cs ≠ [] := by
  cases h <;> exact List.cons_ne_nil _ _

/-- A numeral starts with a digit. -/
theorem Numeral.exists_head {cs : List Char} {ds : List Nat} (h : Numeral cs ds) :
    ∃ c d rest, cs = c :: rest ∧ Text.decimalDigit? c = some d := by
  cases h with
  | last digit => exact ⟨_, _, _, rfl, digit⟩
  | next digit _ => exact ⟨_, _, _, rfl, digit⟩
  | apart digit _ => exact ⟨_, _, _, rfl, digit⟩

/-- There is no blank in it. -/
theorem Numeral.not_isBlank {cs : List Char} {ds : List Nat} (h : Numeral cs ds) :
    ∀ c ∈ cs, isBlank c = false := by
  induction h with
  | last digit =>
      intro c hc
      rw [List.mem_singleton.mp hc]
      exact (plain_of_decimalDigit digit).1
  | next digit _ ih => exact List.forall_mem_cons.mpr ⟨(plain_of_decimalDigit digit).1, ih⟩
  | apart digit _ ih =>
      refine List.forall_mem_cons.mpr ⟨(plain_of_decimalDigit digit).1, ?_⟩
      exact List.forall_mem_cons.mpr ⟨by decide, ih⟩

/-- What is read of the first of several digits. -/
theorem consDigit_eq_some_iff {c : Char} {rest : Option (List Nat)} {ds : List Nat} :
    ((digit? c).bind fun d => if d < 10 then rest.map (d :: ·) else none) = some ds ↔
      ∃ d es, Text.decimalDigit? c = some d ∧ rest = some es ∧ ds = d :: es := by
  constructor
  · intro h
    obtain ⟨d, hd, h⟩ := Option.bind_eq_some_iff.mp h
    split at h
    · rename_i hlt
      obtain ⟨es, hes, rfl⟩ := Option.map_eq_some_iff.mp h
      exact ⟨d, es, digit?_lt_ten_iff.mp ⟨hd, hlt⟩, hes, rfl⟩
    · cases h
  · rintro ⟨d, es, hdigit, rfl, rfl⟩
    obtain ⟨hd, hlt⟩ := digit?_lt_ten_iff.mpr hdigit
    rw [hd, Option.bind_some, if_pos hlt, Option.map_some]

/-- Digits are read as they are spelled. -/
theorem digits?_eq_some_iff {cs : List Char} {ds : List Nat} :
    digits? 10 cs = some ds ↔ Numeral cs ds := by
  induction cs using digits?.induct generalizing ds with
  | case1 => exact iff_of_false nofun fun h => h.ne_nil rfl
  | case2 c =>
      rw [digits?]
      constructor
      · intro h
        obtain ⟨d, hd, h⟩ := Option.bind_eq_some_iff.mp h
        split at h
        · rename_i hlt
          cases h
          exact .last (digit?_lt_ten_iff.mp ⟨hd, hlt⟩)
        · cases h
      · intro h
        cases h with
        | last digit =>
            obtain ⟨hd, hlt⟩ := digit?_lt_ten_iff.mpr digit
            rw [hd, Option.bind_some, if_pos hlt]
        | next _ rest => exact absurd rfl rest.ne_nil
  | case3 c rest ih =>
      rw [digits?, Option.bind_eq_bind, consDigit_eq_some_iff]
      constructor
      · rintro ⟨d, es, hdigit, hes, rfl⟩
        exact .apart hdigit (ih.mp hes)
      · intro h
        cases h with
        | next _ rest =>
            -- An underscore cannot be the next digit.
            obtain ⟨_, _, _, hhead, hdigit⟩ := rest.exists_head
            cases hhead
            exact absurd rfl (plain_of_decimalDigit hdigit).2.2.2
        | apart digit rest => exact ⟨_, _, digit, ih.mpr rest, rfl⟩
  | case4 c rest hmore hbare ih =>
      rw [digits?.eq_4 _ _ _ hmore hbare, Option.bind_eq_bind, consDigit_eq_some_iff]
      constructor
      · rintro ⟨d, es, hdigit, hes, rfl⟩
        exact .next hdigit (ih.mp hes)
      · intro h
        cases h with
        | last _ => exact absurd rfl hmore
        | next digit rest => exact ⟨_, _, digit, ih.mpr rest, rfl⟩
        | apart _ _ => exact absurd rfl (hbare _)

/-! ## Integers -/

/-- What may stand in front of the digits, and whether it makes the integer negative. -/
def signs : List (List Char × Bool) := [([], false), (['+'], false), (['-'], true)]

/-- A text spells the digits of an integer: blanks, a sign or none, the digits, and blanks. -/
def Spells (cs : List Char) (negative : Bool) (ds : List Nat) : Prop :=
  ∃ before sign body after, cs = before ++ (sign ++ body) ++ after ∧
    (∀ c ∈ before, isBlank c = true) ∧ (sign, negative) ∈ signs ∧ Numeral body ds ∧
    ∀ c ∈ after, isBlank c = true

/-- A text denotes an integer. -/
def Denotes (cs : List Char) (n : Int) : Prop :=
  ∃ negative ds, Spells cs negative ds ∧ n = signed negative (Text.number 10 ds)

/-- The sign in front of digits is all that is split off. -/
theorem splitSign_append {sign body : List Char} {negative : Bool} {ds : List Nat}
    (hsign : (sign, negative) ∈ signs) (hbody : Numeral body ds) :
    splitSign (sign ++ body) = (negative, body) := by
  obtain ⟨c, d, rest, rfl, hdigit⟩ := hbody.exists_head
  obtain ⟨-, hplus, hminus, -⟩ := plain_of_decimalDigit hdigit
  simp only [signs, List.mem_cons, List.not_mem_nil, or_false, Prod.mk.injEq] at hsign
  rcases hsign with ⟨rfl, rfl⟩ | ⟨rfl, rfl⟩ | ⟨rfl, rfl⟩
  · rw [List.nil_append]
    unfold splitSign
    split
    · rename_i h
      cases h
      exact absurd rfl hminus
    · rename_i h
      cases h
      exact absurd rfl hplus
    · rfl
  · rfl
  · rfl

theorem exists_sign_append_splitSign (cs : List Char) :
    ∃ sign, (sign, (splitSign cs).1) ∈ signs ∧ cs = sign ++ (splitSign cs).2 := by
  unfold splitSign
  split
  · exact ⟨['-'], by simp [signs], rfl⟩
  · exact ⟨['+'], by simp [signs], rfl⟩
  · exact ⟨[], by simp [signs], rfl⟩

/-- The digits that a text spells are what is left of it without blanks and sign. -/
theorem spells_iff {cs : List Char} {negative : Bool} {ds : List Nat} :
    Spells cs negative ds ↔
      (splitSign (trim cs)).1 = negative ∧ digits? 10 (splitSign (trim cs)).2 = some ds := by
  constructor
  · rintro ⟨before, sign, body, after, rfl, hbefore, hsign, hbody, hafter⟩
    have hplain : ∀ c ∈ sign ++ body, isBlank c = false := by
      have hall : (signs.all fun sign => sign.1.all fun c => !isBlank c) = true := by decide
      intro c hc
      rcases List.mem_append.mp hc with hc | hc
      · have hsign := List.all_eq_true.mp hall _ hsign
        exact Bool.not_eq_true' _ ▸ List.all_eq_true.mp hsign c hc
      · exact hbody.not_isBlank c hc
    have htrim : trim (before ++ (sign ++ body) ++ after) = sign ++ body :=
      Text.strip_surrounded hbefore hplain hafter
    rw [htrim, splitSign_append hsign hbody]
    exact ⟨rfl, digits?_eq_some_iff.mpr hbody⟩
  · rintro ⟨rfl, hdigits⟩
    obtain ⟨before, after, hcs, hbefore, hafter⟩ := Text.exists_around_strip isBlank cs
    obtain ⟨sign, hsign, hcore⟩ := exists_sign_append_splitSign (trim cs)
    refine ⟨before, sign, _, after, ?_, hbefore, hsign, digits?_eq_some_iff.mp hdigits, hafter⟩
    rw [← hcore]
    exact hcs

/-- A text denotes one integer at most. -/
theorem Denotes.eq {cs : List Char} {n n' : Int} (h : Denotes cs n) (h' : Denotes cs n') :
    n = n' := by
  obtain ⟨negative, ds, hspells, rfl⟩ := h
  obtain ⟨negative', ds', hspells', rfl⟩ := h'
  obtain ⟨rfl, hdigits⟩ := spells_iff.mp hspells
  obtain ⟨rfl, hdigits'⟩ := spells_iff.mp hspells'
  rw [hdigits] at hdigits'
  cases hdigits'
  rfl

/-- A text is read as the integer that it denotes, unless it has too many digits. -/
theorem readDecimal?_eq_some_iff {cs : List Char} {n : Int} :
    readDecimal? cs = some n ↔ ∃ negative ds, Spells cs negative ds ∧
      ds.length ≤ maxDecimalDigits ∧ n = signed negative (Text.number 10 ds) := by
  have hread : readDecimal? cs = (digits? 10 (splitSign (trim cs)).2).bind fun ds =>
      if ds.length ≤ maxDecimalDigits then
        some (signed (splitSign (trim cs)).1 (Text.number 10 ds)) else none := rfl
  rw [hread]
  simp only [spells_iff]
  constructor
  · intro h
    obtain ⟨ds, hdigits, h⟩ := Option.bind_eq_some_iff.mp h
    split at h
    · rename_i hlen
      exact ⟨_, ds, ⟨rfl, hdigits⟩, hlen, (Option.some.inj h).symm⟩
    · cases h
  · rintro ⟨_, ds, ⟨rfl, hdigits⟩, hlen, rfl⟩
    rw [hdigits, Option.bind_some, if_pos hlen]

theorem denotes_of_readDecimal? {cs : List Char} {n : Int} (h : readDecimal? cs = some n) :
    Denotes cs n := by
  obtain ⟨negative, ds, hspells, -, hn⟩ := readDecimal?_eq_some_iff.mp h
  exact ⟨negative, ds, hspells, hn⟩

end Rollout.Integer

import Rollout.Text.Encoding

/-!
# Characters that a file keeps

Not every text comes back from a file as it went in, because line ends are read
alike. Characters of ASCII other than the carriage return do come back: each is
one byte, and no line end is taken for another.

## Main results

* `Text.ofFile?_encode`: a text of such characters is read as it was written.
-/

namespace Rollout.Text

/-- A character of ASCII that is no carriage return. -/
def IsPortable (c : Char) : Prop := c.toNat < 0x80 ∧ c ≠ '\r'

instance (c : Char) : Decidable (IsPortable c) :=
  inferInstanceAs (Decidable (_ ∧ _))

/-- A byte below 128 is a character of its own. -/
theorem decode?_cons_of_lt {a : UInt8} (h : a.toNat < 0x80) (rest : Bytes) :
    decode? (a :: rest) = (decode? rest).map (Char.ofNat a.toNat :: ·) := by
  conv => lhs; unfold decode?
  rw [if_pos h]

theorem decode?_encode {cs : List Char} (h : ∀ c ∈ cs, IsPortable c) :
    decode? (encode cs) = some cs := by
  induction cs with
  | nil => rfl
  | cons c cs ih =>
      obtain ⟨hc, hcs⟩ := List.forall_mem_cons.mp h
      have hbyte : (UInt8.ofNat c.toNat).toNat = c.toNat := by
        rw [UInt8.toNat_ofNat']
        exact Nat.mod_eq_of_lt (by have := hc.1; omega)
      have hchar : encodeChar c = [UInt8.ofNat c.toNat] := if_pos hc.1
      have hstep : encode (c :: cs) = UInt8.ofNat c.toNat :: encode cs := by
        rw [encode, List.flatMap_cons, hchar]
        rfl
      rw [hstep, decode?_cons_of_lt (by rw [hbyte]; exact hc.1), ih hcs, Option.map_some, hbyte,
        Char.ofNat_toNat]

theorem unifyLines_eq_self {cs : List Char} (h : ∀ c ∈ cs, IsPortable c) :
    unifyLines cs = cs := by
  induction cs with
  | nil => rfl
  | cons c cs ih =>
      obtain ⟨hc, hcs⟩ := List.forall_mem_cons.mp h
      rw [unifyLines, ih hcs]
      · exact fun _ h' _ => hc.2 h'
      · exact fun h' => hc.2 h'

/-- A text of portable characters is read as it was written. -/
theorem ofFile?_encode {cs : List Char} (h : ∀ c ∈ cs, IsPortable c) :
    ofFile? (encode cs) = some cs := by
  rw [ofFile?, decode?_encode h, Option.map_some, unifyLines_eq_self h]

end Rollout.Text

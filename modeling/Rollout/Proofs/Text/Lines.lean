import Rollout.Proofs.Abi.Overloads
import Rollout.Proofs.Address.Canonical

/-!
# Lines

A text of several lines is read line by line only if nothing that is put into a
line brings a line end along. Texts from outside can hold one; what is shown of
an address, of a byte string, or of anything that can be encoded as one of these
cannot.

## Main results

* `Text.lines_append`: the first line of a text is taken off its front.
* `Text.isLine_of_encodable_address`, `Text.isLine_of_encodable_bytes32`: what is
  shown of such a value stays on its line.
-/

namespace Rollout.Text

/-! ## Line ends -/

/-- A text without a line end. -/
def IsLine (s : String) : Prop := '\n' ∉ s.toList

instance (s : String) : Decidable (IsLine s) := inferInstanceAs (Decidable (¬_))

theorem IsLine.append {s t : String} (hs : IsLine s) (ht : IsLine t) : IsLine (s ++ t) := by
  rw [IsLine, String.toList_append, List.mem_append, not_or]
  exact ⟨hs, ht⟩

theorem isLine_ofList {cs : List Char} (h : '\n' ∉ cs) : IsLine (String.ofList cs) := by
  rw [IsLine, String.toList_ofList]
  exact h

/-- The lines of a text; what comes after the last line end counts as one. -/
def lines (s : String) : List String := (s.toList.splitOn '\n').map String.ofList

theorem lines_empty : lines "" = [""] := by decide

/-- The first line of a text is taken off its front. -/
theorem lines_append {line : String} (h : IsLine line) (rest : String) :
    lines (line ++ "\n" ++ rest) = line :: lines rest := by
  have hchars : (line ++ "\n" ++ rest).toList = line.toList ++ '\n' :: rest.toList := by
    simp
  rw [lines, hchars, List.splitOn_append_cons_self_of_not_mem h, List.map_cons,
    String.ofList_toList, lines]

/-! ## Addresses -/

theorem mem_dropMark {cs : List Char} (h : '\n' ∈ cs) : '\n' ∈ Hex.dropMark cs := by
  unfold Hex.dropMark
  split
  · simpa using h
  · simpa using h
  · exact h

theorem isLine_of_isAddress {s : String} (h : Address.isAddress s = true) : IsLine s := by
  intro hmem
  obtain ⟨ds, hds⟩ := Option.isSome_iff_exists.mp h
  obtain ⟨-, hall⟩ := Address.spec_of_digits? hds
  unfold Address.digits? at hds
  dsimp only at hds
  split at hds
  · cases hds
    exact absurd (List.all_eq_true.mp hall _ (mem_dropMark hmem)) (by decide)
  · cases hds

/-- A character of a name is in one of its labels, unless it is a point between them. -/
theorem exists_label_of_mem {c : Char} (hc : c ≠ '.') {cs : List Char} (h : c ∈ cs) :
    ∃ label ∈ AbiType.labels cs, c ∈ label := by
  induction cs with
  | nil => cases h
  | cons first cs ih =>
      rw [AbiType.labels]
      by_cases hpoint : first = '.'
      · rw [if_pos hpoint]
        rcases List.mem_cons.mp h with rfl | h
        · exact absurd hpoint hc
        · obtain ⟨label, hlabel, hmem⟩ := ih h
          exact ⟨label, List.mem_cons_of_mem _ hlabel, hmem⟩
      · rw [if_neg hpoint]
        cases hlabels : AbiType.labels cs with
        | nil =>
            rcases List.mem_cons.mp h with rfl | h
            · exact ⟨_, List.mem_cons_self, List.mem_cons_self⟩
            · obtain ⟨label, hlabel, -⟩ := ih h
              rw [hlabels] at hlabel
              cases hlabel
        | cons part parts =>
            rcases List.mem_cons.mp h with rfl | h
            · exact ⟨_, List.mem_cons_self, List.mem_cons_self⟩
            · obtain ⟨label, hlabel, hmem⟩ := ih h
              rw [hlabels] at hlabel
              rcases List.mem_cons.mp hlabel with rfl | hlabel
              · exact ⟨_, List.mem_cons_self, List.mem_cons_of_mem _ hmem⟩
              · exact ⟨label, List.mem_cons_of_mem _ hlabel, hmem⟩

/-- A label has no line end: behind the underscores at its start it has letters, digits and a few
marks. -/
theorem not_mem_of_isLabel {label : List Char} (h : AbiType.isLabel label = true) :
    '\n' ∉ label := by
  intro hmem
  rw [AbiType.isLabel, Bool.and_eq_true, Bool.and_eq_true] at h
  have hrest : '\n' ∈ label.dropWhile (· == '_') := by
    rw [← List.takeWhile_append_dropWhile (p := (· == '_')) (l := label)] at hmem
    rcases List.mem_append.mp hmem with hmem | hmem
    · exact absurd (List.all_eq_true.mp List.all_takeWhile _ hmem) (by decide)
    · exact hmem
  exact absurd (List.all_eq_true.mp h.1.2 _ hrest) (by decide)

theorem isLine_of_isRegisteredName {s : String} (h : AbiType.isRegisteredName s = true) :
    IsLine s := by
  intro hmem
  rw [AbiType.isRegisteredName, Bool.and_eq_true] at h
  obtain ⟨label, hlabel, hmem⟩ := exists_label_of_mem (by decide) hmem
  exact not_mem_of_isLabel (List.all_eq_true.mp h.2 label hlabel) hmem

/-! ## Bytes -/

theorem not_mem_ofNat (width n : Nat) : '\n' ∉ Hex.ofNat width n := by
  intro h
  exact absurd (Hex.isDigit_of_mem_ofNat _ h) (by decide)

theorem not_mem_escapeByte {mark : Char} (hmark : mark ≠ '\n') (b : UInt8) :
    '\n' ∉ escapeByte mark b := by
  unfold escapeByte
  dsimp only
  split
  · rename_i hquoted
    rw [List.mem_cons, List.mem_singleton, not_or]
    refine ⟨by decide, ?_⟩
    rcases hquoted with hslash | hsame
    · rw [hslash]
      decide
    · rw [hsame]
      exact hmark.symm
  split
  · decide
  split
  · decide
  split
  · decide
  rename_i hline _ _
  split
  · rw [List.mem_singleton]
    exact fun h => hline h.symm
  · rw [List.mem_cons, List.mem_cons, not_or, not_or]
    exact ⟨by decide, by decide, not_mem_ofNat 2 b.toNat⟩

theorem quoteMark_ne (cs : List Char) : quoteMark cs ≠ '\n' := by
  unfold quoteMark
  split <;> decide

/-- A byte string is shown on one line. -/
theorem isLine_quoteBytes (bs : Bytes) : IsLine (quoteBytes bs) := by
  unfold quoteBytes
  have hmark := quoteMark_ne (bs.map fun b => Char.ofNat b.toNat)
  refine isLine_ofList fun h => ?_
  rcases List.mem_cons.mp h with h | h
  · exact absurd h (by decide)
  rcases List.mem_cons.mp h with h | h
  · exact hmark h.symm
  rcases List.mem_append.mp h with h | h
  · obtain ⟨b, -, h⟩ := List.mem_flatMap.mp h
    exact not_mem_escapeByte hmark b h
  · exact hmark (List.mem_singleton.mp h).symm

/-- Digits that stand for bytes have no line end among them. -/
theorem not_mem_of_decode? {cs : List Char} {bs : Bytes} (h : Hex.decode? cs = some bs) :
    '\n' ∉ cs := by
  induction cs using Hex.decode?.induct generalizing bs with
  | case1 => simp
  | case2 c => cases h
  | case3 high low rest ih =>
      rw [Hex.decode?] at h
      obtain ⟨_, hhigh, h⟩ := Option.bind_eq_some_iff.mp h
      obtain ⟨_, hlow, h⟩ := Option.bind_eq_some_iff.mp h
      obtain ⟨_, hrest, -⟩ := Option.bind_eq_some_iff.mp h
      have hnone : Hex.digit? '\n' = none := by decide
      rw [List.mem_cons, List.mem_cons, not_or, not_or]
      refine ⟨?_, ?_, ih hrest⟩
      · rintro rfl
        rw [hnone] at hhigh
        cases hhigh
      · rintro rfl
        rw [hnone] at hlow
        cases hlow

theorem isLine_of_admitsHex {s : String} {check : Nat → Bool}
    (h : AbiType.admitsHex s check = .ok true) : IsLine s := by
  unfold AbiType.admitsHex at h
  split at h
  · have hsize := Option.isSome_of_any (Except.ok.inj h)
    unfold AbiType.hexSize? at hsize
    split at hsize
    · rename_i digits hchars
      rw [Option.isSome_map] at hsize
      obtain ⟨bs, hbs⟩ := Option.isSome_iff_exists.mp hsize
      rw [IsLine, hchars, List.mem_cons, List.mem_cons, not_or, not_or]
      exact ⟨by decide, by decide, not_mem_of_decode? hbs⟩
    · cases hsize
  · cases h

/-! ## Values that can be encoded -/

/-- An address is shown on one line, whether it is given as a text, by a name or in bytes. -/
theorem isLine_of_encodable_address {v : Value} (h : encodable "address" v = .ok true) :
    IsLine v.shown := by
  have hparse : AbiType.parse? "address" = some .address := rfl
  rw [encodable, hparse] at h
  replace h : AbiType.admitsScalar .address v = .ok true := h
  cases v with
  | bytes bs => exact isLine_quoteBytes bs
  | text s =>
      rcases Bool.or_eq_true_iff.mp (Except.ok.inj h) with h | h
      · exact isLine_of_isAddress h
      · exact isLine_of_isRegisteredName h
  | _ => cases h

/-- So are thirty-two bytes. -/
theorem isLine_of_encodable_bytes32 {v : Value} (h : encodable "bytes32" v = .ok true) :
    IsLine v.shown := by
  have hparse : AbiType.parse? "bytes32" = some (.fixedBytes 32) := rfl
  rw [encodable, hparse] at h
  replace h : AbiType.admitsScalar (.fixedBytes 32) v = .ok true := h
  cases v with
  | bytes bs => exact isLine_quoteBytes bs
  | text s => exact isLine_of_admitsHex h
  | _ => cases h

end Rollout.Text

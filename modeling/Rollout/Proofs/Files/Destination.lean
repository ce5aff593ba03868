import Rollout.Proofs.Files.Replace

/-!
# Paths that a file can be written to

Before a file is put at a path, the directory it is to be in is made. Whether the
file can then be put there is settled by the files there are before: the
directory can be made, a draft of the file finds a place in it, the path ends
with a name, and it leads to a place where no directory is. What is to be in the
file does not matter.

## Main results

* `Store.replace_isOk_iff`: when a file can be put in place.
* `Store.Receives`: when a file can be written to a path.
-/

namespace Rollout.Store

/-- The last name of a path says what a file is to be called. -/
def EndsWithName (p : Path) : Prop := p.names ≠ [] ∧ p.names.getLast? ≠ some ".."

instance (p : Path) : Decidable (EndsWithName p) :=
  inferInstanceAs (Decidable (_ ∧ _))

/-- A path leads to a place where a file can be. -/
def LeadsToFile (s : Store) (p : Path) : Prop :=
  ∃ place, s.locate p = .ok place ∧ s.find? place ≠ some .directory

instance (s : Store) (p : Path) : Decidable (s.LeadsToFile p) :=
  match hplace : s.locate p with
  | .ok place =>
      decidable_of_iff (s.find? place ≠ some .directory)
        ⟨fun h => ⟨place, hplace, h⟩,
          fun ⟨_, h, hfree⟩ => Except.ok.inj (hplace.symm.trans h) ▸ hfree⟩
  | .error _ => isFalse fun ⟨_, h, _⟩ => by
      rw [hplace] at h
      cases h

/-- A file can be put in place exactly if its path ends with a name and leads to where a file can
be. -/
theorem replace_isOk_iff {s : Store} {p : Path} (content : Bytes) :
    (∃ s', s.replace p content = .ok s') ↔ EndsWithName p ∧ s.LeadsToFile p := by
  have hbusy : (p.names.isEmpty || p.names.getLast? == some "..") = true ↔ ¬EndsWithName p := by
    rw [Bool.or_eq_true, List.isEmpty_iff, beq_iff_eq, EndsWithName, not_and, Decidable.not_not,
      Decidable.or_iff_not_imp_left]
  constructor
  · rintro ⟨s', h⟩
    obtain ⟨place, hplace, hfree, _⟩ := replace_eq_ok h
    refine ⟨Decidable.of_not_not fun hends => ?_, place, hplace, hfree⟩
    rw [replace, if_pos (hbusy.mpr hends)] at h
    cases h
  · rintro ⟨hends, place, hplace, hfree⟩
    rw [replace, if_neg fun h => hbusy.mp h hends]
    dsimp only
    rw [hplace]
    dsimp only [bind, Except.bind]
    split
    · exact absurd ‹_› hfree
    · exact ⟨_, rfl⟩

/-- The files after the directory of a path has been made. -/
def withParent (s : Store) (p : Path) : Store := (s.ensureDirectory p.parent).2

/-- A file can be written to a path. -/
structure Receives (s : Store) (p : Path) : Prop where
  parent : (s.ensureDirectory p.parent).1 = .ok ()
  draft : ∃ place, (s.withParent p).draftPlace p = .ok place
  named : EndsWithName p
  free : (s.withParent p).LeadsToFile p

instance (s : Store) (p : Path) : Decidable (s.Receives p) :=
  decidable_of_iff
    ((s.ensureDirectory p.parent).1.isOk = true ∧
      ((s.withParent p).draftPlace p).isOk = true ∧ EndsWithName p ∧
      (s.withParent p).LeadsToFile p)
    ⟨fun ⟨hparent, hdraft, hnamed, hfree⟩ =>
      { parent := by
          obtain ⟨⟨⟩, h⟩ := Outcome.exists_eq_ok hparent
          exact h
        draft := Outcome.exists_eq_ok hdraft
        named := hnamed
        free := hfree },
      fun h =>
        ⟨by rw [h.parent]; rfl,
          by
            obtain ⟨_, hdraft⟩ := h.draft
            rw [hdraft]
            rfl,
          h.named, h.free⟩⟩

example : (Store.empty ["work"]).Receives (Path.ofText "out/deployment.json") := by
  decide +kernel

example : ¬(Store.empty ["work"]).Receives (Path.ofText ".") := by decide +kernel

/-- A path that leads somewhere is none of those of which it cannot be said. -/
theorem contains_isOk_of_leadsToFile {s : Store} {p : Path} (h : s.LeadsToFile p) :
    ∃ taken, s.contains p = .ok taken := by
  obtain ⟨place, hplace, _⟩ := h
  rw [contains, look, hplace]
  dsimp only [bind, Except.bind]
  cases s.find? place with
  | some e => exact ⟨true, rfl⟩
  | none => exact ⟨false, rfl⟩

end Rollout.Store

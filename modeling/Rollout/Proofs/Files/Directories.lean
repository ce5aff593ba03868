import Rollout.Proofs.Files.Replace

/-!
# Directories made on the way

Before a file is written, the directory it is to be in is made, and those that
this one is in. Some of them may be there, and any of the steps may fail, so a
store in which directories were to be made can be in many states. All of them
have this in common: what was there is there as it was, and what was not there
before is a directory that an initial part of the path leads to.

## Main results

* `Store.MakesOnly`: nothing happened but that missing directories on the way of
  a path were made.
* `Store.ensureDirectory_makesOnly`: so it is after directories were made,
  whether this came to an end or not.
-/

namespace Rollout.Store

variable {s s' s'' : Store} {p : Path} {place q : Place}

/-! ## Missing directories -/

/-- Only the root directory has no name, and it is always there. -/
theorem ne_nil_of_find?_eq_none (hfree : s.find? place = none) : place ≠ [] := by
  rintro rfl
  cases hfree

/-- A place where nothing was is a directory that an initial part of a path leads to. -/
structure Made (s s' : Store) (p : Path) (q : Place) : Prop where
  missing : s.find? q = none
  directory : s'.find? q = some .directory
  onTheWay : ∃ up, up <+: p.names ∧ s'.locate ⟨p.start, up⟩ = .ok q

theorem Made.set_file (h : Made s s' p q) (hne : q ≠ place)
    (hfree : s'.find? place ≠ some .directory) {content : Bytes} :
    Made s (s'.set place (.file content)) p q := by
  obtain ⟨up, hup, hlocate⟩ := h.onTheWay
  refine ⟨h.missing, ?_, up, hup, locate_set_file hlocate hfree⟩
  rw [find?_set_of_ne _ s' hne]
  exact h.directory

/-- Nothing happened but that missing directories on the way of a path were made. -/
structure MakesOnly (s s' : Store) (p : Path) : Prop where
  working : s'.workingDirectory = s.workingDirectory
  places : ∀ q, s'.find? q = s.find? q ∨ Made s s' p q

namespace MakesOnly

theorem refl (s : Store) (p : Path) : s.MakesOnly s p := ⟨rfl, fun _ => .inl rfl⟩

/-- What was there is there as it was. -/
theorem find?_eq_some (h : s.MakesOnly s' p) {e : Entry} (hthere : s.find? q = some e) :
    s'.find? q = some e := by
  rcases h.places q with hsame | hmade
  · rw [hsame, hthere]
  · rw [hmade.missing] at hthere
    cases hthere

/-- What is not there was not there before. -/
theorem find?_eq_none (h : s.MakesOnly s' p) (hfree : s'.find? q = none) : s.find? q = none := by
  cases hthere : s.find? q with
  | none => rfl
  | some e =>
      rw [h.find?_eq_some hthere] at hfree
      cases hfree

/-- The files are the files there were. -/
theorem find?_eq_file_iff (h : s.MakesOnly s' p) {content : Bytes} :
    s'.find? q = some (.file content) ↔ s.find? q = some (.file content) := by
  refine ⟨fun hfile => ?_, h.find?_eq_some⟩
  rcases h.places q with hsame | hmade
  · rw [← hsame, hfile]
  · rw [hmade.directory] at hfile
    cases hfile

theorem locate (h : s.MakesOnly s' p) {r : Path} (hlocate : s.locate r = .ok place) :
    s'.locate r = .ok place :=
  locate_of_directories h.working (fun _ => h.find?_eq_some) hlocate

/-- A directory on the way of the first part of a path is on the way of the path. -/
theorem mono {names more : List String} {start : Path.Start}
    (h : s.MakesOnly s' ⟨start, names⟩) (hinitial : names <+: more) :
    s.MakesOnly s' ⟨start, more⟩ := by
  refine ⟨h.working, fun q => ?_⟩
  rcases h.places q with hsame | ⟨hmissing, hdirectory, up, hup, hlocate⟩
  · exact .inl hsame
  · exact .inr ⟨hmissing, hdirectory, up, hup.trans hinitial, hlocate⟩

theorem trans (h : s.MakesOnly s' p) (h' : s'.MakesOnly s'' p) : s.MakesOnly s'' p := by
  refine ⟨h'.working.trans h.working, fun q => ?_⟩
  rcases h'.places q with hsame | ⟨hmissing, hdirectory, hway⟩
  · rcases h.places q with hbefore | ⟨hmissing, hdirectory, up, hup, hlocate⟩
    · exact .inl (hsame.trans hbefore)
    · exact .inr ⟨hmissing, hsame.trans hdirectory, up, hup, h'.locate hlocate⟩
  · exact .inr ⟨h.find?_eq_none hmissing, hdirectory, hway⟩

end MakesOnly

/-! ## Making directories -/

/-- What making a directory comes to. -/
theorem makeDirectory_eq_ok (h : s.makeDirectory p = .ok s') :
    ∃ place, s.locate p = .ok place ∧ s.find? place = none ∧ s' = s.set place .directory := by
  obtain ⟨place, hplace, h⟩ := Outcome.bind_eq_ok.mp h
  refine ⟨place, hplace, ?_⟩
  split at h
  · cases h
  · rename_i hfree
    exact ⟨hfree, (Except.ok.inj h).symm⟩

theorem makeDirectory_makesOnly (h : s.makeDirectory p = .ok s') : s.MakesOnly s' p := by
  obtain ⟨place, hplace, hfree, rfl⟩ := makeDirectory_eq_ok h
  have hself := find?_set_self .directory s (ne_nil_of_find?_eq_none hfree)
  have hkept : ∀ q, s.find? q = some .directory →
      (s.set place .directory).find? q = some .directory := by
    intro q hq
    by_cases hne : q = place
    · rw [hne, hself]
    · rw [find?_set_of_ne _ s hne, hq]
  have hworking : (s.set place .directory).workingDirectory = s.workingDirectory := rfl
  have hlocate := locate_of_directories hworking hkept hplace
  refine ⟨hworking, fun q => ?_⟩
  by_cases hne : q = place
  · subst hne
    exact .inr ⟨hfree, hself, p.names, List.prefix_rfl, hlocate⟩
  · exact .inl (find?_set_of_ne _ s hne)

/-- By induction on the names, the last name first: either the directory is made at once, or those
above it are made before. -/
theorem ensureReversed_makesOnly (s : Store) (start : Path.Start) (names : List String) :
    s.MakesOnly (s.ensureReversed start names).2 ⟨start, names.reverse⟩ := by
  induction names with
  | nil =>
      unfold ensureReversed
      dsimp only
      split
      · exact makeDirectory_makesOnly ‹_›
      · exact .refl s _
      · exact .refl s _
  | cons name up ih =>
      have hinitial : up.reverse <+: (name :: up).reverse := by
        rw [List.reverse_cons]
        exact List.prefix_append _ _
      have habove := ih.mono hinitial
      unfold ensureReversed
      dsimp only
      split
      · exact makeDirectory_makesOnly ‹_›
      · -- The directory is made after those above it, or one of them could not be made.
        split
        · rename_i hup
          rw [hup] at habove
          exact habove
        · rename_i hup
          rw [hup] at habove
          split
          · exact habove.trans (makeDirectory_makesOnly ‹_›)
          · exact habove
      · exact .refl s _

/-- Making a directory and those it is in does nothing else, whether it comes to an end or not. -/
theorem ensureDirectory_makesOnly (s : Store) (p : Path) :
    s.MakesOnly (s.ensureDirectory p).2 p := by
  have h := ensureReversed_makesOnly s p.start p.names.reverse
  rw [List.reverse_reverse] at h
  exact h

end Rollout.Store

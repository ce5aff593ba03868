import Rollout.Files.Store
import Rollout.Proofs.Outcome

/-!
# A file that was put in place

A path is followed through directories only. A file is put at a place where no
directory is, so no path that led somewhere before leads elsewhere afterwards,
and the path of the file leads to the file.

## Main results

* `Store.find?_set_self`, `Store.find?_set_of_ne`: what is found after a change
  of one place.
* `Store.read_of_replace`: a file that was put in place is read.
-/

namespace Rollout.Store

/-! ## One place -/

variable {place other : Place} (e : Entry)

/-- An entry with another one in its place, if it is the one of a place. -/
private def swap (place : Place) (e : Entry) (old : Place × Entry) : Place × Entry :=
  if old.1 == place then (place, e) else old

private theorem find?_map_swap_self {entries : List (Place × Entry)}
    (h : entries.any (·.1 == place) = true) :
    (entries.map (swap place e)).find? (·.1 == place) = some (place, e) := by
  induction entries with
  | nil => cases h
  | cons old entries ih =>
      cases hold : old.1 == place with
      | true => simp [swap, hold]
      | false =>
          rw [List.any_cons, hold, Bool.false_or] at h
          simp only [List.map_cons, swap, hold, List.find?_cons, Bool.false_eq_true, if_false]
          exact ih h

private theorem find?_map_swap_of_ne (hne : other ≠ place) (entries : List (Place × Entry)) :
    (entries.map (swap place e)).find? (·.1 == other) = entries.find? (·.1 == other) := by
  have hplace : (place == other) = false := beq_false_of_ne hne.symm
  induction entries with
  | nil => rfl
  | cons old entries ih =>
      cases hold : old.1 == place with
      | true =>
          have hother : (old.1 == other) = false := by rw [eq_of_beq hold, hplace]
          simp only [List.map_cons, swap, hold, List.find?_cons, if_true, hplace, hother]
          exact ih
      | false =>
          simp only [List.map_cons, swap, hold, List.find?_cons, Bool.false_eq_true, if_false]
          rw [← ih]

/-- What was put at a place is found there. -/
theorem find?_set_self (s : Store) (hplace : place ≠ []) :
    (s.set place e).find? place = some e := by
  have hsome : ¬place.isEmpty = true := by simpa using hplace
  rw [find?, if_neg hsome, set]
  by_cases hthere : s.entries.any (·.1 == place) = true
  · simp only [if_pos hthere]
    show Option.map _ ((s.entries.map (swap place e)).find? _) = _
    rw [find?_map_swap_self e hthere]
    rfl
  · have hnone : s.entries.find? (·.1 == place) = none := by
      rw [List.find?_eq_none]
      intro old hold h
      exact hthere (List.any_eq_true.mpr ⟨old, hold, h⟩)
    simp only [if_neg hthere]
    rw [List.find?_append, hnone, Option.none_or, List.find?_cons_of_pos (by simp)]
    rfl

/-- Everywhere else things are as they were. -/
theorem find?_set_of_ne (s : Store) (hne : other ≠ place) :
    (s.set place e).find? other = s.find? other := by
  rw [find?, find?, set]
  split
  · rfl
  by_cases hthere : s.entries.any (·.1 == place) = true
  · simp only [if_pos hthere]
    show Option.map _ ((s.entries.map (swap place e)).find? _) = _
    rw [find?_map_swap_of_ne e hne]
  · have hplace : (place == other) = false := beq_false_of_ne hne.symm
    simp only [if_neg hthere, List.find?_append, List.find?_cons, hplace, List.find?_nil,
      Option.or_none]

/-! ## Paths -/

/-- Paths lead where they led if all directories are still there. -/
theorem follow_of_directories {s s' : Store}
    (h : ∀ q, s.find? q = some .directory → s'.find? q = some .directory) {names : List String} :
    ∀ {start : Place}, s.follow start names = .ok place → s'.follow start names = .ok place := by
  induction names with
  | nil => exact id
  | cons name names ih =>
      intro start hfollow
      rw [follow] at hfollow ⊢
      cases hthere : s.find? start with
      | none =>
          rw [hthere] at hfollow
          cases hfollow
      | some e =>
          rw [hthere] at hfollow
          cases e with
          | file content => cases hfollow
          | directory =>
              rw [h start hthere]
              dsimp only at hfollow ⊢
              split at hfollow
              · cases hfollow
              · rename_i hshort
                rw [if_neg hshort]
                exact ih hfollow

theorem locate_of_directories {s s' : Store} {p : Path}
    (hworking : s'.workingDirectory = s.workingDirectory)
    (h : ∀ q, s.find? q = some .directory → s'.find? q = some .directory)
    (hplace : s.locate p = .ok place) : s'.locate p = .ok place := by
  have horigin : s'.origin p = s.origin p := by rw [origin, origin, hworking]
  unfold locate at hplace ⊢
  split at hplace
  · cases hplace
  split at hplace
  · cases hplace
  rename_i hnul hlong
  rw [if_neg hnul, if_neg hlong, horigin]
  exact follow_of_directories h hplace

/-- What putting a file in place comes to. -/
theorem replace_eq_ok {s s' : Store} {p : Path} {content : Bytes}
    (h : s.replace p content = .ok s') :
    ∃ place, s.locate p = .ok place ∧ s.find? place ≠ some .directory ∧
      s' = s.set place (.file content) := by
  unfold replace at h
  dsimp only at h
  split at h
  · cases h
  · obtain ⟨place, hplace, h⟩ := Outcome.bind_eq_ok.mp h
    refine ⟨place, hplace, ?_⟩
    split at h
    · cases h
    · rename_i hfree
      exact ⟨hfree, (Except.ok.inj h).symm⟩

/-- A path leads where it led after a file has been put where no directory is. -/
theorem locate_set_file {s : Store} {p : Path} {content : Bytes}
    (hplace : s.locate p = .ok place) (hfree : s.find? other ≠ some .directory) :
    (s.set other (.file content)).locate p = .ok place := by
  have hworking : (s.set other (.file content)).workingDirectory = s.workingDirectory := rfl
  refine locate_of_directories hworking (fun q hq => ?_) hplace
  have hne : q ≠ other := by
    rintro rfl
    exact hfree hq
  rw [find?_set_of_ne _ s hne, hq]

/-- A file that was put in place is read. -/
theorem read_of_replace {s s' : Store} {p : Path} {content : Bytes}
    (h : s.replace p content = .ok s') : s'.read p = .ok content := by
  obtain ⟨place, hplace, hfree, rfl⟩ := replace_eq_ok h
  have hroot : place ≠ [] := by
    rintro rfl
    exact hfree rfl
  have hlook : (s.set place (.file content)).look p = .ok (.file content) := by
    rw [look]
    refine Outcome.bind_eq_ok.mpr ⟨place, locate_set_file hplace hfree, ?_⟩
    simp only [find?_set_self _ s hroot]
  rw [read, hlook]
  rfl

end Rollout.Store

import Rollout.Manifest
import Rollout.Proofs.Action.Effect

/-!
# What writing a manifest changes

A manifest is written in several steps, each of which can fail: the directory is
made, the path is looked at, a draft has to find a place, the text has to exist,
and the file is put in place. None of them touches the chain. Only two of them
change the files: the first may add directories, and the last puts the whole
text at the path.

## Main results

* `Manifest.write_keepsChain`: the chain is as it was, whatever happens.
* `Manifest.write_eq_ok`: a manifest that was written has a text, and the text
  was put at its path.
-/

namespace Rollout.Manifest

open Rollout.Action (Keeps)

/-- A manifest is built unless one of its fields is a placeholder. -/
theorem build_eq_error {s : Settings} {core implementation : Contract} {deps : Dependencies}
    {deployer : Value} {f : Failure} (h : build s core implementation deps deployer = .error f) :
    ∃ field, f = .placeholderField field := by
  unfold build at h
  dsimp only at h
  split at h
  · cases h
    exact ⟨_, rfl⟩
  · cases h

/-! ## The chain -/

section

variable {γ : Type} {part : World → γ} (hfiles : ∀ w files, part { w with files } = part w)

include hfiles

/-- A part of the world that the files do not belong to is kept by each step that changes files. -/
theorem makeParent_keeps (path : Path) (w : World) : (makeParent path).Keeps part w := by
  unfold makeParent
  refine .get_bind (.bind (.set (hfiles w _)) fun _ _ _ => ?_)
  split
  · exact .pure _
  · exact .throw _

theorem put_keeps (path : Path) (text : List Char) (w : World) :
    (put path text).Keeps part w := by
  unfold put
  refine .get_bind ?_
  split
  · exact .set (hfiles w _)
  · exact .throw _

end

section

variable {γ : Type} {part : World → γ}

/-- The steps that only look at the files keep everything. -/
theorem isTaken_keeps (path : Path) (w : World) : (isTaken path).Keeps part w := by
  unfold isTaken
  refine .get_bind ?_
  split
  · exact .pure _
  · exact .throw _

theorem checkDraft_keeps (path : Path) (w : World) : (checkDraft path).Keeps part w := by
  unfold checkDraft
  refine .get_bind ?_
  split
  · exact .pure _
  · exact .throw _

end

/-- The last steps, after the path has been looked at. -/
def finish (m : Manifest) (path : Path) : Action Unit := do
  checkDraft path
  match m.text with
  | .error e => throw (textFailure e)
  | .ok text =>
      put path text
      Action.say (.manifestWritten path.text)

theorem write_eq (m : Manifest) (path : Path) :
    m.write path = (do
      makeParent path
      let taken ← isTaken path
      if taken then do
        Action.say (.overwritingManifest path.text)
        finish m path
      else finish m path) := rfl

theorem finish_keepsChain (m : Manifest) (path : Path) (w : World) :
    (finish m path).Keeps World.chain w := by
  unfold finish
  refine .bind (checkDraft_keeps path w) fun _ w₁ _ => ?_
  cases m.text with
  | error e => exact .throw _
  | ok text => exact .bind (put_keeps (fun _ _ => rfl) path text w₁) fun _ _ _ => .say rfl

/-- Writing a manifest does not touch the chain. -/
theorem write_keepsChain (m : Manifest) (path : Path) (w : World) :
    (m.write path).Keeps World.chain w := by
  rw [write_eq]
  refine .bind (makeParent_keeps (fun _ _ => rfl) path w) fun _ w₁ _ => ?_
  refine .bind (isTaken_keeps path w₁) fun taken w₂ _ => ?_
  cases taken with
  | true => exact .bind (.say rfl) fun _ w₃ _ => finish_keepsChain m path w₃
  | false => exact finish_keepsChain m path w₂

/-! ## The steps -/

theorem perform_makeParent (path : Path) (w : World) :
    (makeParent path).perform w =
      ((w.files.ensureDirectory path.parent).1.mapError Failure.file,
        { w with files := (w.files.ensureDirectory path.parent).2 }) := by
  unfold makeParent
  rw [Action.perform_get_bind]
  rcases w.files.ensureDirectory path.parent with ⟨made, files⟩
  cases made <;> rfl

theorem perform_isTaken (path : Path) (w : World) :
    (isTaken path).perform w = ((w.files.contains path).mapError Failure.file, w) := by
  unfold isTaken
  rw [Action.perform_get_bind]
  cases w.files.contains path <;> rfl

theorem perform_checkDraft (path : Path) (w : World) :
    (checkDraft path).perform w =
      (((w.files.draftPlace path).map fun _ => ()).mapError Failure.file, w) := by
  unfold checkDraft
  rw [Action.perform_get_bind]
  cases w.files.draftPlace path <;> rfl

/-- The text is put at its path, or the files are as they were. -/
theorem perform_put (path : Path) (text : List Char) (w : World) :
    (put path text).perform w =
      (((w.files.replace path (Text.encode text)).map fun _ => ()).mapError Failure.file,
        { w with files := (w.files.replace path (Text.encode text)).toOption.getD w.files }) := by
  unfold put
  rw [Action.perform_get_bind]
  cases w.files.replace path (Text.encode text) <;> rfl

/-! ## The files -/

theorem makeParent_eq_ok {path : Path} {w w' : World}
    (h : (makeParent path).perform w = (.ok (), w')) :
    w'.files = (w.files.ensureDirectory path.parent).2 := by
  rw [perform_makeParent] at h
  rw [← (Prod.mk.inj h).2]

theorem isTaken_eq_ok {path : Path} {taken : Bool} {w w' : World}
    (h : (isTaken path).perform w = (.ok taken, w')) : w' = w := by
  rw [perform_isTaken] at h
  exact (Prod.mk.inj h).2.symm

theorem checkDraft_eq_ok {path : Path} {w w' : World}
    (h : (checkDraft path).perform w = (.ok (), w')) : w' = w := by
  rw [perform_checkDraft] at h
  exact (Prod.mk.inj h).2.symm

theorem put_eq_ok {path : Path} {text : List Char} {w w' : World}
    (h : (put path text).perform w = (.ok (), w')) :
    w.files.replace path (Text.encode text) = .ok w'.files := by
  rw [perform_put] at h
  obtain ⟨hput, hfiles⟩ := Prod.mk.inj h
  rw [← hfiles]
  cases hplaced : w.files.replace path (Text.encode text) with
  | ok files => rfl
  | error e =>
      rw [hplaced] at hput
      cases hput

theorem finish_eq_ok {m : Manifest} {path : Path} {w w' : World}
    (h : (finish m path).perform w = (.ok (), w')) :
    ∃ text, m.text = .ok text ∧
      w.files.replace path (Text.encode text) = .ok w'.files := by
  unfold finish at h
  obtain ⟨_, w₁, hdraft, hend⟩ := Action.perform_bind_eq_ok.mp h
  obtain rfl := checkDraft_eq_ok hdraft
  cases htext : m.text with
  | error e =>
      rw [htext] at hend
      cases (Prod.mk.inj hend).1
  | ok text =>
      rw [htext] at hend
      obtain ⟨_, w₂, hput, hsay⟩ := Action.perform_bind_eq_ok.mp hend
      refine ⟨text, rfl, ?_⟩
      rw [put_eq_ok hput, ← (Prod.mk.inj hsay).2]

/-- A manifest is written by the last steps, after the directory has been made. -/
theorem finish_of_write {m : Manifest} {path : Path} {w w' : World}
    (h : (m.write path).perform w = (.ok (), w')) :
    (w.files.ensureDirectory path.parent).1 = .ok () ∧
      ∃ w₁, w₁.files = (w.files.ensureDirectory path.parent).2 ∧
        (finish m path).perform w₁ = (.ok (), w') := by
  rw [write_eq] at h
  obtain ⟨_, w₁, hparent, h⟩ := Action.perform_bind_eq_ok.mp h
  obtain ⟨taken, w₂, htaken, hend⟩ := Action.perform_bind_eq_ok.mp h
  obtain rfl := isTaken_eq_ok htaken
  have hmade : (w.files.ensureDirectory path.parent).1 = .ok () := by
    rw [perform_makeParent] at hparent
    exact Outcome.mapError_eq_ok.mp (Prod.mk.inj hparent).1
  refine ⟨hmade, ?_⟩
  rw [← makeParent_eq_ok hparent]
  cases taken with
  | true =>
      obtain ⟨_, w₃, hsay, hend⟩ := Action.perform_bind_eq_ok.mp hend
      exact ⟨w₃, by rw [← (Prod.mk.inj hsay).2], hend⟩
  | false => exact ⟨w₂, rfl, hend⟩

/-- A manifest that was written has a text, and this text was put at its path after the directory
had been made. -/
theorem write_eq_ok {m : Manifest} {path : Path} {w w' : World}
    (h : (m.write path).perform w = (.ok (), w')) :
    ∃ text, m.text = .ok text ∧
      (w.files.ensureDirectory path.parent).2.replace path (Text.encode text) =
        .ok w'.files := by
  obtain ⟨_, w₁, hmade, hfinish⟩ := finish_of_write h
  rw [← hmade]
  exact finish_eq_ok hfinish

end Rollout.Manifest

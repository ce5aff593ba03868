import Rollout.Proofs.Files.Draft
import Rollout.Proofs.Json.Pieces
import Rollout.Proofs.Manifest.Written
import Rollout.Proofs.Standard

/-!
# Manifests are written as a whole or not at all

`Manifest.write` puts the whole text in place at once. On a disk this takes
several steps, and any of them can fail: an empty draft is made beside the path,
the text goes into it piece by piece, and then the draft is moved to the path.
Whatever fails after the draft has been made, the draft is taken away before the
failure goes on. `writeDrafted` has all of these steps.

What is told, what fails and what is in the files afterwards is the same, if no
other file has the name of the draft. A manifest that cannot be written leaves
no more than directories behind.

## Main results

* `Manifest.writeDrafted_eq_write`: both ways to write a manifest come to the same.
* `Manifest.write_all_or_nothing`: what is in the files after a manifest was
  written, and after it was not.
-/

namespace Rollout

namespace Manifest

open Draft (Mark)

variable {mark : Mark} {path : Path} {draft : Place} {w : World}

/-! ## The steps -/

/-- The pieces of the text of a manifest. -/
def pieces (m : Manifest) : List Json.Piece := Json.piecesAt 0 m.toValue ++ [.ok ['\n']]

theorem join_pieces (m : Manifest) : Json.join m.pieces = m.text := by
  rw [pieces, Json.join_append, Json.join_piecesAt, text, Json.write]
  cases Json.writeAt 0 m.toValue <;> rfl

/-- Makes an empty draft of the file at a path. -/
def openDraft (mark : Mark) (path : Path) : Action Place := do
  let w ← get
  match w.files.draftPlaceWith mark path with
  | .error e => throw (.file e)
  | .ok draft =>
      match w.files.find? draft with
      | some _ => throw (.file .alreadyExists)
      | none =>
          set { w with files := w.files.set draft (.file []) }
          return draft

/-- Writes a piece of a text behind what is in a draft. -/
def appendTo (draft : Place) (piece : List Char) : Action Unit := do
  let w ← get
  match w.files.find? draft with
  | some (.file content) =>
      set { w with files := w.files.set draft (.file (content ++ Text.encode piece)) }
  | some .directory => throw (.file .isDirectory)
  | none => throw (.file .notFound)

/-- Writes pieces into a draft until there is none to write. -/
def fill (draft : Place) : List Json.Piece → Action Unit
  | [] => return
  | .error e :: _ => throw (textFailure e)
  | .ok piece :: pieces => do
      appendTo draft piece
      fill draft pieces

/-- Moves a draft to its path. -/
def publish (draft : Place) (path : Path) : Action Unit := do
  let w ← get
  match w.files.move draft path with
  | .ok files => set { w with files }
  | .error e => throw (.file e)

/-- Takes a draft away, which has to be there. -/
def discard (draft : Place) : Action Unit := do
  let w ← get
  match w.files.find? draft with
  | some (.file _) => set { w with files := w.files.remove draft }
  | some .directory => throw (.file .isDirectory)
  | none => throw (.file .notFound)

/-- Fills a draft and moves it to its path, or takes it away where this fails. -/
def completeDraft (m : Manifest) (path : Path) (draft : Place) : Action Unit := do
  try
    fill draft m.pieces
    publish draft path
  catch f =>
    discard draft
    throw f

/-- The last steps, after the path has been looked at. -/
def finishDrafted (mark : Mark) (m : Manifest) (path : Path) : Action Unit := do
  let draft ← openDraft mark path
  completeDraft m path draft
  Action.say (.manifestWritten path.text)

/-- Writes a manifest in place of whatever file is there, with a draft under a mark. -/
def writeDrafted (mark : Mark) (m : Manifest) (path : Path) : Action Unit := do
  makeParent path
  if ← isTaken path then Action.say (.overwritingManifest path.text)
  finishDrafted mark m path

/-! ## A world with a draft -/

/-- No other file has the name of the draft of a file. -/
def IsFresh (s : Store) (mark : Mark) (path : Path) : Prop :=
  ∀ draft, s.draftPlaceWith mark path = .ok draft → s.find? draft = none

instance (s : Store) (mark : Mark) (path : Path) : Decidable (IsFresh s mark path) :=
  match hplace : s.draftPlaceWith mark path with
  | .ok draft =>
      decidable_of_iff (s.find? draft = none)
        ⟨fun h _ hdraft => Except.ok.inj (hplace.symm.trans hdraft) ▸ h, fun h => h draft hplace⟩
  | .error _ => isTrue fun _ hdraft => by
      rw [hplace] at hdraft
      cases hdraft

/-- The world with a file at a place. -/
def holding (w : World) (place : Place) (content : Bytes) : World :=
  { w with files := w.files.set place (.file content) }

theorem perform_openDraft (hfresh : IsFresh w.files mark path) :
    (openDraft mark path).perform w =
      match w.files.draftPlaceWith mark path with
      | .error e => (.error (.file e), w)
      | .ok draft => (.ok draft, holding w draft []) := by
  unfold openDraft
  rw [Action.perform_get_bind]
  cases hdraft : w.files.draftPlaceWith mark path with
  | error e => rfl
  | ok draft =>
      dsimp only
      rw [hfresh draft hdraft]
      rfl

theorem find?_holding (hfree : w.files.find? draft = none) (content : Bytes) :
    (holding w draft content).files.find? draft = some (.file content) :=
  Store.find?_set_self _ _ (Store.ne_nil_of_find?_eq_none hfree)

theorem perform_appendTo (hfree : w.files.find? draft = none) (content : Bytes)
    (piece : List Char) :
    (appendTo draft piece).perform (holding w draft content) =
      (.ok (), holding w draft (content ++ Text.encode piece)) := by
  unfold appendTo
  rw [Action.perform_get_bind, find?_holding hfree]
  show (Except.ok (), _) = _
  rw [holding, holding, Store.set_set hfree]

/-- Pieces that make a text come behind what is in the draft. -/
theorem perform_fill_of_join (hfree : w.files.find? draft = none) {pieces : List Json.Piece} :
    ∀ {text : List Char} (content : Bytes), Json.join pieces = .ok text →
      (fill draft pieces).perform (holding w draft content) =
        (.ok (), holding w draft (content ++ Text.encode text)) := by
  induction pieces with
  | nil =>
      rintro text content ⟨⟩
      rw [Text.encode, List.flatMap_nil, List.append_nil]
      rfl
  | cons piece pieces ih =>
      intro text content hjoin
      cases piece with
      | error e => cases hjoin
      | ok piece =>
          obtain ⟨rest, hrest, rfl⟩ := Outcome.map_eq_ok.mp hjoin
          rw [fill, Action.perform_bind, perform_appendTo hfree]
          dsimp only
          rw [ih _ hrest, Text.encode, Text.encode, Text.encode, List.flatMap_append,
            List.append_assoc]

/-- Pieces that make no text leave a part of it in the draft. -/
theorem perform_fill_of_join_eq_error (hfree : w.files.find? draft = none)
    {pieces : List Json.Piece} {e : Json.WriteError} :
    ∀ content : Bytes, Json.join pieces = .error e →
      ∃ content', (fill draft pieces).perform (holding w draft content) =
        (.error (textFailure e), holding w draft content') := by
  induction pieces with
  | nil => nofun
  | cons piece pieces ih =>
      intro content hjoin
      cases piece with
      | error e' =>
          cases hjoin
          exact ⟨content, rfl⟩
      | ok piece =>
          rw [fill, Action.perform_bind, perform_appendTo hfree]
          exact ih _ (Outcome.map_eq_error.mp hjoin)

/-- The draft is moved to its path, or it stays where it is. -/
theorem perform_publish (hfree : w.files.find? draft = none) (content : Bytes) (path : Path) :
    (publish draft path).perform (holding w draft content) =
      match w.files.replace path content with
      | .ok files => (.ok (), { w with files })
      | .error e => (.error (.file e), holding w draft content) := by
  have hmove : (holding w draft content).files.move draft path = w.files.replace path content :=
    Store.move_set hfree content path
  unfold publish
  rw [Action.perform_get_bind, hmove]
  cases w.files.replace path content <;> rfl

/-- Without its draft the world is as it was before. -/
theorem perform_discard (hfree : w.files.find? draft = none) (content : Bytes) :
    (discard draft).perform (holding w draft content) = (.ok (), w) := by
  unfold discard
  rw [Action.perform_get_bind, find?_holding hfree]
  show (Except.ok (), _) = _
  rw [holding, Store.remove_set hfree]

/-! ## Both ways to write -/

/-- What became of the text is what putting it in place comes to, and the draft is gone. -/
theorem perform_completeDraft (hfree : w.files.find? draft = none) (m : Manifest) (path : Path) :
    (completeDraft m path draft).perform (holding w draft []) =
      match m.text with
      | .error e => (.error (textFailure e), w)
      | .ok text => (put path text).perform w := by
  have hdiscard : ∀ (f : Failure) content,
      (do discard draft; throw f : Action Unit).perform (holding w draft content) =
        (.error f, w) := by
    intro f content
    rw [Action.perform_bind, perform_discard hfree]
    rfl
  unfold completeDraft
  rw [Action.perform_tryCatch, Action.perform_bind]
  cases htext : m.text with
  | error e =>
      obtain ⟨content, hfill⟩ :=
        perform_fill_of_join_eq_error hfree [] ((join_pieces m).trans htext)
      rw [hfill]
      exact hdiscard _ _
  | ok text =>
      rw [perform_fill_of_join hfree [] ((join_pieces m).trans htext), List.nil_append]
      dsimp only
      rw [perform_publish hfree, perform_put]
      cases w.files.replace path (Text.encode text) with
      | ok files => rfl
      | error e => exact hdiscard _ _

theorem perform_finishDrafted (hfresh : IsFresh w.files mark path) (m : Manifest) :
    (finishDrafted mark m path).perform w = (finish m path).perform w := by
  have hplace := Store.draftPlaceWith_isOk w.files path .blank mark
  rw [← Store.draftPlace_eq] at hplace
  unfold finishDrafted finish
  rw [Action.perform_bind, perform_openDraft hfresh, Action.perform_bind (checkDraft path),
    perform_checkDraft, hplace]
  cases hdraft : w.files.draftPlaceWith mark path with
  | error e => rfl
  | ok draft =>
      show (completeDraft m path draft >>= fun _ => Action.say _).perform (holding w draft []) = _
      rw [Action.perform_bind, perform_completeDraft (hfresh draft hdraft)]
      cases m.text with
      | error e => rfl
      | ok text => exact (Action.perform_bind _ _ _).symm

/-- **With a draft or at once.** If no other file has the name of the draft, writing a manifest with
a draft comes to the same as putting it in place at once. -/
theorem writeDrafted_eq_write (m : Manifest)
    (hfresh : IsFresh (w.files.withParent path) mark path) :
    (writeDrafted mark m path).perform w = (m.write path).perform w := by
  rw [write_eq]
  unfold writeDrafted
  refine Action.perform_bind_congr fun _ w₁ hparent => ?_
  have hfiles : w₁.files = w.files.withParent path := makeParent_eq_ok hparent
  rw [← hfiles] at hfresh
  refine Action.perform_bind_congr fun taken w₂ htaken => ?_
  obtain rfl := isTaken_eq_ok htaken
  cases taken with
  | true =>
      refine Action.perform_bind_congr fun _ w₃ hsay => ?_
      have hsame : w₃.files = w₂.files := by rw [← (Prod.mk.inj hsay).2]
      rw [← hsame] at hfresh
      exact perform_finishDrafted hfresh m
  | false => exact perform_finishDrafted hfresh m

/-! ## All or nothing -/

theorem finish_eq_error {m : Manifest} {f : Failure} {w' : World}
    (h : (finish m path).perform w = (.error f, w')) : w'.files = w.files := by
  unfold finish at h
  rw [Action.perform_bind, perform_checkDraft] at h
  cases hdraft : w.files.draftPlace path with
  | error e =>
      rw [hdraft] at h
      rw [← (Prod.mk.inj h).2]
  | ok draft =>
      rw [hdraft] at h
      cases htext : m.text with
      | error e =>
          rw [htext] at h
          rw [← (Prod.mk.inj h).2]
      | ok text =>
          rw [htext] at h
          replace h : (put path text >>= fun _ => Action.say _).perform w = (.error f, w') := h
          rw [Action.perform_bind, perform_put] at h
          cases hplaced : w.files.replace path (Text.encode text) with
          | error e =>
              rw [hplaced] at h
              rw [← (Prod.mk.inj h).2]
              rfl
          | ok files =>
              rw [hplaced] at h
              cases (Prod.mk.inj h).1

/-- A manifest that was not written has left nothing but directories. -/
theorem write_eq_error {m : Manifest} {f : Failure} {w' : World}
    (h : (m.write path).perform w = (.error f, w')) : w'.files = w.files.withParent path := by
  rw [write_eq, Action.perform_bind, perform_makeParent] at h
  cases hmade : (w.files.ensureDirectory path.parent).1 with
  | error e =>
      rw [hmade] at h
      rw [← (Prod.mk.inj h).2]
      rfl
  | ok _ =>
      rw [hmade] at h
      replace h : (isTaken path >>= _).perform { w with files := w.files.withParent path } =
        (.error f, w') := h
      rw [Action.perform_bind, perform_isTaken] at h
      cases htaken : (w.files.withParent path).contains path with
      | error e =>
          rw [htaken] at h
          rw [← (Prod.mk.inj h).2]
      | ok taken =>
          rw [htaken] at h
          cases taken with
          | true =>
              replace h : (finish m path).perform
                  { w with
                    files := w.files.withParent path
                    notices := w.notices ++ [.overwritingManifest path.text] } =
                (.error f, w') := h
              exact finish_eq_error h
          | false => exact finish_eq_error h

/-- **A manifest is written as a whole or not at all.** Let a manifest be written with a draft whose
name no other file has; putting it in place at once comes to the same. If this fails, every file is
there as it was and there is no other file, and at most missing directories of the path have been
made. If it returns, the text of the manifest and a line end are where the path leads, and
everywhere else things are as they were, but for such directories. Either way no draft is left. -/
theorem write_all_or_nothing (m : Manifest)
    (hfresh : IsFresh (w.files.withParent path) mark path) :
    (writeDrafted mark m path).perform w = (m.write path).perform w ∧
    (∀ f w', (writeDrafted mark m path).perform w = (.error f, w') →
      (∀ q content,
        w'.files.find? q = some (.file content) ↔ w.files.find? q = some (.file content)) ∧
      w.files.MakesOnly w'.files path.parent) ∧
    (∀ w', (writeDrafted mark m path).perform w = (.ok (), w') →
      ∃ place json,
        w'.files.locate path = .ok place ∧
        Json.write m.toValue = .ok json ∧
        w'.files.find? place = some (.file (Text.encode (json ++ ['\n']))) ∧
        ∀ q, q ≠ place →
          w'.files.find? q = w.files.find? q ∨ w.files.Made w'.files path.parent q) ∧
    ∀ r w', (writeDrafted mark m path).perform w = (r, w') →
      ∀ draft, (w.files.withParent path).draftPlaceWith mark path = .ok draft →
        w'.files.find? draft = none := by
  rw [writeDrafted_eq_write m hfresh]
  have hmakes : w.files.MakesOnly (w.files.withParent path) path.parent :=
    Store.ensureDirectory_makesOnly _ _
  refine ⟨rfl, fun f w' hwrite => ?_, fun w' hwrite => ?_, fun r w' hwrite draft hdraft => ?_⟩
  · rw [write_eq_error hwrite]
    exact ⟨fun _ _ => hmakes.find?_eq_file_iff, hmakes⟩
  · obtain ⟨text, htext, hreplace⟩ := write_eq_ok hwrite
    obtain ⟨json, hjson, rfl⟩ := Outcome.map_eq_ok.mp htext
    obtain ⟨place, hplace, hfree, hfiles⟩ := Store.replace_eq_ok hreplace
    have hroot : place ≠ [] := by
      rintro rfl
      exact hfree rfl
    rw [hfiles]
    refine ⟨place, json, Store.locate_set_file hplace hfree, hjson,
      Store.find?_set_self _ _ hroot, fun q hne => ?_⟩
    rcases hmakes.places q with hsame | hmade
    · exact .inl ((Store.find?_set_of_ne _ _ hne).trans hsame)
    · exact .inr (hmade.set_file hne hfree)
  · cases r with
    | error f =>
        rw [write_eq_error hwrite]
        exact hfresh draft hdraft
    | ok _ =>
        obtain ⟨text, -, hreplace⟩ := write_eq_ok hwrite
        obtain ⟨hnamed, -⟩ := (Store.replace_isOk_iff _).mp ⟨_, hreplace⟩
        obtain ⟨place, hplace, -, hfiles⟩ := Store.replace_eq_ok hreplace
        have hne := Store.ne_of_draftPlaceWith hnamed hplace hdraft
        rw [hfiles, Store.find?_set_of_ne _ _ hne]
        exact hfresh draft hdraft

/-- A manifest with a byte string, which has no form in JSON. -/
def unwritable : Manifest :=
  { network := .text "testnet"
    core := .text "0x0000000000000000000000000000000000001001"
    coreImplementation := .null
    spokePool := .null
    aggregationRouter := .null
    usdt := .null
    sp1Verifier := .null
    admin := .null
    unlimitedCreator := .null
    registrar := .null
    deployer := .bytes [0xDE] }

/-- A world where the manifest of another deployment is at the path. -/
def settledWorld : World :=
  { World.fresh with files := World.fresh.files.install .standard (.file [0x7b, 0x7d, 0x0a]) }

/-- The writer stops at the last field, and what was at the path stays there. -/
theorem unwritable_leaves_file :
    IsFresh (settledWorld.files.withParent .standard) .blank .standard ∧
    ((writeDrafted .blank unwritable .standard).perform settledWorld).1 = .error .wrongKind ∧
    ∀ f w', (writeDrafted .blank unwritable .standard).perform settledWorld = (.error f, w') →
      w'.files.find? ["work", "out", "deployment.json"] = some (.file [0x7b, 0x7d, 0x0a]) := by
  have hfresh : IsFresh (settledWorld.files.withParent .standard) .blank .standard := by
    decide +kernel
  obtain ⟨hsame, hfails, -⟩ := write_all_or_nothing unwritable hfresh
  refine ⟨hfresh, ?_, fun f w' hwrite => ?_⟩
  · rw [hsame]
    rfl
  · refine ((hfails f w' hwrite).1 _ _).mpr ?_
    rfl

end Manifest

end Rollout

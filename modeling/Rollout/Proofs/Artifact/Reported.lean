import Rollout.Proofs.Action.Reading
import Rollout.Proofs.Artifact.Interface
import Rollout.Proofs.Standard

/-!
# What is reported of a bad artifact

An artifact that is not there, is not JSON or lacks its interface or its code is
reported as a fault of the artifact, by the name of its contract. What comes
before and between these checks is not: that there is a file at all and that its
bytes are a text, that its JSON has no number too long and is not too deep, that
what it holds is an object, and that the interface can be asked about its
inputs. `Overlooked` lists these.

The artifacts of a deployment are loaded in their order, and loading stops at
the first that does not load. So a bad one is reported exactly if the first of
them is.

## Main results

* `Artifact.load_failsOnly_iff`: a bad artifact is reported unless it is overlooked.
* `Artifacts.reported_iff`: so is the first bad artifact of a deployment.
-/

namespace Rollout

open Outcome (FailsOnly)

/-- The contract whose artifact is at fault. -/
def ArtifactFault.contract : ArtifactFault → String
  | .notFound contract _ => contract
  | .notJson contract _ => contract
  | .noInterface contract => contract
  | .noBytecode contract => contract
  | .malformed contract => contract

/-- A fault of the artifact of a contract. -/
def Failure.IsOfArtifact (contract : String) (f : Failure) : Prop :=
  ∃ fault, f = .artifact fault ∧ fault.contract = contract

open Failure (IsOfArtifact)

theorem isOfArtifact {contract : String} {fault : ArtifactFault} (h : fault.contract = contract) :
    IsOfArtifact contract (.artifact fault) := ⟨fault, rfl, h⟩

namespace Artifact

/-! ## What is overlooked -/

/-- What is wrong with the value of a file and is not reported as a fault of the artifact. -/
inductive OverlookedValue (v : Value) : Prop
  /-- It is no object. -/
  | kind (mapping : ∀ entries, v ≠ .mapping entries)
  /-- It has an interface and code, and the interface cannot be read. -/
  | interface {entries : List (Value × Value)} {abi : List Value} {code : String}
      (object : v = .mapping entries) (found : Value.find? entries "abi" = some (.list abi))
      (coded : codeText? (Value.find? entries "bytecode") = some code)
      (unreadable : ∃ entry ∈ abi, Interface.Unreadable entry)

/-- What is wrong with a text and is not reported. -/
inductive OverlookedText (cs : List Char) : Prop
  /-- It has a number that is too long, or is too deep. -/
  | json {e : Json.Error} (read : Json.read cs = .error e) (bounds : e ≠ .malformed)
  | value {v : Value} (read : Json.read cs = .ok v) (overlooked : OverlookedValue v)

/-- What is wrong with a path and is not reported. -/
inductive Overlooked (files : Store) (path : Path) : Prop
  | nameTooLong (look : files.look path = .error .nameTooLong)
  | directory (look : files.look path = .ok .directory)
  /-- The bytes of the file are no text. -/
  | undecodable {bytes : Bytes} (look : files.look path = .ok (.file bytes))
      (text : Text.ofFile? bytes = none)
  | text {bytes : Bytes} {cs : List Char} (look : files.look path = .ok (.file bytes))
      (text : Text.ofFile? bytes = some cs) (overlooked : OverlookedText cs)

/-! ## What is reported of one artifact -/

/-- A failure of another kind is not reported. -/
theorem not_failsOnly_error {contract : String} {f : Failure} (h : ∀ fault, f ≠ .artifact fault) :
    ¬FailsOnly (.error f : Except Failure Artifact) (IsOfArtifact contract) := by
  intro hf
  obtain ⟨fault, hfault, -⟩ := hf f rfl
  exact h fault hfault

/-- What is read of a value is at fault in a way that is told, or the value is overlooked. -/
theorem ofValue_failsOnly_iff (contract : String) (v : Value) :
    FailsOnly (ofValue contract v) (IsOfArtifact contract) ↔ ¬OverlookedValue v := by
  unfold ofValue
  split
  · rename_i entries
    -- Only an interface with code can be overlooked in an object.
    have hobject : OverlookedValue (.mapping entries) ↔ ∃ abi code,
        Value.find? entries "abi" = some (.list abi) ∧
        codeText? (Value.find? entries "bytecode") = some code ∧
        ∃ entry ∈ abi, Interface.Unreadable entry := by
      constructor
      · intro h
        cases h with
        | kind mapping => exact absurd rfl (mapping entries)
        | interface object found coded unreadable =>
            cases object
            exact ⟨_, _, found, coded, unreadable⟩
      · rintro ⟨abi, code, found, coded, unreadable⟩
        exact .interface rfl found coded unreadable
    rw [hobject]
    split
    · rename_i abi hfound
      split
      · rename_i hcode
        refine iff_of_true (.error (isOfArtifact rfl)) ?_
        rintro ⟨_, code, _, hcoded, _⟩
        rw [hcode] at hcoded
        cases hcoded
      · rename_i code hcode
        rw [Interface.entries?_eq]
        cases Interface.probeEntries_spec abi with
        | passes result holds =>
            rw [result]
            refine iff_of_true (.bind (.bind (.ok ()) fun _ => .ok _) fun interface? => ?_) ?_
            · split
              · exact .ok _
              · exact .error (isOfArtifact rfl)
            · rintro ⟨_, _, hfound', _, hunreadable⟩
              rw [hfound] at hfound'
              cases hfound'
              exact holds hunreadable
        | refuses result cause holds =>
            rw [result]
            refine iff_of_false (not_failsOnly_error ?_) fun h => h ⟨abi, code, hfound, hcode, holds⟩
            rcases cause with rfl | rfl <;> exact nofun
    · rename_i hnone
      refine iff_of_true (.error (isOfArtifact rfl)) ?_
      rintro ⟨abi, _, hfound, _⟩
      exact hnone abi hfound
  · rename_i hkind
    exact iff_of_false (not_failsOnly_error nofun) fun h => h (.kind hkind)

/-- What is made of a text is at fault in a way that is told, or the text is overlooked. -/
theorem ofText_failsOnly_iff (path : Path) (contract : String) (cs : List Char) :
    FailsOnly (match Json.read cs with
        | .error .malformed => .error (.artifact (.notJson contract path.text))
        | .error e => .error (.json e)
        | .ok v => ofValue contract v) (IsOfArtifact contract) ↔ ¬OverlookedText cs := by
  cases hread : Json.read cs with
  | error e =>
      have hoverlooked : OverlookedText cs ↔ e ≠ .malformed := by
        refine ⟨fun h => ?_, fun h => .json hread h⟩
        cases h with
        | json read bounds =>
            rw [hread] at read
            cases read
            exact bounds
        | value read _ =>
            rw [hread] at read
            cases read
      rw [hoverlooked]
      cases e with
      | malformed => exact iff_of_true (.error (isOfArtifact rfl)) fun h => h rfl
      | integerTooLong => exact iff_of_false (not_failsOnly_error nofun) fun h => h nofun
      | tooDeep => exact iff_of_false (not_failsOnly_error nofun) fun h => h nofun
  | ok v =>
      refine (ofValue_failsOnly_iff contract v).trans (not_congr ⟨.value hread, fun h => ?_⟩)
      cases h with
      | json read _ =>
          rw [hread] at read
          cases read
      | value read overlooked =>
          rw [hread] at read
          cases read
          exact overlooked

/-- There is a file at the path, and what it holds is an object. -/
def HoldsObject (files : Store) (path : Path) (entries : List (Value × Value)) : Prop :=
  ∃ bytes cs, files.look path = .ok (.file bytes) ∧ Text.ofFile? bytes = some cs ∧
    Json.read cs = .ok (.mapping entries)

/-- A file holds one object. -/
theorem HoldsObject.eq {files : Store} {path : Path} {entries entries' : List (Value × Value)}
    (h : HoldsObject files path entries) (h' : HoldsObject files path entries') :
    entries = entries' := by
  obtain ⟨bytes, cs, hlook, htext, hread⟩ := h
  obtain ⟨bytes', cs', hlook', htext', hread'⟩ := h'
  rw [hlook] at hlook'
  cases hlook'
  rw [htext] at htext'
  cases htext'
  rw [hread] at hread'
  cases hread'
  rfl

/-- What is loaded from a file, by its bytes. -/
theorem load_result {path : Path} {contract : String} {w : World} {bytes : Bytes}
    (hlook : w.files.look path = .ok (.file bytes)) :
    ((load path contract).perform w).1 =
      match Text.ofFile? bytes with
      | none => .error .notText
      | some cs =>
          match Json.read cs with
          | .error .malformed => .error (.artifact (.notJson contract path.text))
          | .error e => .error (.json e)
          | .ok v => ofValue contract v := by
  have hread : w.files.read path = .ok bytes := by
    rw [Store.read, hlook]
    rfl
  unfold load
  rw [Action.perform_get_bind, Store.contains, hlook]
  dsimp only
  unfold ofFile
  rw [Action.perform_bind, Action.perform_readText, hread]
  dsimp only
  cases Text.ofFile? bytes with
  | none => rfl
  | some cs =>
      dsimp only
      cases Json.read cs with
      | error e => cases e <;> rfl
      | ok v =>
          dsimp only
          rw [Action.perform_ofExcept]

/-- A directory is there and cannot be read. -/
theorem load_of_directory {path : Path} {contract : String} {w : World}
    (hlook : w.files.look path = .ok .directory) :
    ((load path contract).perform w).1 = .error (.file .isDirectory) := by
  have hread : w.files.read path = .error .isDirectory := by
    rw [Store.read, hlook]
    rfl
  unfold load
  rw [Action.perform_get_bind, Store.contains, hlook]
  dsimp only
  unfold ofFile
  rw [Action.perform_bind, Action.perform_readText, hread]

/-- What is loaded from a path is at fault in a way that is told, or the path is overlooked. -/
theorem load_failsOnly_iff (path : Path) (contract : String) (w : World) :
    FailsOnly ((load path contract).perform w).1 (IsOfArtifact contract) ↔
      ¬Overlooked w.files path := by
  cases hlook : w.files.look path with
  | error e =>
      have hoverlooked : Overlooked w.files path ↔ e = .nameTooLong := by
        refine ⟨fun h => ?_, fun h => .nameTooLong (h ▸ hlook)⟩
        cases h with
        | nameTooLong look =>
            rw [hlook] at look
            exact Except.error.inj look
        | _ look =>
            rw [hlook] at look
            cases look
      unfold load
      rw [Action.perform_get_bind, Store.contains, hlook, hoverlooked]
      cases e with
      | nameTooLong => exact iff_of_false (not_failsOnly_error nofun) fun h => h rfl
      | _ => exact iff_of_true (.error (isOfArtifact rfl)) nofun
  | ok entry =>
      cases entry with
      | directory =>
          rw [load_of_directory hlook]
          exact iff_of_false (not_failsOnly_error nofun) fun h => h (.directory hlook)
      | file bytes =>
          rw [load_result hlook]
          cases htext : Text.ofFile? bytes with
          | none =>
              exact iff_of_false (not_failsOnly_error nofun) fun h => h (.undecodable hlook htext)
          | some cs =>
              refine (ofText_failsOnly_iff path contract cs).trans
                (not_congr ⟨.text hlook htext, fun h => ?_⟩)
              cases h with
              | text look text overlooked =>
                  rw [hlook] at look
                  cases look
                  rw [htext] at text
                  cases text
                  exact overlooked
              | undecodable look text =>
                  rw [hlook] at look
                  cases look
                  rw [htext] at text
                  cases text
              | _ look =>
                  rw [hlook] at look
                  cases look

end Artifact

/-! ## What is reported of all artifacts -/

namespace Artifacts

/-- Bad artifacts are reported exactly if they are not overlooked: each of them by itself, and of all
that a deployment may need the first that does not load. -/
theorem reported_iff (directory : Path) (w : World) :
    (∀ path contract, FailsOnly ((Artifact.load path contract).perform w).1
      (IsOfArtifact contract) ↔ ¬Artifact.Overlooked w.files path) ∧
    ((∃ found, ((loadEach directory).perform w).1 = .ok found ∧
        AreLoaded directory w ContractKind.all found) ∨
      ∃ k f, ((loadEach directory).perform w).1 = .error f ∧
        FirstUnloaded directory w ContractKind.all k f ∧
        (IsOfArtifact k.name f ↔
          ¬Artifact.Overlooked w.files (directory.join k.path))) := by
  refine ⟨fun path contract => Artifact.load_failsOnly_iff path contract w, ?_⟩
  refine (loadEach_cases directory w).imp_right ?_
  rintro ⟨k, f, herror, hfirst⟩
  refine ⟨k, f, herror, hfirst, ?_⟩
  obtain ⟨_, _, _, _, hk⟩ := hfirst
  rw [← Artifact.load_failsOnly_iff _ k.name]
  show _ ↔ FailsOnly (loaded directory w k) _
  rw [hk]
  exact ⟨.error, fun h => h f rfl⟩

/-- A file with an empty list is loaded for no artifact, and what is said of it is not that the
artifact is at fault. -/
theorem not_reported_list :
    ((Artifact.load .given "UntronCore").perform (.holding (Text.encode ['[', ']']))).1 =
        .error .notAMapping ∧
      ¬FailsOnly ((Artifact.load .given "UntronCore").perform
        (.holding (Text.encode ['[', ']']))).1 (IsOfArtifact "UntronCore") := by
  have htext : Text.ofFile? (Text.encode ['[', ']']) = some ['[', ']'] := by decide +kernel
  have hjson : Json.read ['[', ']'] = .ok (.list []) := rfl
  have hload : ((Artifact.load .given "UntronCore").perform
      (.holding (Text.encode ['[', ']']))).1 = .error .notAMapping := by
    rw [Artifact.load_result (World.look_holding _), htext]
    dsimp only
    rw [hjson]
    rfl
  rw [hload]
  exact ⟨rfl, Artifact.not_failsOnly_error nofun⟩

end Artifacts

end Rollout

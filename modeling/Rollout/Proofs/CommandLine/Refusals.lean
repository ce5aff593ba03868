import Rollout.CommandLine.Call
import Rollout.Proofs.Action.Failing
import Rollout.Proofs.Action.Reading
import Rollout.Proofs.Artifact.Interface
import Rollout.Proofs.Settings.Resolved

/-!
# Why a gate stays closed

Between them the gates of a call fail for many reasons: a file is not there or
is not what it should be, a number is malformed, the chain is another one. None
of them fails as a deployment does: a contract that does not fit, a refusal of
the chain and a placeholder that would go on record can only come later
(`Failure.IsOfGate`).

The bounds follow the functions, each from those of its steps.

## Main results

* `Settings.resolve_failsOnly`, `Artifacts.loadEach_failsOnly`,
  `Account.load_failsOnly`: the failures of gates.
-/

namespace Rollout

/-- Failures that a gate can bring about. -/
def Failure.IsOfGate : Failure → Prop
  | .arguments _ => False
  | .noSuchMember _ => False
  | .placeholderField _ => False
  | .reverted _ _ _ => False
  | _ => True

open Rollout.Failure (IsOfGate)
open Rollout.Outcome (FailsOnly)

variable {w : World}

theorem Action.readText_failsOnly (p : Path) : (readText p).FailsOnly w IsOfGate := by
  unfold readText
  refine .get_bind ?_
  split
  · exact .throw trivial
  · split
    · exact .throw trivial
    · exact .pure _

/-! ## Settings -/

namespace Settings

open Yaml (Document Item)

theorem lookUp_failsOnly (d : Document) (item : Item) (key : String) :
    FailsOnly (lookUp d item key) IsOfGate := by
  unfold lookUp
  split
  · split
    · exact .ok _
    · exact .error trivial
  · exact .error trivial

theorem lookUpOptional_failsOnly (d : Document) (item : Item) (key : String) :
    FailsOnly (lookUpOptional d item key) IsOfGate := by
  unfold lookUpOptional
  split
  · exact .ok _
  · exact .error trivial

/-- What is wrong with a configuration keeps a gate closed. -/
theorem configuration_failsOnly {α : Type} (r : Except ConfigFault α) :
    FailsOnly (r.mapError Failure.configuration) IsOfGate :=
  .mapError fun _ _ => trivial

theorem dependenciesOf_failsOnly [Address.CaseRule] (env : Environ) (d : Document)
    (constants : Item) :
    FailsOnly (dependenciesOf env d constants) IsOfGate := by
  unfold dependenciesOf
  have hconstant : ∀ dep : Dependency,
      FailsOnly ((lookUp d constants dep.constant).map d.value) IsOfGate :=
    fun dep => .map (lookUp_failsOnly _ _ _) _
  refine .bind (hconstant _) fun _ => .bind (configuration_failsOnly _) fun _ => ?_
  refine .bind (hconstant _) fun _ => .bind (hconstant _) fun _ => ?_
  exact .bind (hconstant _) fun _ => .ok _

theorem manifestFilenameOf_failsOnly (d : Document) :
    FailsOnly (manifestFilenameOf d) IsOfGate := by
  unfold manifestFilenameOf
  refine .bind (lookUpOptional_failsOnly _ _ _) fun part => ?_
  split
  · exact .ok _
  · split
    · exact .ok _
    · exact .bind (lookUpOptional_failsOnly _ _ _) fun _ => .ok _

theorem ofParams_failsOnly [Address.CaseRule] (flags : Flags) (env : Environ) (key : String)
    (params : Document) :
    FailsOnly (ofParams flags env key params) IsOfGate := by
  unfold ofParams
  refine .bind (lookUp_failsOnly _ _ _) fun _ => .bind (lookUp_failsOnly _ _ _) fun _ => ?_
  refine .bind (lookUp_failsOnly _ _ _) fun _ => .bind (dependenciesOf_failsOnly _ _ _) fun _ => ?_
  refine .bind (configuration_failsOnly _) fun _ => .bind (lookUp_failsOnly _ _ _) fun _ => ?_
  refine .bind (lookUp_failsOnly _ _ _) fun _ => ?_
  refine .bind (integerOfItem_failsOnly trivial trivial trivial _) fun _ => ?_
  refine .bind (configuration_failsOnly _) fun _ => ?_
  exact .bind (manifestFilenameOf_failsOnly _) fun _ => .ok _

theorem loadParams_failsOnly [Address.CaseRule] (source : Params.Source) :
    (Params.load source).FailsOnly w IsOfGate := by
  have hread : ∀ w, (Params.readSource source).FailsOnly w IsOfGate := by
    intro w
    unfold Params.readSource
    cases source with
    | packaged => exact .pure _
    | file path =>
        refine .get_bind ?_
        split
        · exact .throw trivial
        · exact Action.readText_failsOnly path
  unfold Params.load
  refine .bind_of_ok (.say _) fun _ w₁ _ => .bind_of_ok (hread w₁) fun cs _ _ => ?_
  split
  · exact .throw trivial
  · exact .ofExcept (configuration_failsOnly _)

theorem resolve_failsOnly [Address.CaseRule] (flags : Flags) (env : Environ) (params : Option Value)
    (source : Params.Source) : (resolve flags env params source).FailsOnly w IsOfGate := by
  unfold resolve
  split
  · exact .throw trivial
  · dsimp only
    split
    · exact .ofExcept (ofParams_failsOnly _ _ _ _)
    · exact .bind_of_ok (loadParams_failsOnly source) fun _ _ _ =>
        .ofExcept (ofParams_failsOnly _ _ _ _)

theorem announce_failsOnly (s : Settings) : s.announce.FailsOnly w IsOfGate := by
  unfold announce
  split
  · exact .say _
  · exact .throw trivial

theorem checkChain_failsOnly (s : Settings) (connected : Int) :
    FailsOnly (s.checkChain connected) IsOfGate := by
  unfold checkChain
  split
  · exact .ok _
  · split
    · exact .error trivial
    · exact .error trivial

end Settings

/-! ## Artifacts -/

namespace Artifact

theorem ofValue_failsOnly (contract : String) (v : Value) :
    FailsOnly (ofValue contract v) IsOfGate := by
  unfold ofValue
  split
  · split
    · split
      · exact .error trivial
      · refine .bind (Interface.entries?_failsOnly trivial trivial _) fun _ => ?_
        split
        · exact .ok _
        · exact .error trivial
    · exact .error trivial
  · exact .error trivial

theorem load_failsOnly (path : Path) (contract : String) :
    (load path contract).FailsOnly w IsOfGate := by
  unfold load
  refine .get_bind ?_
  split
  · exact .throw trivial
  · exact .throw trivial
  · unfold ofFile
    refine .bind_of_ok (Action.readText_failsOnly path) fun cs _ _ => ?_
    split
    · exact .throw trivial
    · exact .throw trivial
    · exact .ofExcept (ofValue_failsOnly _ _)

end Artifact

theorem Artifacts.loadEach_failsOnly (directory : Path) :
    (loadEach directory).FailsOnly w IsOfGate := by
  intro f hf
  rcases loadEach_cases directory w with ⟨_, hok, -⟩ | ⟨k, f', herror, _, _, _, _, hk⟩
  · rw [hok] at hf
    cases hf
  · rw [herror] at hf
    cases hf
    exact Artifact.load_failsOnly _ _ f hk

/-! ## The account and the destination -/

theorem Account.opened_failsOnly (addressOf? : String → Option String)
    (privateKey passphrase : String) (keystore : Keystore) :
    FailsOnly (opened addressOf? privateKey passphrase keystore) IsOfGate := by
  unfold opened
  split
  · exact .error trivial
  · dsimp only
    split
    · exact .error trivial
    · split
      · exact .error trivial
      · exact .ok _

theorem Account.load_failsOnly (addressOf? : String → Option String)
    (privateKey passphrase : String) :
    (load addressOf? privateKey passphrase).FailsOnly w IsOfGate := by
  intro f hf
  rw [perform_load] at hf
  exact opened_failsOnly _ _ _ _ f hf

namespace CommandLine

theorem manifestPath_failsOnly (o : Options) (s : Settings) :
    FailsOnly (manifestPath o s) IsOfGate := by
  unfold manifestPath
  split
  · exact .ok _
  · exact .ok _
  · exact .error trivial

theorem connect_failsOnly (s : Settings) : (connect s).FailsOnly w IsOfGate :=
  .bind_of_ok (.say _) fun _ _ _ _ h => by cases h

end CommandLine

end Rollout

import Rollout.Proofs.Action.Effect
import Rollout.Roles
import Rollout.Settings.Resolve

/-!
# What settings are made of

Settings that could be put together have all their parts: each came from the
environment or from the parameters, and each was accepted. `Settings.MadeOf`
lists the parts by name, so that what is known of one of them is known of the
settings.

## Main results

* `Settings.ofParams_eq_ok`: the parts of settings made from parameters.
* `Settings.resolve_eq_ok`: settings that were put together are made from a
  private key that is not empty and from parameters that were given or loaded.
* `Settings.exists_madeOf_of_resolve`: what is known of settings whose parameters
  were loaded.
-/

namespace Rollout.Settings

open Yaml (Document Item)

/-- A number that is not given as one is of the wrong kind, malformed or infinite. -/
theorem integerOfItem_failsOnly {E : Failure → Prop} (hkind : E .wrongKind)
    (hmalformed : E .malformedNumber) (hinfinite : E .infiniteNumber) (item : Item) :
    Outcome.FailsOnly (integerOfItem item) E := by
  have htext : ∀ cs, Outcome.FailsOnly (integerOfText cs) E := by
    intro cs
    unfold integerOfText
    split
    · exact .ok _
    · exact .error hmalformed
  unfold integerOfItem
  split
  · unfold integerOf
    split
    · exact .ok _
    · exact .ok _
    · exact htext _
    · split
      · exact htext _
      · exact .error hmalformed
    · split
      · exact .error hmalformed
      · exact .error hinfinite
      · exact .ok _
    · exact .error hkind
  · exact .error hkind

/-- The parts of settings that are made from an environment and a document of parameters. -/
structure MadeOf [Address.CaseRule] (s : Settings) (flags : Flags) (env : Environ) (key : String)
    (params : Document) : Prop where
  target : s.target = flags.target
  useMockVerifier : s.useMockVerifier = flags.mock
  privateKey : s.privateKey = key
  defaults : ∃ constants, lookUp params params.root "constants" = .ok constants ∧
    dependenciesOf env params constants = .ok s.defaults
  recipients : recipientsOf env = .ok s.recipients
  verificationKey : verificationKeyOf (env "SP1_VKEY") = .ok s.verificationKey
  manifestFilename : manifestFilenameOf params = .ok s.manifestFilename

theorem ofParams_eq_ok [Address.CaseRule] {flags : Flags} {env : Environ} {key : String}
    {params : Document} {s : Settings} (h : ofParams flags env key params = .ok s) :
    s.MadeOf flags env key params := by
  unfold ofParams at h
  obtain ⟨_, _, h⟩ := Outcome.bind_eq_ok.mp h
  obtain ⟨_, _, h⟩ := Outcome.bind_eq_ok.mp h
  obtain ⟨constants, hconstants, h⟩ := Outcome.bind_eq_ok.mp h
  obtain ⟨defaults, hdefaults, h⟩ := Outcome.bind_eq_ok.mp h
  obtain ⟨recipients, hrecipients, h⟩ := Outcome.bind_eq_ok.mp h
  obtain ⟨_, _, h⟩ := Outcome.bind_eq_ok.mp h
  obtain ⟨_, _, h⟩ := Outcome.bind_eq_ok.mp h
  obtain ⟨_, _, h⟩ := Outcome.bind_eq_ok.mp h
  obtain ⟨verificationKey, hkey, h⟩ := Outcome.bind_eq_ok.mp h
  obtain ⟨manifestFilename, hmanifest, h⟩ := Outcome.bind_eq_ok.mp h
  cases h
  exact
    { target := rfl
      useMockVerifier := rfl
      privateKey := rfl
      defaults := ⟨constants, hconstants, hdefaults⟩
      recipients := Outcome.mapError_eq_ok.mp hrecipients
      verificationKey := Outcome.mapError_eq_ok.mp hkey
      manifestFilename := hmanifest }

/-- Settings that were put together are made from a private key that is not empty and from the
parameters that were given or, if there were none, loaded. -/
theorem resolve_eq_ok [Address.CaseRule] {flags : Flags} {env : Environ} {params : Option Value}
    {source : Params.Source} {w w' : World} {s : Settings}
    (h : (resolve flags env params source).perform w = (.ok s, w')) :
    ∃ key document, env.nonempty? "PRIVATE_KEY" = some key ∧
      (params = none → ∃ w₁, (Params.load source).perform w = (.ok document, w₁)) ∧
      ofParams flags env key document = .ok s := by
  unfold resolve at h
  cases hkey : env.nonempty? "PRIVATE_KEY" with
  | none =>
      rw [hkey] at h
      cases (Prod.mk.inj h).1
  | some key =>
      rw [hkey] at h
      dsimp only at h
      cases params with
      | none =>
          obtain ⟨document, w₁, hload, h⟩ := Action.perform_bind_eq_ok.mp h
          exact ⟨key, document, rfl, fun _ => ⟨w₁, hload⟩, Action.eq_ok_of_perform_ofExcept h⟩
      | some v =>
          obtain ⟨document, _, _, h⟩ := Action.perform_bind_eq_ok.mp h
          exact ⟨key, document, rfl, nofun, Action.eq_ok_of_perform_ofExcept h⟩

/-- Settings whose parameters were loaded are made of these. -/
theorem exists_madeOf_of_resolve [Address.CaseRule] {flags : Flags} {env : Environ}
    {source : Params.Source} {w w' : World} {s : Settings}
    (h : (resolve flags env none source).perform w = (.ok s, w')) :
    ∃ params, (∃ w₁, (Params.load source).perform w = (.ok params, w₁)) ∧
      s.MadeOf flags env s.privateKey params := by
  obtain ⟨key, params, -, hload, hparams⟩ := resolve_eq_ok h
  have hmade := ofParams_eq_ok hparams
  exact ⟨params, hload rfl, hmade.privateKey ▸ hmade⟩

/-! ## The chain -/

/-- The check of a chain passes exactly on the chain of the settings. -/
theorem checkChain_eq_ok_iff {s : Settings} {connected : Int} :
    s.checkChain connected = .ok () ↔ connected = s.chainId := by
  unfold checkChain
  split
  · simp [*]
  · split <;> simp [*]

/-- Any other chain is refused as a mismatch exactly if both numbers can be shown. -/
theorem checkChain_eq_mismatch_iff {s : Settings} {connected : Int} (h : connected ≠ s.chainId) :
    s.checkChain connected = .error (.chainMismatch s.chainId connected) ↔
      Integer.isWritable s.chainId = true ∧ Integer.isWritable connected = true := by
  unfold checkChain
  rw [if_neg h, ← Bool.and_eq_true]
  split
  · exact iff_of_true rfl ‹_›
  · exact iff_of_false nofun ‹_›

end Rollout.Settings

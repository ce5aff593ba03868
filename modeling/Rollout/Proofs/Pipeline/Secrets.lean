import Rollout.Proofs.Manifest.Written
import Rollout.Proofs.Pipeline.Script
import Rollout.Proofs.Settings.Secrets
import Rollout.Proofs.Standard

/-!
# A deployment does not give away credentials

The private key and the passphrase are in the settings that every stage gets, and
the account of the private key signs. Until it does, nothing that can be seen
from outside depends on the two: not whether settings can be put together nor
what is told of it, not how they are shown, not the checks before the start, and
not the run, which signs with an account that was opened before.

Both runs of one pair start from worlds that look alike and end in worlds that
look alike, so the steps can follow one another.

## Main results

* `Pipeline.run_looksLike`: a run does not look into what was told before it.
* `Pipeline.secrets_unseen`: two environments that differ in credentials cannot
  be told apart.
-/

namespace Rollout

open Rollout.Action (LooksLike)

/-! ## The deployer's operations -/

namespace Deployer

variable (d : Deployer)

theorem methodOf_looksLike (t : ContractType) (method : String) :
    LooksLike (methodOf t method) (methodOf t method) := by
  unfold methodOf
  split
  · exact .pure _
  · exact .throw _

theorem shortAddress_looksLike (c : Contract) : LooksLike (shortAddress c) (shortAddress c) := by
  unfold shortAddress
  split
  · exact .pure _
  · exact .throw _

theorem transact_looksLike (c : Contract) (method : String) (args : List Value) :
    LooksLike (d.transact c method args) (d.transact c method args) := by
  unfold transact
  refine .bind (methodOf_looksLike _ _) fun _ => .bind (.ofExcept _) fun _ => ?_
  refine .bind (shortAddress_looksLike c) fun _ => .bind (.say rfl) fun _ => ?_
  refine .askIf_bind (.ask _) (.bind (.submit _) fun _ => ?_)
  exact .get_bind_of_eq (fun w w' h => by rw [h.chain]) fun _ => .pure _

theorem deploy_looksLike (t : ContractType) (args : List Value) :
    LooksLike (d.deploy t args) (d.deploy t args) := by
  unfold deploy
  refine .bind (.ofExcept _) fun _ => ?_
  refine .askIf_bind (.askDeployment _ _) (.bind (.submitDeployment _) fun _ => ?_)
  exact .bind (.say rfl) fun _ => .pure _

theorem encode_looksLike (c : Contract) (method : String) (args : List Value) :
    LooksLike (d.encode c method args) (d.encode c method args) := by
  unfold encode
  refine .bind (methodOf_looksLike _ _) fun _ => .bind (.ofExcept _) fun _ => ?_
  refine .bind (.submit _) fun _ => ?_
  exact .get_bind_of_eq (fun w w' h => by rw [h.chain]) fun _ => .pure _

theorem deployProxy_looksLike (proxy target : ContractType) (implementation : Contract)
    (method : String) (args : List Value) :
    LooksLike (d.deployProxy proxy target implementation method args)
      (d.deployProxy proxy target implementation method args) := by
  unfold deployProxy
  refine .bind (d.encode_looksLike _ _ _) fun _ => .bind (.say rfl) fun _ => ?_
  exact .bind (d.deploy_looksLike _ _) fun _ => .bind (.say rfl) fun _ => .pure _

end Deployer

/-! ## Roles -/

namespace Role

variable (d : Deployer) (core : Contract)

theorem identifier_looksLike (getter : String) :
    LooksLike (identifier core getter) (identifier core getter) := by
  unfold identifier
  refine .get_bind_of_eq (fun w w' h => by rw [h.chain]) fun w => ?_
  split
  · exact .pure _
  · exact .bind (.submit _) fun _ => .pure _
  · exact .throw _

theorem callEach_looksLike (method : String) (ids : List Value) (account : Value) :
    LooksLike (callEach d core method ids account) (callEach d core method ids account) := by
  unfold callEach
  exact .forM ids fun id _ => .bind (d.transact_looksLike _ _ _) fun _ => .pure _

theorem transfer_looksLike (role : Role) (recipient holder : Value) :
    LooksLike (transfer d core role recipient holder)
      (transfer d core role recipient holder) := by
  unfold transfer
  refine .bind (.say rfl) fun _ => ?_
  refine .bind (.mapM _ fun g _ => identifier_looksLike core g) fun ids => ?_
  exact .bind (callEach_looksLike d core _ _ _) fun _ => callEach_looksLike d core _ _ _

theorem migrate_looksLike (recipients : Recipients) (holder : Value) :
    LooksLike (migrate d core recipients holder) (migrate d core recipients holder) := by
  unfold migrate
  refine .bind (.mapM _ fun p _ => ?_) fun _ => .pure _
  show LooksLike (migrateOne d core p.1 p.2 holder) (migrateOne d core p.1 p.2 holder)
  unfold migrateOne
  split
  · exact .bind (.say rfl) fun _ => .pure _
  · exact .bind (transfer_looksLike d core _ _ _) fun _ => .pure _

end Role

theorem configureVerifier_looksLike (d : Deployer) (core : Contract) (verifier key : Value) :
    LooksLike (configureVerifier d core verifier key) (configureVerifier d core verifier key) := by
  unfold configureVerifier
  exact .bind (.say rfl) fun _ => .bind (d.transact_looksLike _ _ _) fun _ => .pure _

/-! ## The manifest -/

namespace Manifest

theorem finish_looksLike (m : Manifest) (path : Path) :
    LooksLike (finish m path) (finish m path) := by
  unfold finish
  refine .bind (.of_files
    (fun files => ((files.draftPlace path).map fun _ => ()).mapError .file) id
    (perform_checkDraft path)) fun _ => ?_
  cases m.text with
  | error e => exact .throw _
  | ok text =>
      refine .bind (.of_files
        (fun files => ((files.replace path (Text.encode text)).map fun _ => ()).mapError .file)
        (fun files => (files.replace path (Text.encode text)).toOption.getD files)
        (perform_put path text)) fun _ => ?_
      exact .say rfl

theorem write_looksLike (m : Manifest) (path : Path) :
    LooksLike (m.write path) (m.write path) := by
  rw [write_eq]
  refine .bind (.of_files (fun files => (files.ensureDirectory path.parent).1.mapError .file)
    (fun files => (files.ensureDirectory path.parent).2) (perform_makeParent path)) fun _ => ?_
  refine .bind (.of_files (fun files => (files.contains path).mapError .file) id
    (perform_isTaken path)) fun taken => ?_
  cases taken with
  | true => exact .bind (.say rfl) fun _ => finish_looksLike m path
  | false => exact finish_looksLike m path

end Manifest

namespace Pipeline

variable (d : Deployer) (s : Settings) (artifacts : Artifacts)

/-! ## The stages -/

theorem deployMock_looksLike (k : ContractKind) :
    LooksLike (deployMock d artifacts k) (deployMock d artifacts k) := by
  unfold deployMock
  exact .bind (d.deploy_looksLike _ _) fun _ => .pure _

theorem provisionOthers_looksLike :
    LooksLike (provisionOthers d s artifacts) (provisionOthers d s artifacts) := by
  unfold provisionOthers
  split
  · refine .bind (deployMock_looksLike d artifacts _) fun _ => ?_
    refine .bind (deployMock_looksLike d artifacts _) fun _ => ?_
    exact .bind (deployMock_looksLike d artifacts _) fun _ => .pure _
  · exact .pure _

theorem provisionVerifier_looksLike (found : Dependencies) :
    LooksLike (provisionVerifier d s artifacts found)
      (provisionVerifier d s artifacts found) := by
  unfold provisionVerifier
  split
  · exact .bind (deployMock_looksLike d artifacts _) fun _ => .pure _
  · exact .pure _

theorem provision_looksLike :
    LooksLike (provision d s artifacts) (provision d s artifacts) := by
  rw [provision_eq]
  exact .bind (provisionOthers_looksLike d s artifacts)
    (provisionVerifier_looksLike d s artifacts)

theorem deployCore_looksLike (deps : Dependencies) :
    LooksLike (deployCore d artifacts deps) (deployCore d artifacts deps) := by
  unfold deployCore
  refine .bind (d.deploy_looksLike _ _) fun _ => ?_
  exact .bind (d.deployProxy_looksLike _ _ _ _ _) fun _ => .pure _

/-- A run does not look into what was told before it. -/
theorem run_looksLike (path : Path) :
    LooksLike (run d s artifacts path) (run d s artifacts path) := by
  have hexecute : LooksLike (execute d s artifacts) (execute d s artifacts) := by
    unfold execute
    refine .bind (provision_looksLike d s artifacts) fun deps => ?_
    refine .bind (deployCore_looksLike d artifacts deps) fun made => ?_
    refine .bind (Role.migrate_looksLike d _ _ _) fun _ => ?_
    exact .bind (configureVerifier_looksLike d _ _ _) fun _ => .ofExcept _
  unfold run
  exact .bind hexecute fun m => .bind (m.write_looksLike path) fun _ => .pure m

/-- So runs with settings that differ in credentials look alike. -/
theorem run_sameButSecrets {s s' : Settings} (h : s.SameButSecrets s') (path : Path) :
    LooksLike (run d s artifacts path) (run d s' artifacts path) := by
  obtain ⟨key, passphrase, rfl⟩ := h
  -- No stage reads the two fields, so both runs are one action.
  exact run_looksLike d s artifacts path

/-- **Credentials are not seen.** Let two environments with private keys agree in all else. From the
same world, putting settings together fails in both with the same failure and the same output, or
gives settings that differ at most in the private key and the passphrase. Such settings are shown in
the same way, pass or fail the checks before the start for the same reasons, and a run with the ones
has the result of a run with the others, on a chain with the same log, with the same files and the
same output, whatever the world that it starts from looks like. -/
theorem secrets_unseen [Address.CaseRule] {env env' : Environ} (henv : env.SameButSecrets env')
    (hkey : (env.nonempty? "PRIVATE_KEY").isSome = true)
    (hkey' : (env'.nonempty? "PRIVATE_KEY").isSome = true) (flags : Settings.Flags)
    (params : Option Value) (source : Params.Source) (w : World) :
    (∃ f w₁, (Settings.resolve flags env params source).perform w = (.error f, w₁) ∧
      (Settings.resolve flags env' params source).perform w = (.error f, w₁)) ∨
    ∃ s s' w₁, (Settings.resolve flags env params source).perform w = (.ok s, w₁) ∧
      (Settings.resolve flags env' params source).perform w = (.ok s', w₁) ∧
      s.SameButSecrets s' ∧ s'.summary = s.summary ∧ s'.isWritable = s.isWritable ∧
      s'.preflight = s.preflight ∧ LooksLike s.announce s'.announce ∧
      (∀ connected, s'.checkChain connected = s.checkChain connected) ∧
      ∀ (d : Deployer) (artifacts : Artifacts) (path : Path),
        LooksLike (run d s artifacts path) (run d s' artifacts path) := by
  obtain ⟨key, passphrase, hresolve⟩ :=
    Settings.resolve_secrets henv hkey hkey' flags params source
  rw [hresolve, Action.perform_map]
  rcases (Settings.resolve flags env params source).perform w with ⟨r, w₁⟩
  cases r with
  | error f => exact .inl ⟨f, w₁, rfl, rfl⟩
  | ok s =>
      have hsame : s.SameButSecrets (s.withSecrets key passphrase) := ⟨key, passphrase, rfl⟩
      exact .inr ⟨s, s.withSecrets key passphrase, w₁, rfl, rfl, hsame, hsame.summary,
        hsame.isWritable, hsame.preflight, hsame.announce, hsame.checkChain,
        fun d artifacts path => run_sameButSecrets d artifacts hsame path⟩

/-- The standard environment with another private key, and with a passphrase. -/
def otherEnviron : Environ :=
  .ofList
    [("PRIVATE_KEY", "other key"), ("DEPLOYER_PASSPHRASE", "passphrase"),
     ("ADMIN_ADDRESS", Deployer.otherAddress), ("REGISTRAR_ADDRESS", Deployer.otherAddress)]

theorem otherEnviron_sameButSecrets : Environ.standard.SameButSecrets otherEnviron := by
  intro name hkey hpassphrase
  simp [otherEnviron, Environ.standard, Environ.ofList, List.find?_cons, Ne.symm hkey,
    Ne.symm hpassphrase]

/-- The settings of the two have different private keys, and the runs with them end alike. -/
theorem secrets_unseen_in_standard_settings :
    Environ.standard.SameButSecrets otherEnviron ∧
    (Environ.standard.nonempty? "PRIVATE_KEY").isSome = true ∧
    (otherEnviron.nonempty? "PRIVATE_KEY").isSome = true ∧
    ∃ s' w₁, (Settings.resolve ⟨false, false⟩ otherEnviron (some Params.standard)
        .packaged).perform .fresh = (.ok s', w₁) ∧
      s'.privateKey ≠ Settings.standard.privateKey ∧ s'.summary = Settings.standard.summary ∧
      LooksLike Settings.standard.announce s'.announce ∧
      Action.SameEnd ((run .standard .standard .standard .standard).perform .fresh)
        ((run .standard s' .standard .standard).perform .fresh) := by
  have hkey : (Environ.standard.nonempty? "PRIVATE_KEY").isSome = true := by decide
  have hother : otherEnviron.nonempty? "PRIVATE_KEY" = some "other key" := by decide
  have hkey' : (otherEnviron.nonempty? "PRIVATE_KEY").isSome = true := by rw [hother]; rfl
  refine ⟨otherEnviron_sameButSecrets, hkey, hkey', ?_⟩
  rcases secrets_unseen otherEnviron_sameButSecrets hkey hkey' ⟨false, false⟩
    (some Params.standard) .packaged .fresh with ⟨f, w₁, hfails, -⟩ | hsettings
  · rw [Settings.resolve_standard] at hfails
    cases (Prod.mk.inj hfails).1
  · obtain ⟨s, s', w₁, hs, hs', -, hsummary, -, -, hannounce, -, hrun⟩ := hsettings
    rw [Settings.resolve_standard] at hs
    cases hs
    refine ⟨s', .fresh, hs', ?_, hsummary, hannounce, hrun _ _ _ _ _ (.refl .fresh)⟩
    obtain ⟨key, document, hset, -, hparams⟩ := Settings.resolve_eq_ok hs'
    rw [hother] at hset
    rw [(Settings.ofParams_eq_ok hparams).privateKey, ← Option.some.inj hset]
    decide

end Pipeline

end Rollout

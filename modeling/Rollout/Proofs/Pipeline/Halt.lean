import Rollout.Proofs.Action.Interruption
import Rollout.Proofs.Pipeline.Script

/-!
# A deployment that a fault halts

Every stage of a deployment is put together from the deployer's operations, and
none of them goes on after a refusal: each can be cut short and does nothing
then. Only the last step, which writes the manifest, changes the files, and it
comes when the chain has nothing left to refuse.

What a fault does to a run can therefore be read off the run without it: the
fault fires exactly if it covers more of the entries of that run than it lets
through, and the run stops at the first entry too many.

## Main results

* `Deployer.transact_interruptible`, `Deployer.deploy_interruptible`,
  `Deployer.deployProxy_interruptible`: the deployer's operations.
* `Pipeline.execute_interruptible`: all stages together.
* `Pipeline.run_halts_at_fault`: what becomes of a run under a fault.
-/

namespace Rollout

open Rollout.Action (Interruptible Blind UpToFault)

/-! ## The deployer's operations -/

namespace Deployer

variable (d : Deployer)

theorem methodOf_interruptible (t : ContractType) (method : String) :
    (methodOf t method).Interruptible := by
  unfold methodOf
  split
  · exact .pure _
  · exact .throw rfl

/-- A mismatch of arguments is none of the chain's business. -/
theorem arguments_interruptible {α : Type} (r : Except ArgumentFault α) :
    (Action.ofExcept (r.mapError Failure.arguments)).Interruptible := by
  refine .ofExcept fun f h => ?_
  cases r with
  | ok x => cases h
  | error e =>
      cases h
      rfl

theorem shortAddress_interruptible (c : Contract) : (shortAddress c).Interruptible := by
  unfold shortAddress
  split
  · exact .pure _
  · exact .throw rfl

theorem transact_interruptible (c : Contract) (method : String) (args : List Value) :
    (d.transact c method args).Interruptible := by
  unfold transact
  refine .bind (methodOf_interruptible _ _) fun _ => ?_
  refine .bind (arguments_interruptible _) fun _ => ?_
  refine .bind (shortAddress_interruptible c) fun _ => .bind (.say _) fun _ => ?_
  refine .askIf_bind (.ask _) (.bind (.submit _) fun _ => ?_)
  exact .get_bind (fun _ _ => rfl) fun _ => .pure _

theorem deploy_interruptible (t : ContractType) (args : List Value) :
    (d.deploy t args).Interruptible := by
  unfold deploy
  refine .bind (arguments_interruptible _) fun _ => ?_
  refine .askIf_bind (.askDeployment _ _) (.bind (.submitDeployment _) fun _ => ?_)
  exact .bind (.say _) fun _ => .pure _

theorem encode_interruptible (c : Contract) (method : String) (args : List Value) :
    (d.encode c method args).Interruptible := by
  unfold encode
  refine .bind (methodOf_interruptible _ _) fun _ => ?_
  refine .bind (arguments_interruptible _) fun _ => .bind (.submit _) fun _ => ?_
  exact .get_bind (fun _ _ => rfl) fun _ => .pure _

theorem deployProxy_interruptible (proxy target : ContractType) (implementation : Contract)
    (method : String) (args : List Value) :
    (d.deployProxy proxy target implementation method args).Interruptible := by
  unfold deployProxy
  refine .bind (d.encode_interruptible _ _ _) fun _ => .bind (.say _) fun _ => ?_
  refine .bind (d.deploy_interruptible _ _) fun _ => ?_
  exact .bind (.say _) fun _ => .pure _

end Deployer

/-! ## Roles -/

namespace Role

variable (d : Deployer) (core : Contract)

/-- What a getter answers does not depend on a fault, and where it sends a transaction the fault may
refuse it. -/
theorem identifier_interruptible (getter : String) : (identifier core getter).Interruptible := by
  unfold identifier
  refine .get_bind (fun _ _ => rfl) fun w => ?_
  split
  · exact .pure _
  · exact .bind (.submit _) fun _ => .pure _
  · refine .throw ?_
    split <;> rfl

theorem callEach_interruptible (method : String) (ids : List Value) (account : Value) :
    (callEach d core method ids account).Interruptible := by
  unfold callEach
  exact .forM ids fun id _ => .bind (d.transact_interruptible _ _ _) fun _ => .pure _

theorem transfer_interruptible (role : Role) (recipient holder : Value) :
    (transfer d core role recipient holder).Interruptible := by
  unfold transfer
  refine .bind (.say _) fun _ => ?_
  refine .bind (.mapM _ fun g _ => identifier_interruptible core g) fun ids => ?_
  exact .bind (callEach_interruptible d core _ _ _) fun _ => callEach_interruptible d core _ _ _

theorem migrate_interruptible (recipients : Recipients) (holder : Value) :
    (migrate d core recipients holder).Interruptible := by
  unfold migrate
  refine .bind (.mapM _ fun p _ => ?_) fun _ => .pure _
  show (migrateOne d core p.1 p.2 holder).Interruptible
  unfold migrateOne
  split
  · exact .bind (.say _) fun _ => .pure _
  · exact .bind (transfer_interruptible d core _ _ _) fun _ => .pure _

end Role

theorem configureVerifier_interruptible (d : Deployer) (core : Contract) (verifier key : Value) :
    (configureVerifier d core verifier key).Interruptible := by
  unfold configureVerifier
  exact .bind (.say _) fun _ => .bind (d.transact_interruptible _ _ _) fun _ => .pure _

/-! ## The manifest -/

namespace Manifest

/-- An error of the file system is none of the chain's business. -/
theorem isReverted_of_mapError {α : Type} {r : Except FileError α} {f : Failure}
    (h : r.mapError Failure.file = .error f) : f.isReverted = false := by
  cases r with
  | ok x => cases h
  | error e =>
      cases h
      rfl

theorem makeParent_blind (path : Path) : (makeParent path).Blind where
  same w fault := by
    rw [perform_makeParent, perform_makeParent]
    rfl
  accepted w f h := by
    rw [perform_makeParent] at h
    exact isReverted_of_mapError h

theorem isTaken_blind (path : Path) : (isTaken path).Blind where
  same w fault := by
    rw [perform_isTaken, perform_isTaken]
    rfl
  accepted w f h := by
    rw [perform_isTaken] at h
    exact isReverted_of_mapError h

theorem checkDraft_blind (path : Path) : (checkDraft path).Blind where
  same w fault := by
    rw [perform_checkDraft, perform_checkDraft]
    rfl
  accepted w f h := by
    rw [perform_checkDraft] at h
    exact isReverted_of_mapError h

theorem put_blind (path : Path) (text : List Char) : (put path text).Blind where
  same w fault := by
    rw [perform_put, perform_put]
    rfl
  accepted w f h := by
    rw [perform_put] at h
    exact isReverted_of_mapError h

theorem finish_blind (m : Manifest) (path : Path) : (finish m path).Blind := by
  unfold finish
  refine .bind (checkDraft_blind path) fun _ => ?_
  cases m.text with
  | error e =>
      refine .throw ?_
      cases e <;> rfl
  | ok text => exact .bind (put_blind path text) fun _ => .say _

/-- Writing a manifest does not look at the chain. -/
theorem write_blind (m : Manifest) (path : Path) : (m.write path).Blind := by
  rw [write_eq]
  refine .bind (makeParent_blind path) fun _ => .bind (isTaken_blind path) fun taken => ?_
  cases taken with
  | true => exact .bind (.say _) fun _ => finish_blind m path
  | false => exact finish_blind m path

end Manifest

namespace Pipeline

variable (d : Deployer) (s : Settings) (artifacts : Artifacts)

/-! ## The stages -/

theorem deployMock_interruptible (k : ContractKind) :
    (deployMock d artifacts k).Interruptible := by
  unfold deployMock
  exact .bind (d.deploy_interruptible _ _) fun _ => .pure _

theorem provisionOthers_interruptible : (provisionOthers d s artifacts).Interruptible := by
  unfold provisionOthers
  split
  · refine .bind (deployMock_interruptible d artifacts _) fun _ => ?_
    refine .bind (deployMock_interruptible d artifacts _) fun _ => ?_
    exact .bind (deployMock_interruptible d artifacts _) fun _ => .pure _
  · exact .pure _

theorem provisionVerifier_interruptible (found : Dependencies) :
    (provisionVerifier d s artifacts found).Interruptible := by
  unfold provisionVerifier
  split
  · exact .bind (deployMock_interruptible d artifacts _) fun _ => .pure _
  · exact .pure _

theorem provision_interruptible : (provision d s artifacts).Interruptible := by
  rw [provision_eq]
  exact .bind (provisionOthers_interruptible d s artifacts)
    (provisionVerifier_interruptible d s artifacts)

theorem deployCore_interruptible (deps : Dependencies) :
    (deployCore d artifacts deps).Interruptible := by
  unfold deployCore
  refine .bind (d.deploy_interruptible _ _) fun _ => ?_
  exact .bind (d.deployProxy_interruptible _ _ _ _ _) fun _ => .pure _

/-- Everything but the writing of the manifest can be cut short. -/
theorem execute_interruptible : (execute d s artifacts).Interruptible := by
  unfold execute
  refine .bind (provision_interruptible d s artifacts) fun deps => ?_
  refine .bind (deployCore_interruptible d artifacts deps) fun made => ?_
  refine .bind (Role.migrate_interruptible d _ _ _) fun _ => ?_
  refine .bind (configureVerifier_interruptible d _ _ _) fun _ => ?_
  refine .ofExcept fun _ h => ?_
  obtain ⟨_, rfl⟩ := Manifest.build_eq_error h
  rfl

/-! ## The whole -/

/-- A run from a world whose chain has the given fault, or none. -/
def runUnder (path : Path) (w : World) (fault : Option Fault) : Except Failure Manifest × World :=
  (run d s artifacts path).perform (w.withFault fault)

/-- What comes after all stages does not look at the chain and leaves it alone. -/
theorem record_blind (m : Manifest) (path : Path) :
    (do m.write path; return m : Action Manifest).Blind :=
  .bind (m.write_blind path) fun _ => .pure m

/-- What a fault that has let all entries through makes of a run. -/
theorem runUnder_of_spared (path : Path) {w w' : World} {f : Fault} {es : List LogEntry}
    {r : Except Failure Manifest}
    (hfree : (execute d s artifacts).perform (w.withFault none) = (r, w'.withFault none))
    (hrun : (execute d s artifacts).perform (w.withFault (some f)) =
      (r, w'.withFault (some (f.after es))))
    (haccepted : ∀ e, r = .error e → e.isReverted = false) :
    ∃ (r' : Except Failure Manifest) (w'' : World),
      runUnder d s artifacts path w none = (r', w''.withFault none) ∧
      runUnder d s artifacts path w (some f) = (r', w''.withFault (some (f.after es))) ∧
      ∀ e, r' = .error e → e.isReverted = false := by
  unfold runUnder run
  rw [Action.perform_bind, Action.perform_bind, hfree, hrun]
  cases r with
  | error e => exact ⟨.error e, w', rfl, rfl, haccepted⟩
  | ok m =>
      have hblind := record_blind m path
      exact ⟨_, _, hblind.same w' none, hblind.same w' (some (f.after es)), hblind.accepted w'⟩

/-- **A refused action is the last one.** Let a run go once on a chain that refuses nothing and
once, from the same world, under a fault. If the fault fires on the entries of the free run, the run
under it fails with the refusal of the first entry that is one too many; its log ends just before
that entry, and the files are as they were. If the fault does not fire, the runs end alike. -/
theorem run_halts_at_fault (path : Path) (w : World) (f : Fault) :
    ∃ es, (runUnder d s artifacts path w none).2.chain.log = w.chain.log ++ es ∧
      (runUnder d s artifacts path w (some f)).2.chain.log <+:
        (runUnder d s artifacts path w none).2.chain.log ∧
      (f.Fires es ↔ ∃ kind contract name,
        (runUnder d s artifacts path w (some f)).1 = .error (.reverted kind contract name)) ∧
      (f.Fires es → ∃ done e rest, es = done ++ e :: rest ∧
        f.covers e = true ∧ done.countP f.covers = f.skip ∧
        (runUnder d s artifacts path w (some f)).1 =
          .error (.reverted e.kind e.contract e.name) ∧
        (runUnder d s artifacts path w (some f)).2.chain.log = w.chain.log ++ done ∧
        (runUnder d s artifacts path w (some f)).2.files = w.files) ∧
      (¬f.Fires es →
        (runUnder d s artifacts path w (some f)).1 = (runUnder d s artifacts path w none).1 ∧
        (runUnder d s artifacts path w (some f)).2.chain.log =
          (runUnder d s artifacts path w none).2.chain.log ∧
        (runUnder d s artifacts path w (some f)).2.files =
          (runUnder d s artifacts path w none).2.files) := by
  have hlog : ∀ fault, (runUnder d s artifacts path w fault).2.chain =
      ((execute d s artifacts).perform (w.withFault fault)).2.chain :=
    fun fault => run_chain d s artifacts path (w.withFault fault)
  cases execute_interruptible d s artifacts f w with
  | spared r w' es free_eq run_eq log files quiet accepted =>
      have hchain : (runUnder d s artifacts path w none).2.chain.log = w.chain.log ++ es := by
        rw [hlog, free_eq]
        exact log
      obtain ⟨r', w'', hfree, hrun, hclean⟩ :=
        runUnder_of_spared d s artifacts path free_eq run_eq accepted
      have hsame : (runUnder d s artifacts path w (some f)).2.chain.log =
          (runUnder d s artifacts path w none).2.chain.log := by
        rw [hfree, hrun]
        rfl
      refine ⟨es, hchain, ?_, ?_, fun hfires => absurd hfires quiet, fun _ => ?_⟩
      · exact hsame ▸ List.prefix_refl _
      · refine ⟨fun hfires => absurd hfires quiet, ?_⟩
        rintro ⟨kind, contract, name, hreverted⟩
        rw [hrun] at hreverted
        cases hclean _ hreverted
      · refine ⟨?_, hsame, ?_⟩
        · rw [hfree, hrun]
        · rw [hfree, hrun]
          rfl
  | stopped done e rest unfaulted log covered spent refused halted files =>
      have hfires : f.Fires (done ++ e :: rest) := Fault.fires_of_spent covered spent
      have hrun : runUnder d s artifacts path w (some f) =
          (.error (.reverted e.kind e.contract e.name),
            ((execute d s artifacts).perform (w.withFault (some f))).2) := by
        exact run_of_execute_eq_error (Prod.ext refused rfl)
      have hchain : (runUnder d s artifacts path w none).2.chain.log =
          w.chain.log ++ (done ++ e :: rest) := by
        rw [hlog]
        exact log
      rw [hrun, hchain]
      refine ⟨done ++ e :: rest, rfl, ?_, ?_, fun _ => ?_, fun hspared => absurd hfires hspared⟩
      · rw [halted]
        exact (List.prefix_append_right_inj _).mpr (List.prefix_append done _)
      · exact iff_of_true hfires ⟨_, _, _, rfl⟩
      · exact ⟨done, e, rest, rfl, covered, spent, rfl, halted, files⟩

end Pipeline

end Rollout

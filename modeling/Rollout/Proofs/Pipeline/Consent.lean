import Mathlib.Data.List.Basic
import Rollout.Proofs.Action.Answers
import Rollout.Proofs.Deployer.ZeroAddress
import Rollout.Proofs.Pipeline.Script

/-!
# A deployment that the operator consents to

A deployer that does not sign on its own asks before each transaction and before
each deployment. Apart from that it does what the signing one does, so a run with
questions is a run without them, up to the first question that is refused or
finds no answer.

Each question is about one entry (`LogEntry.questions`). Call data is made
without one; a transaction has one; a deployment has one, and another if the
address of zeros is among its arguments. In a deployment of the whole only the
proxy takes arguments, and one of them is an address that the chain gave out, so
the other question only comes up where the chain gives out zeros
(`Pipeline.flatMap_questions`).

The manifest is written when nothing is left to ask, and its writing depends on
the files alone. So where all questions are answered the files end alike as
well.

## Main results

* `Deployer.transact_attends`, `Deployer.deploy_attends`,
  `Deployer.deployProxy_attends`: the questions of the deployer's operations.
* `Pipeline.execute_attends`: those of all stages together.
* `Pipeline.asking_truncates`: how a run with questions ends.
-/

namespace Rollout

open Rollout.Action (Attends Deaf Told hear)

/-! ## The questions about an entry -/

/-- The questions about an entry, where every contract that is deployed with arguments has a
constructor with the given inputs. -/
def LogEntry.questions (inputs : List Input) (e : LogEntry) : List String :=
  match e.kind with
  | .encode => []
  | .transact => ["Continue"]
  | .deploy =>
      ("Deploy " ++ e.contract) ::
        if Action.hasZeroAddress (Arguments.constructorNamed 0 [] e.args inputs) then
          ["Zero Address detected for deployment parameter; Continue?"]
        else []

/-- The question about an entry that has no address of zeros among its arguments. -/
def LogEntry.question? (e : LogEntry) : Option String :=
  match e.kind with
  | .encode => none
  | .transact => some "Continue"
  | .deploy => some ("Deploy " ++ e.contract)

/-- Without an address of zeros there is one question about a transaction and about a deployment. -/
theorem LogEntry.questions_eq (inputs : List Input) {e : LogEntry}
    (h : e.kind = .deploy → .text zeroAddress ∉ e.args) :
    e.questions inputs = e.question?.toList := by
  unfold questions question?
  cases hkind : e.kind with
  | encode => rfl
  | transact => rfl
  | deploy =>
      have hzero : ¬Action.hasZeroAddress
          (Arguments.constructorNamed 0 [] e.args inputs) = true := by
        rw [Action.hasZeroAddress_iff]
        rintro ⟨name, hmem⟩
        exact h hkind (Arguments.mem_constructorNamed hmem)
      dsimp only
      rw [if_neg hzero]
      rfl

/-! ## The deployer's operations -/

namespace Deployer

variable (d : Deployer) (inputs : List Input)

/-- The same deployer, who signs without asking. -/
def signing : Deployer := { d with autosign := true }

/-- The same deployer, who asks. -/
def asking : Deployer := { d with autosign := false }

theorem methodOf_attends (t : ContractType) (method : String) :
    Attends (LogEntry.questions inputs) (methodOf t method) (methodOf t method) := by
  unfold methodOf
  cases t.method? method with
  | none => exact .throw _
  | some overloads => exact .pure _

theorem shortAddress_attends (c : Contract) :
    Attends (LogEntry.questions inputs) (shortAddress c) (shortAddress c) := by
  unfold shortAddress
  cases c.shortAddress? with
  | none => exact .throw _
  | some address => exact .pure _

/-- The operator is asked about a transaction once. -/
theorem transact_attends (c : Contract) (method : String) (args : List Value) :
    Attends (LogEntry.questions inputs) (d.signing.transact c method args)
      (d.asking.transact c method args) := by
  have hputs : Action.askContinue.Puts
      (LogEntry.questions inputs (.transact c.type.name method args)) := .ask _
  unfold transact
  refine .bind (methodOf_attends inputs _ _) fun overloads => ?_
  refine .bind (.ofExcept _) fun named => ?_
  refine .bind (shortAddress_attends inputs c) fun address => .bind (.say rfl) fun _ => ?_
  refine .consult_bind (Action.submit_submits _) hputs fun _ => .get_bind fun u w hsame => ?_
  rw [hsame.chain]
  exact .pure _

/-- The operator is asked about a deployment, and once more if an address of zeros is among its
arguments. -/
theorem deploy_attends (t : ContractType) (args : List Value)
    (h : args = [] ∨ t.constructor = inputs) :
    Attends (LogEntry.questions inputs) (d.signing.deploy t args) (d.asking.deploy t args) := by
  unfold deploy
  refine .ofExcept_bind fun named hnamed => ?_
  have hargs : named = Arguments.constructorNamed 0 [] args inputs := by
    have hown := (Arguments.forConstructor_eq_ok (Outcome.mapError_eq_ok.mp hnamed)).1
    rcases h with rfl | rfl
    · exact hown
    · exact hown
  have hputs : (Action.askDeployment t.name named).Puts
      (LogEntry.questions inputs (.deploy t.name args)) := by
    rw [hargs]
    exact .askDeployment _ _
  refine .consult_bind (Action.submitDeployment_submits _) hputs fun address => ?_
  exact .bind (.say rfl) fun _ => .pure _

/-- Call data is made without a question. -/
theorem encode_attends (c : Contract) (method : String) (args : List Value) :
    Attends (LogEntry.questions inputs) (d.signing.encode c method args)
      (d.asking.encode c method args) := by
  unfold encode
  refine .bind (methodOf_attends inputs _ _) fun overloads => ?_
  refine .bind (.ofExcept _) fun _ => ?_
  refine .bind (.submit (Action.submit_submits _) rfl) fun _ => .get_bind fun u w hsame => ?_
  rw [hsame.chain]
  exact .pure _

theorem deployProxy_attends (proxy target : ContractType) (implementation : Contract)
    (method : String) (args : List Value) (h : proxy.constructor = inputs) :
    Attends (LogEntry.questions inputs)
      (d.signing.deployProxy proxy target implementation method args)
      (d.asking.deployProxy proxy target implementation method args) := by
  unfold deployProxy
  refine .bind (d.encode_attends inputs _ _ _) fun data => .bind (.say rfl) fun _ => ?_
  refine .bind (d.deploy_attends inputs _ _ (.inr h)) fun deployed => ?_
  exact .bind (.say rfl) fun _ => .pure _

end Deployer

/-! ## Roles -/

namespace Role

variable (d : Deployer) (inputs : List Input) (core : Contract)

theorem identifier_attends {getter : String} (h : getter ∈ roleGetters) :
    Attends (LogEntry.questions inputs) (identifier core getter) (identifier core getter) := by
  unfold identifier
  refine .get_bind fun u w hsame => ?_
  rw [hsame.chain, method?_of_mem_roleGetters core.type h]
  cases w.chain.roleId? getter with
  | none => exact .throw _
  | some id => exact .pure _

theorem callEach_attends (method : String) (ids : List Value) (account : Value) :
    Attends (LogEntry.questions inputs) (callEach d.signing core method ids account)
      (callEach d.asking core method ids account) := by
  unfold callEach
  exact .forM ids fun id _ => .bind (d.transact_attends inputs _ _ _) fun _ => .pure _

theorem transfer_attends (role : Role) (recipient holder : Value)
    (h : ∀ g ∈ role.getters, g ∈ roleGetters) :
    Attends (LogEntry.questions inputs) (transfer d.signing core role recipient holder)
      (transfer d.asking core role recipient holder) := by
  unfold transfer
  refine .bind (.say rfl) fun _ => ?_
  refine .bind (.mapM _ fun g hg => identifier_attends inputs core (h g hg)) fun ids => ?_
  refine .bind (callEach_attends d inputs core _ _ _) fun _ => ?_
  exact callEach_attends d inputs core _ _ _

theorem migrate_attends (recipients : Recipients) (holder : Value) :
    Attends (LogEntry.questions inputs) (migrate d.signing core recipients holder)
      (migrate d.asking core recipients holder) := by
  have hone : ∀ p ∈ withRecipients recipients, Attends (LogEntry.questions inputs)
      (migrateOne d.signing core p.1 p.2 holder) (migrateOne d.asking core p.1 p.2 holder) := by
    intro p hp
    unfold migrateOne
    by_cases hempty : p.2.isEmpty = true
    · rw [if_pos hempty, if_pos hempty]
      exact .bind (.say rfl) fun _ => .pure _
    · rw [if_neg hempty, if_neg hempty]
      exact .bind (transfer_attends d inputs core _ _ _ (getters_subset hp)) fun _ => .pure _
  unfold migrate
  exact .bind (.mapM _ hone) fun _ => .pure _

end Role

theorem configureVerifier_attends (d : Deployer) (inputs : List Input) (core : Contract)
    (verifier key : Value) :
    Attends (LogEntry.questions inputs) (configureVerifier d.signing core verifier key)
      (configureVerifier d.asking core verifier key) := by
  unfold configureVerifier
  refine .bind (.say rfl) fun _ => ?_
  exact .bind (d.transact_attends inputs _ _ _) fun _ => .pure _

/-! ## The manifest -/

namespace Manifest

theorem finish_deaf (m : Manifest) (path : Path) : (finish m path).Deaf := by
  unfold finish
  refine .bind (.of_perform
    (fun files => ((files.draftPlace path).map fun _ => ()).mapError .file) id
    (perform_checkDraft path)) fun _ => ?_
  cases m.text with
  | error e => exact .throw _
  | ok text =>
      refine .bind (.of_perform
        (fun files => ((files.replace path (Text.encode text)).map fun _ => ()).mapError .file)
        (fun files => (files.replace path (Text.encode text)).toOption.getD files)
        (perform_put path text)) fun _ => ?_
      exact .say rfl

/-- Nobody is asked about the manifest, and nothing but the files matters to it. -/
theorem write_deaf (m : Manifest) (path : Path) : (m.write path).Deaf := by
  rw [write_eq]
  refine .bind (.of_perform (fun files => (files.ensureDirectory path.parent).1.mapError .file)
    (fun files => (files.ensureDirectory path.parent).2) (perform_makeParent path)) fun _ => ?_
  refine .bind (.of_perform (fun files => (files.contains path).mapError .file) id
    (perform_isTaken path)) fun taken => ?_
  cases taken with
  | true => exact .bind (.say rfl) fun _ => finish_deaf m path
  | false => exact finish_deaf m path

end Manifest

namespace Pipeline

variable (d : Deployer) (s : Settings) (artifacts : Artifacts)

/-! ## The stages -/

/-- The questions about an entry of a deployment: only its proxy takes arguments. -/
def questions (artifacts : Artifacts) : LogEntry → List String :=
  LogEntry.questions (artifacts .proxy).constructor

theorem deployMock_attends (k : ContractKind) :
    Attends (questions artifacts) (deployMock d.signing artifacts k)
      (deployMock d.asking artifacts k) := by
  unfold deployMock
  exact .bind (d.deploy_attends _ _ _ (.inl rfl)) fun _ => .pure _

theorem provisionOthers_attends :
    Attends (questions artifacts) (provisionOthers d.signing s artifacts)
      (provisionOthers d.asking s artifacts) := by
  unfold provisionOthers
  by_cases hmocks : s.mockDependencies = true
  · rw [if_pos hmocks, if_pos hmocks]
    refine .bind (deployMock_attends d artifacts _) fun usdt => ?_
    refine .bind (deployMock_attends d artifacts _) fun pool => ?_
    exact .bind (deployMock_attends d artifacts _) fun router => .pure _
  · rw [if_neg hmocks, if_neg hmocks]
    exact .pure _

theorem provisionVerifier_attends (found : Dependencies) :
    Attends (questions artifacts) (provisionVerifier d.signing s artifacts found)
      (provisionVerifier d.asking s artifacts found) := by
  unfold provisionVerifier
  by_cases hmock : s.mockVerifier = true
  · rw [if_pos hmock, if_pos hmock]
    exact .bind (deployMock_attends d artifacts _) fun _ => .pure _
  · rw [if_neg hmock, if_neg hmock]
    exact .pure _

theorem provision_attends :
    Attends (questions artifacts) (provision d.signing s artifacts)
      (provision d.asking s artifacts) := by
  rw [provision_eq, provision_eq]
  exact .bind (provisionOthers_attends d s artifacts) (provisionVerifier_attends d s artifacts)

theorem deployCore_attends (deps : Dependencies) :
    Attends (questions artifacts) (deployCore d.signing artifacts deps)
      (deployCore d.asking artifacts deps) := by
  unfold deployCore
  refine .bind (d.deploy_attends _ _ _ (.inl rfl)) fun implementation => ?_
  exact .bind (d.deployProxy_attends _ _ _ _ _ _ rfl) fun _ => .pure _

/-- In everything but the writing of the manifest the asking deployer does as the signing one. -/
theorem execute_attends :
    Attends (questions artifacts) (execute d.signing s artifacts)
      (execute d.asking s artifacts) := by
  unfold execute
  refine .bind (provision_attends d s artifacts) fun deps => ?_
  refine .bind (deployCore_attends d artifacts deps) fun made => ?_
  refine .bind (Role.migrate_attends d _ _ _ _) fun _ => ?_
  refine .bind (configureVerifier_attends d _ _ _ _) fun _ => ?_
  exact .ofExcept _

/-- A deployment in the plan takes nothing, or the address of the implementation and call data. -/
theorem args_of_mem_plan {c : Chain} {deployer : Value} {e : LogEntry}
    (he : e ∈ plan artifacts s c deployer) (hkind : e.kind = .deploy) :
    e.args = [] ∨ ∃ data, e.args = [implementationAddress s c, .bytes data] := by
  simp only [plan, mockPlan, corePlan, List.mem_append, List.mem_map, List.mem_cons,
    List.not_mem_nil, or_false] at he
  rcases he with ⟨k, -, rfl⟩ | (rfl | rfl | rfl) | he | rfl
  · exact .inl rfl
  · exact .inl rfl
  · cases hkind
  · exact .inr ⟨_, rfl⟩
  · obtain ⟨p, -, i, -, rfl | rfl⟩ := Role.mem_handovers.mp he
    · cases hkind
    · cases hkind
  · cases hkind

/-- On a chain that gives nobody the address of zeros there is one question about each transaction
and each deployment. -/
theorem flatMap_questions {c : Chain} {deployer : Value} {es : List LogEntry}
    (hes : es <+: plan artifacts s c deployer) (hc : ∀ n, c.addressOf n ≠ zeroAddress) :
    es.flatMap (questions artifacts) = es.filterMap LogEntry.question? := by
  rw [List.filterMap_eq_flatMap_toList]
  refine List.flatMap_congr fun e he => ?_
  refine LogEntry.questions_eq _ fun hkind => ?_
  rcases args_of_mem_plan s artifacts (hes.subset he) hkind with hargs | ⟨data, hargs⟩
  · rw [hargs]
    nofun
  · rw [hargs, List.mem_cons, List.mem_singleton]
    rintro (hzero | hdata)
    · exact hc _ (Value.text.inj hzero).symm
    · cases hdata

/-! ## The whole -/

/-- A run by the deployer who signs. -/
def signingRun (path : Path) (w : World) : Except Failure Manifest × World :=
  (run d.signing s artifacts path).perform w

/-- A run by the deployer who asks. -/
def askingRun (path : Path) (w : World) : Except Failure Manifest × World :=
  (run d.asking s artifacts path).perform w

/-- On a chain that gives nobody the address of zeros there is one question about each transaction
and each deployment of a run. -/
theorem signingRun_questions {path : Path} {w : World} {es : List LogEntry}
    (hlog : (signingRun d s artifacts path w).2.chain.log = w.chain.log ++ es)
    (hc : ∀ n, w.chain.addressOf n ≠ zeroAddress) :
    es.flatMap (questions artifacts) = es.filterMap LogEntry.question? := by
  have hchain : (signingRun d s artifacts path w).2.chain =
      ((execute d.signing s artifacts).perform w).2.chain :=
    run_chain d.signing s artifacts path w
  obtain ⟨es', hplan, hacc, -⟩ := (execute_follows_plan d.signing s artifacts w).exists_part
  rw [hchain, hacc.log] at hlog
  obtain rfl := List.append_cancel_left hlog
  exact flatMap_questions s artifacts hplan hc

/-- What comes after all stages does not ask. -/
theorem record_deaf (m : Manifest) (path : Path) :
    (do m.write path; return m : Action Manifest).Deaf :=
  .bind (m.write_deaf path) fun _ => .pure m

/-- Runs whose stages end alike, with all questions answered, end alike. -/
theorem run_of_agreed {path : Path} {w : World} {qs : List String}
    (hresult : ((execute d.asking s artifacts).perform w).1 =
      ((execute d.signing s artifacts).perform w).1)
    (hfiles : ((execute d.asking s artifacts).perform w).2.files =
      ((execute d.signing s artifacts).perform w).2.files)
    (htold : Told w ((execute d.asking s artifacts).perform w).2 (hear w.input qs))
    (hunstopped : (hear w.input qs).stop? = none) :
    (askingRun d s artifacts path w).1 = (signingRun d s artifacts path w).1 ∧
      (askingRun d s artifacts path w).2.files = (signingRun d s artifacts path w).2.files ∧
      Told w (askingRun d s artifacts path w).2 (hear w.input qs) := by
  unfold askingRun signingRun run
  rw [Action.perform_bind, Action.perform_bind]
  generalize (execute d.asking s artifacts).perform w = asking at hresult hfiles htold ⊢
  generalize (execute d.signing s artifacts).perform w = signing at hresult hfiles ⊢
  obtain ⟨r', w₁⟩ := asking
  obtain ⟨r, u₁⟩ := signing
  obtain rfl : r' = r := hresult
  cases r' with
  | error f => exact ⟨rfl, hfiles, htold⟩
  | ok m =>
      have hdeaf := record_deaf m path
      refine ⟨hdeaf.result _ _ hfiles, hdeaf.files _ _ hfiles, ?_⟩
      have hend := htold.trans hunstopped (hdeaf.told w₁)
      rwa [List.append_nil] at hend

/-- **Asking only cuts a deployment short.** Let a run go once with a deployer who signs and once,
from the same world, with one who asks. The asking run puts the questions about the entries of the
signing run, in their order, and each takes a line of the input. If all are answered and none is
refused, the runs end alike, with the same log and the same files. Otherwise the asking run fails
with the refusal or with the end of the input; its log ends just before the entry that the question
was about, and the files are as they were. There is one question about each transaction and each
deployment, unless the chain gives a contract the address of zeros: then there is one more. -/
theorem asking_truncates (path : Path) {w : World} (hnone : w.chain.fault = none) :
    ∃ es, (signingRun d s artifacts path w).2.chain.log = w.chain.log ++ es ∧
      (askingRun d s artifacts path w).2.chain.log <+:
        (signingRun d s artifacts path w).2.chain.log ∧
      (askingRun d s artifacts path w).2.asked =
        w.asked ++ (hear w.input (es.flatMap (questions artifacts))).asked ∧
      (askingRun d s artifacts path w).2.input =
        (hear w.input (es.flatMap (questions artifacts))).left ∧
      ((hear w.input (es.flatMap (questions artifacts))).stop? = none →
        (askingRun d s artifacts path w).1 = (signingRun d s artifacts path w).1 ∧
        (askingRun d s artifacts path w).2.chain.log =
          (signingRun d s artifacts path w).2.chain.log ∧
        (askingRun d s artifacts path w).2.files =
          (signingRun d s artifacts path w).2.files) ∧
      (∀ f, (hear w.input (es.flatMap (questions artifacts))).stop? = some f →
        (askingRun d s artifacts path w).1 = .error f ∧
        (askingRun d s artifacts path w).2.files = w.files ∧
        ∃ done e rest, es = done ++ e :: rest ∧
          (askingRun d s artifacts path w).2.chain.log = w.chain.log ++ done ∧
          (hear w.input (done.flatMap (questions artifacts))).stop? = none ∧
          (hear w.input ((done ++ [e]).flatMap (questions artifacts))).stop? = some f) ∧
      ((∀ n, w.chain.addressOf n ≠ zeroAddress) →
        es.flatMap (questions artifacts) = es.filterMap LogEntry.question?) := by
  have hsigned : (signingRun d s artifacts path w).2.chain =
      ((execute d.signing s artifacts).perform w).2.chain :=
    run_chain d.signing s artifacts path w
  have hasked : (askingRun d s artifacts path w).2.chain =
      ((execute d.asking s artifacts).perform w).2.chain :=
    run_chain d.asking s artifacts path w
  cases execute_attends d s artifacts w w (.refl w) hnone with
  | agreed es result chain log unfaulted signed files told unstopped =>
      have hlog : (signingRun d s artifacts path w).2.chain.log = w.chain.log ++ es := by
        rw [hsigned]
        exact log
      have hsame : (askingRun d s artifacts path w).2.chain.log =
          (signingRun d s artifacts path w).2.chain.log := by
        rw [hasked, hsigned, chain]
      obtain ⟨hresult, hfiles, htold⟩ :=
        run_of_agreed d s artifacts result (files.trans signed.symm) told unstopped
      refine ⟨es, hlog, ?_, htold.asked, htold.input, fun _ => ⟨hresult, hsame, hfiles⟩, ?_,
        signingRun_questions d s artifacts hlog⟩
      · exact ⟨[], by rw [List.append_nil, hsame]⟩
      · intro f hf
        rw [unstopped] at hf
        cases hf
  | stopped done e rest f log unfaulted result halted files told unstopped stop =>
      have hlog : (signingRun d s artifacts path w).2.chain.log =
          w.chain.log ++ (done ++ e :: rest) := by
        rw [hsigned]
        exact log
      have hrun : askingRun d s artifacts path w =
          (.error f, ((execute d.asking s artifacts).perform w).2) :=
        run_of_execute_eq_error (Prod.ext result rfl)
      have hheard : hear w.input ((done ++ e :: rest).flatMap (questions artifacts)) =
          hear w.input ((done ++ [e]).flatMap (questions artifacts)) :=
        Action.hear_flatMap_of_stop stop rest
      refine ⟨done ++ e :: rest, hlog, ?_, ?_, ?_, ?_, ?_, signingRun_questions d s artifacts hlog⟩
      · rw [hlog, hrun]
        show ((execute d.asking s artifacts).perform w).2.chain.log <+: _
        rw [halted]
        exact (List.prefix_append_right_inj _).mpr (List.prefix_append done _)
      · rw [hheard, hrun]
        exact told.asked
      · rw [hheard, hrun]
        exact told.input
      · rw [hheard, stop]
        nofun
      · intro f' hf'
        rw [hheard, stop] at hf'
        cases hf'
        rw [hrun]
        exact ⟨rfl, files, done, e, rest, rfl, halted, unstopped, stop⟩

/-- The fresh world with an operator who lets two contracts pass and refuses the third. -/
def hesitant : World := { World.fresh with input := "y\n\n N \ny".toList }

theorem asking_truncates_for_hesitant_operator :
    hesitant.chain.fault = none ∧ ∃ done e rest,
      (signingRun .standard .standard .standard .standard hesitant).2.chain.log =
        done ++ e :: rest ∧
      (askingRun .standard .standard .standard .standard hesitant).1 = .error .aborted ∧
      (askingRun .standard .standard .standard .standard hesitant).2.chain.log = done ∧
      (askingRun .standard .standard .standard .standard hesitant).2.files = hesitant.files ∧
      done.length = 2 ∧
      (askingRun .standard .standard .standard .standard hesitant).2.asked =
        ["Deploy MockUSDT", "Deploy MockSpokePool", "Deploy MockAggregationRouter"] := by
  have hsigned : (signingRun .standard .standard .standard .standard hesitant).1.isOk = true := by
    decide +kernel
  have haborted :
      (askingRun .standard .standard .standard .standard hesitant).1 = .error .aborted := by
    have hstops : (Outcome.error?
        (askingRun .standard .standard .standard .standard hesitant).1).any Failure.isAborted =
        true := by
      decide +kernel
    obtain ⟨f, hf, habort⟩ := Outcome.exists_eq_error hstops
    rw [hf, Failure.eq_aborted habort]
  have hlength :
      (askingRun .standard .standard .standard .standard hesitant).2.chain.log.length = 2 := by
    decide +kernel
  obtain ⟨es, hlog, -, -, -, hagreed, hstopped, -⟩ :=
    asking_truncates .standard .standard .standard .standard (w := hesitant) rfl
  cases hstop : (hear hesitant.input (es.flatMap (questions .standard))).stop? with
  | none =>
      rw [← (hagreed hstop).1, haborted] at hsigned
      cases hsigned
  | some f =>
      obtain ⟨-, hfiles, done, e, rest, rfl, hdone, -, -⟩ := hstopped f hstop
      have hdone : (askingRun .standard .standard .standard .standard hesitant).2.chain.log =
          done := hdone
      rw [hdone] at hlength
      exact ⟨rfl, done, e, rest, hlog, haborted, hdone, hfiles, hlength, by decide +kernel⟩

end Pipeline

end Rollout

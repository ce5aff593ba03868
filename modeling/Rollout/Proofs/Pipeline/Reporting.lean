import Rollout.Proofs.Deployer.Reporting

/-!
# The account that a deployment gives of itself

A run that fails writes no manifest, so what it has printed is all that tells
which contracts are on the chain and which transactions have been sent. With the
standard contracts and a deployer that signs on its own, the printed lines about
deployments are exactly those of the log with the addresses that the chain
assigned, and the printed blocks about transactions are those of the log, with
at most one more at the end: the one that the chain refused.

The addresses of the chain have to be addresses, and the path of the manifest
has to stay on its line; all else that is printed comes from the settings or has
been encoded.

## Main results

* `Pipeline.execute_reports`: all that comes before the manifest.
* `Pipeline.run_accounts`: what can be read off the output of any run.
-/

namespace Rollout

open Text (IsLine)
open Rollout.Action (Pending Reports TellsOnly)

/-- The block that announces a transaction with a contract. -/
def Contract.block (c : Contract) (e : LogEntry) : List String :=
  Transcript.transactionBlock e.contract c.beginning e.name (c.namedArgs e)

/-- Two things are told of a manifest. -/
theorem Manifest.write_tellsOnly {P : Notice → Prop} (m : Manifest) {path : Path}
    (hover : P (.overwritingManifest path.text)) (hwritten : P (.manifestWritten path.text))
    (w : World) : (m.write path).TellsOnly P w := by
  have hfinish : ∀ w, (finish m path).TellsOnly P w := by
    intro w
    unfold finish
    refine .bind (.of_keeps (checkDraft_keeps path w)) fun _ w₁ => ?_
    cases m.text with
    | error e => exact .throw _
    | ok text =>
        exact .bind (.of_keeps (put_keeps (fun _ _ => rfl) path text w₁)) fun _ _ => .say hwritten
  rw [write_eq]
  refine .bind (.of_keeps (makeParent_keeps (fun _ _ => rfl) path w)) fun _ w₁ => ?_
  refine .bind (.of_keeps (isTaken_keeps path w₁)) fun taken w₂ => ?_
  cases taken with
  | true => exact .bind (.say hover) fun _ w₃ => hfinish w₃
  | false => exact hfinish w₂

namespace Pipeline

variable {d : Deployer} {s : Settings} {core : Contract} {w : World}

/-! ## The stages -/

section

variable (hsigns : d.autosign = true)

include hsigns

theorem deployMock_reports (hw : w.chain.GivesAddresses) (k : ContractKind) :
    (deployMock d .standard k).Reports core w [.deploy (Artifacts.standard k).name []] := by
  unfold deployMock
  exact .bind_quiet (Deployer.deploy_reports hsigns hw k []) fun _ _ _ _ => .pure _

theorem provisionOthers_reports (hw : w.chain.GivesAddresses) :
    (provisionOthers d s .standard).Reports core w (otherPlan .standard s) := by
  unfold provisionOthers otherPlan
  split
  · refine .bind (deployMock_reports hsigns hw _) fun _ w₁ _ h₁ => ?_
    have hw₁ := h₁.givesAddresses hw
    refine .bind (deployMock_reports hsigns hw₁ _) fun _ w₂ _ h₂ => ?_
    have hw₂ := h₂.givesAddresses hw₁
    exact .bind_quiet (deployMock_reports hsigns hw₂ _) fun _ _ _ _ => .pure _
  · exact .pure _

theorem provisionVerifier_reports (hw : w.chain.GivesAddresses) (found : Dependencies) :
    (provisionVerifier d s .standard found).Reports core w (verifierPlan .standard s) := by
  unfold provisionVerifier verifierPlan
  split
  · exact .bind_quiet (deployMock_reports hsigns hw _) fun _ _ _ _ => .pure _
  · exact .pure _

theorem provision_reports (hw : w.chain.GivesAddresses) :
    (provision d s .standard).Reports core w (mockPlan .standard s) := by
  rw [provision_eq, mockPlan_eq]
  refine .bind (provisionOthers_reports hsigns hw) fun found w₁ _ h₁ => ?_
  exact provisionVerifier_reports hsigns (h₁.givesAddresses hw) found

theorem deployCore_reports (hw : w.chain.GivesAddresses) (deps : Dependencies) :
    (deployCore d .standard deps).Reports core w
      (corePlan .standard w.chain deps (w.chain.nextAddress 0)) := by
  have hplan : corePlan .standard w.chain deps (w.chain.nextAddress 0) =
      [.deploy (Artifacts.standard .core).name []] ++
        [.encode (Artifacts.standard .core).name initializer (initialArgs deps),
         .deploy (Artifacts.standard .proxy).name
           [w.chain.nextAddress 0,
            .bytes (initialData w.chain (Artifacts.standard .core).name deps)]] := rfl
  rw [hplan]
  unfold deployCore
  refine .bind (Deployer.deploy_reports hsigns hw _ _) fun implementation w₁ hr h₁ => ?_
  obtain ⟨-, rfl⟩ := (d.deploy_follows _ _).of_ok hr
  rw [← initialData_accepts h₁]
  exact .bind_quiet (Deployer.deployProxy_reports hsigns (h₁.givesAddresses hw) _ _ _ _ _)
    fun _ _ _ _ => .pure _

end

/-- Everything that a deployment submits is told. -/
theorem execute_reports (hsigns : d.autosign = true) (hadmits : d.admits = encodable)
    (hw : w.chain.GivesAddresses)
    (hrecipients : ∀ p ∈ Role.withRecipients s.recipients, p.2.IsAddressOrNull) :
    (execute d s .standard).Reports (coreContract .standard (proxyAddress s w.chain)) w
      (plan .standard s w.chain (.text d.address)) := by
  have hcore : (coreContract .standard (proxyAddress s w.chain)).IsCore :=
    ⟨rfl, hw.isAddress _⟩
  unfold execute plan
  refine .bind (provision_reports hsigns hw) fun deps w₁ hr h₁ => ?_
  obtain ⟨-, rfl⟩ := (provision_follows d s .standard w).of_ok hr
  have hw₁ := h₁.givesAddresses hw
  rw [← nextAddress_one_of_mockPlan h₁] at hcore ⊢
  rw [← nextAddress_of_mockPlan h₁, ← corePlan_accepts h₁]
  refine .bind (deployCore_reports hsigns hw₁ _) fun made w₂ hr h₂ => ?_
  obtain ⟨-, rfl, -⟩ := (deployCore_follows d .standard w₁ _).of_ok hr
  have hids : w₂.chain.idOf = w.chain.idOf := (h₁.trans h₂).idOf
  rw [← hids]
  refine .bind (Role.migrate_reports hsigns hadmits hcore hrecipients _ w₂) fun _ w₃ _ _ => ?_
  refine .bind_quiet (configureVerifier_reports hsigns hadmits hcore _ _) fun _ w₄ _ _ => ?_
  have hfails : (Action.ofExcept (Manifest.build s
      (coreContract .standard (w₁.chain.nextAddress 1))
      (coreContract .standard (w₁.chain.nextAddress 0)) (s.wiring w.chain)
      (.text d.address))).FailsOnly w₄ fun f => f.isRefusal = false := by
    refine .ofExcept fun f hf => ?_
    obtain ⟨field, rfl⟩ := Manifest.build_eq_error hf
    rfl
  exact .of_follows (.ofExcept _) (.ofExcept _) hfails nofun nofun

/-! ## The output of a run -/

/-- What is told of the manifest is not about the chain, so a run tells what its stages tell. -/
theorem run_reports (hsigns : d.autosign = true) (hadmits : d.admits = encodable)
    (hw : w.chain.GivesAddresses)
    (hrecipients : ∀ p ∈ Role.withRecipients s.recipients, p.2.IsAddressOrNull) {path : Path}
    (hpath : IsLine path.text) :
    ∃ done further told, done ++ further <+: plan .standard s w.chain (.text d.address) ∧
      ((run d s .standard path).perform w).2.chain.log = w.chain.log ++ done ∧
      ((run d s .standard path).perform w).2.notices = w.notices ++ told ∧
      w.chain.ToldBy (coreContract .standard (proxyAddress s w.chain)) done further told ∧
      Pending ((run d s .standard path).perform w).1 further := by
  obtain ⟨done, further, told, hplan, hreports, -, hpending⟩ :=
    execute_reports hsigns hadmits hw hrecipients
  rw [run_chain]
  rcases hr : (execute d s .standard).perform w with ⟨r, w₁⟩
  rw [hr] at hreports hpending
  cases r with
  | error f =>
      rw [run_of_execute_eq_error hr]
      exact ⟨done, further, told, hplan, hreports.accepts.log, hreports.notices,
        hreports.toToldBy, hpending⟩
  | ok m =>
      obtain rfl := hpending.eq_nil_of_ok
      have hover : (Notice.overwritingManifest path.text).IsAside := ⟨hpath, rfl, rfl⟩
      have hwritten : (Notice.manifestWritten path.text).IsAside := ⟨hpath, rfl, rfl⟩
      have hend : (do m.write path; return m : Action Manifest).TellsOnly Notice.IsAside w₁ :=
        .bind (m.write_tellsOnly hover hwritten w₁) fun _ _ => .of_keeps (.pure m)
      obtain ⟨asides, hnotices, hasides⟩ := hend
      have hfails : (do m.write path; return m : Action Manifest).FailsOnly w₁
          fun f => f.isRefusal = false :=
        .bind_pure (m.write_failsOnly (.inr fun _ => rfl) (.inr fun e => by cases e <;> rfl))
      have hrun : (run d s .standard path).perform w =
          (do m.write path; return m : Action Manifest).perform w₁ := by
        rw [run, Action.perform_bind, hr]
      refine ⟨done, [], told ++ asides, hplan, hreports.accepts.log, ?_,
        hreports.toToldBy.append hasides, ?_⟩
      · rw [hrun, hnotices, hreports.notices, List.append_assoc]
      · rw [hrun]
        exact .settled hfails

/-- **The output accounts for the chain.** Whatever becomes of a run with the standard contracts and
a deployer that signs on its own, the lines about deployments that it printed are those of the
entries that the log has grown by, each with the name of the contract and the address that the chain
assigned. The blocks about transactions are those of these entries; if the chain refused a
transaction, there is one more, the last, which is about this transaction. -/
theorem run_accounts [Address.CaseRule] (hs : s.IsResolved) (hsigns : d.autosign = true)
    (hadmits : d.admits = encodable) (hw : w.chain.GivesAddresses) {path : Path}
    (hpath : IsLine path.text) :
    ∃ es further told, es ++ further <+: script s w.chain (.text d.address) ∧
      ((run d s .standard path).perform w).2.chain.log = w.chain.log ++ es ∧
      ((run d s .standard path).perform w).2.notices = w.notices ++ told ∧
      Transcript.deployments (transcript told) =
        (w.chain.deployments es).map
          (fun p => Transcript.deploymentLine p.1.contract p.2.shown) ∧
      Transcript.transactions (transcript told) =
        (es.filter LogEntry.isTransaction ++ further).map
          (coreContract .standard (proxyAddress s w.chain)).block ∧
      Pending ((run d s .standard path).perform w).1 further := by
  obtain ⟨es, further, told, hplan, hlog, hnotices, htold, hpending⟩ :=
    run_reports hsigns hadmits hw hs.isAddressOrNull hpath
  rw [plan_eq_script Artifacts.standard_name] at hplan
  refine ⟨es, further, told, hplan, hlog, hnotices, ?_, ?_, hpending⟩
  · rw [Transcript.deployments_transcript htold.clear, htold.deployed, List.map_map]
    rfl
  · rw [Transcript.transactions_transcript htold.clear, htold.announced, List.map_map]
    rfl

/-! ## A run that the chain stops -/

/-- A world whose chain lets one role be revoked and then no other. -/
def refusingWorld : World :=
  { World.fresh with
    chain := { Chain.fresh with fault := some ⟨.transact, none, some "revokeRole", 1⟩ } }

/-- A run that the chain stops at the second revocation has printed the six deployments, the three
transactions that the chain took, and the one that it refused. -/
theorem run_accounts_for_refusal :
    Settings.standard.IsResolved ∧ Deployer.standard.autosign = true ∧
    Deployer.standard.admits = encodable ∧ refusingWorld.chain.GivesAddresses ∧
    IsLine Path.standard.text ∧
    ∃ told,
      ((run .standard .standard .standard .standard).perform refusingWorld).2.notices = told ∧
      (Transcript.deployments (transcript told)).length = 6 ∧
      (Transcript.transactions (transcript told)).length = 4 := by
  have hw : refusingWorld.chain.GivesAddresses := Chain.fresh_givesAddresses
  have hpath : IsLine Path.standard.text := by decide
  obtain ⟨es, further, told, -, hlog, hnotices, hdeployments, htransactions, hpending⟩ :=
    run_accounts (d := .standard) (w := refusingWorld) Settings.standard_isResolved rfl rfl hw hpath
  have hrun : (Outcome.error?
      ((run .standard .standard .standard .standard).perform refusingWorld).1).any
        Failure.isRefusal = true ∧
      (((run .standard .standard .standard .standard).perform refusingWorld).2.chain.log.filter
        LogEntry.isDeployment).length = 6 ∧
      (((run .standard .standard .standard .standard).perform refusingWorld).2.chain.log.filter
        LogEntry.isTransaction).length = 3 := by
    decide +kernel
  obtain ⟨hrefused, hsix, hthree⟩ := hrun
  obtain ⟨f, hf, hrefusal⟩ := Outcome.exists_eq_error hrefused
  rw [hf] at hpending
  rw [show _ = es from hlog] at hsix hthree
  refine ⟨Settings.standard_isResolved, rfl, rfl, hw, hpath, told, hnotices, ?_, ?_⟩
  · rw [hdeployments, List.length_map, Chain.deployments, List.length_map, List.length_zipIdx,
      hsix]
  · rw [htransactions, List.length_map, List.length_append, hthree, hpending.length_eq_one hrefusal]

end Pipeline

end Rollout

import Rollout.Operation
import Rollout.Proofs.Action.Vetting
import Rollout.Proofs.CommandLine.Refusals
import Rollout.Proofs.Pipeline.Failing

/-!
# Nothing is submitted that an interface does not admit

Operations can be carried out in any order, on any contracts and with any
arguments, and they go on after a failure. Whatever comes of them, each submits
a part of a list that is known when it starts (`Operation.submissions`), and
everything that is submitted was held against the interface of its contract
before. An operation that fails for invalid arguments has come to a submission
that its contract does not take, and has not made it.

There are three ways to the chain: a transaction, a deployment, and the call
data of a proxy. The call data is matched with the implementation's method, and
again, as bytes, with the proxy's constructor.

A fourth is not meant to be one. The getters of a role are only read, so they
are called without a look at their overloads. But a role can be made up of any
names, and a name that the chain does not know as a getter may be a method of
the contract. Calling it leaves a transaction without arguments.

## Main results

* `Deployer.transact_vets`, `Deployer.deploy_vets`, `Deployer.deployProxy_vets`,
  `Role.transfer_vets`: the deployer's operations and the handover of a role.
* `Operation.submits`: what one operation submits.
* `Operation.performAll_admitted`: what any number of operations submit.
* `Operation.transfer_submits_unmatched`: a getter that is a method.
-/

namespace Rollout

open Rollout.Action (Vets)

/-! ## The deployer's operations -/

namespace Deployer

variable (d : Deployer) {w : World}

/-- Arguments are matched with a method before anything is submitted with them. -/
theorem match_bind {α : Type} {t : ContractType} {method : String} {args : List Value}
    {s : Submission} {subs : List Submission} {g : List Overload → NamedArgs → Action α}
    (hs : s.Fits d.admits → t.HasOverload d.admits method args)
    (hg : ∀ overloads named, t.HasOverload d.admits method args →
      (g overloads named).Vets d.admits w (s :: subs)) :
    (do
      let overloads ← methodOf t method
      let named ← d.methodArgs overloads args
      g overloads named).Vets d.admits w (s :: subs) := by
  unfold methodOf
  cases hm : t.method? method with
  | none => exact .quiet_bind (.throw id) fun _ _ h => by cases h
  | some overloads =>
      show (d.methodArgs overloads args >>= g overloads).Vets d.admits w (s :: subs)
      apply Vets.check_bind
      · intro named hnamed
        exact hg overloads named ⟨overloads, hm, Arguments.exists_of_forMethod hnamed⟩
      · intro f hf hmismatch hfits
        obtain ⟨overloads', hm', o, ho, hlen, hall⟩ := hs hfits
        rw [hm] at hm'
        cases hm'
        exact Arguments.not_allAdmitted_of_forMethod hf hmismatch o ho hlen hall

theorem shortAddress_vets (c : Contract) : (shortAddress c).Vets d.admits w [] := by
  unfold shortAddress
  split
  · exact .pure _
  · exact .throw id

theorem transact_vets (c : Contract) (method : String) (args : List Value) :
    (d.transact c method args).Vets d.admits w [.transact c.type method args] := by
  unfold transact
  apply d.match_bind id
  intro overloads named hfits
  apply Vets.quiet_bind (d.shortAddress_vets c)
  intro address w₁ _
  apply Vets.quiet_bind (.say _)
  intro _ w₂ _
  apply Vets.askIf_bind (.ask _)
  intro w₃
  apply Vets.bind_quiet (.submit (s := .transact c.type method args) rfl hfits)
  intro _ w₄ _
  exact .get_bind (.pure _)

theorem deploy_vets (t : ContractType) (args : List Value) :
    (d.deploy t args).Vets d.admits w [.deploy t args] := by
  unfold deploy
  apply Vets.check_bind
  · intro named hnamed
    have hfits : (Submission.deploy t args).Fits d.admits :=
      (Arguments.forConstructor_eq_ok hnamed).2
    apply Vets.askIf_bind (.askDeployment _ _)
    intro w₁
    apply Vets.bind_quiet (.submitDeployment (s := .deploy t args) rfl hfits)
    intro address w₂ _
    exact .quiet_bind (.say _) fun _ _ _ => .pure _
  · intro f hf _ hfits
    have hmatched : ∃ named,
        Arguments.forConstructor d.admits t.name t.constructor args = .ok named :=
      Arguments.exists_forConstructor hfits.1 hfits.2
    obtain ⟨named, hnamed⟩ := hmatched
    rw [hnamed] at hf
    cases hf

theorem encode_vets (c : Contract) (method : String) (args : List Value) :
    (d.encode c method args).Vets d.admits w [.encode c.type method args] := by
  unfold encode
  apply d.match_bind id
  intro overloads named hfits
  exact .bind_quiet (.submit (s := .encode c.type method args) rfl hfits) fun _ _ _ =>
    .get_bind (.pure _)

/-- The call data of a proxy, and the deployment that carries it. -/
def proxySubmissions (c : Chain) (proxy : ContractType) (implementation : Contract)
    (method : String) (args : List Value) : List Submission :=
  [.encode implementation.type method args,
   .deploy proxy
     [implementation.address,
      .bytes (c.callData (.encode implementation.type.name method args))]]

theorem proxySubmissions_accepts {w w' : World} {es : List LogEntry} (h : w.Accepts es w') :
    proxySubmissions w'.chain = proxySubmissions w.chain := by
  funext proxy implementation method args
  rw [proxySubmissions, proxySubmissions, h.callData]

/-- The call data is matched twice: its arguments with the initializer, and then its bytes with the
proxy's constructor. -/
theorem deployProxy_vets (proxy target : ContractType) (implementation : Contract)
    (method : String) (args : List Value) :
    (d.deployProxy proxy target implementation method args).Vets d.admits w
      (proxySubmissions w.chain proxy implementation method args) := by
  unfold deployProxy
  refine .bind (d.encode_vets implementation method args) (d.encode_follows _ _ _)
    fun data w₁ _ hdata => ?_
  obtain ⟨rfl, -⟩ := hdata
  apply Vets.quiet_bind (.say _)
  intro _ w₂ _
  apply Vets.bind_quiet (d.deploy_vets proxy _)
  intro deployed w₃ _
  exact .quiet_bind (.say _) fun _ _ _ => .pure _

end Deployer

/-! ## Roles -/

namespace Role

variable {admits : Admission} (d : Deployer) (core : Contract)

/-- The call of a name as the getter of a role, if the chain does not answer it and the contract has
it as a method. -/
def getterSubmissions (c : Chain) (t : ContractType) (getter : String) : List Submission :=
  match c.roleId? getter, t.method? getter with
  | none, some _ => [.getter t getter]
  | _, _ => []

theorem getterSubmissions_accepts {w w' : World} {es : List LogEntry} (h : w.Accepts es w') :
    getterSubmissions w'.chain = getterSubmissions w.chain := by
  funext t getter
  rw [getterSubmissions, getterSubmissions, h.roleId?]

/-- Whatever the name, what it answers is what the chain knows of it. -/
theorem identifier_follows_submissions (getter : String) (w : World) :
    (identifier core getter).Follows w
      ((getterSubmissions w.chain core.type getter).map Submission.entry)
      (fun id => id = w.chain.idOf getter) := by
  unfold identifier getterSubmissions Chain.idOf
  apply Action.Follows.get_bind
  cases w.chain.roleId? getter with
  | some id => exact .pure rfl
  | none =>
      cases core.type.method? getter with
      | some overloads => exact .bind_quiet (.submit rfl) fun _ _ _ _ => .pure rfl
      | none => exact .throw _

theorem identifier_vets (getter : String) (w : World) :
    (identifier core getter).Vets admits w
      (getterSubmissions w.chain core.type getter) := by
  unfold identifier getterSubmissions
  apply Vets.get_bind
  cases w.chain.roleId? getter with
  | some id => exact .pure _
  | none =>
      cases hm : core.type.method? getter with
      | some overloads =>
          have hfits : (Submission.getter core.type getter).Fits admits :=
            Option.isSome_iff_exists.mpr ⟨overloads, hm⟩
          exact .bind_quiet (.submit rfl hfits) fun _ _ _ => .pure _
      | none =>
          apply Vets.throw
          split
          · exact id
          · exact id

/-- A transaction with an account for each identifier. -/
def callSubmissions (t : ContractType) (method : String) (ids : List Value)
    (account : Value) : List Submission :=
  ids.map fun id => .transact t method [id, account]

theorem callEach_vets (method : String) (ids : List Value) (account : Value) (w : World) :
    (callEach d core method ids account).Vets d.admits w
      (callSubmissions core.type method ids account) := by
  rw [callSubmissions, List.map_eq_flatMap, callEach]
  apply Vets.forM
  · exact fun id _ _ w' _ => ⟨_, _, call_follows d core method id account w'⟩
  · intro id _ _ w' _
    exact .bind_quiet (d.transact_vets core method [id, account]) fun _ _ _ => .pure _

/-- The handover of a role: its getters, all grants, and then all revocations. -/
def transferSubmissions (c : Chain) (t : ContractType) (role : Role)
    (recipient holder : Value) : List Submission :=
  role.getters.flatMap (getterSubmissions c t) ++
    (callSubmissions t "grantRole" (role.getters.map c.idOf) recipient ++
      callSubmissions t "revokeRole" (role.getters.map c.idOf) holder)

/-- What has been accepted since changes nothing. -/
theorem transferSubmissions_accepts {w w' : World} {es : List LogEntry} (h : w.Accepts es w') :
    transferSubmissions w'.chain = transferSubmissions w.chain := by
  funext t role recipient holder
  rw [transferSubmissions, transferSubmissions, getterSubmissions_accepts h, h.idOf]

theorem transfer_vets (role : Role) (recipient holder : Value) (w : World) :
    (transfer d core role recipient holder).Vets d.admits w
      (transferSubmissions w.chain core.type role recipient holder) := by
  unfold transfer
  apply Vets.quiet_bind (.say _)
  intro _ w₁ hw₁
  have h₁ : w.Accepts [] w₁ := ((Action.Follows.say _).of_ok hw₁).1
  rw [← transferSubmissions_accepts h₁]
  have hfollows : ∀ g ∈ role.getters, ∀ done w', w₁.Accepts done w' →
      (identifier core g).Follows w'
        ((getterSubmissions w₁.chain core.type g).map Submission.entry)
        (fun id => id = w₁.chain.idOf g) := by
    intro g _ done w' h'
    rw [← getterSubmissions_accepts h', ← h'.idOf]
    exact identifier_follows_submissions core g w'
  have hvets : (role.getters.mapM (identifier core)).Vets d.admits w₁
      (role.getters.flatMap (getterSubmissions w₁.chain core.type)) := by
    apply Vets.mapM
    · exact fun g hg done w' h' => ⟨_, _, hfollows g hg done w' h'⟩
    · intro g _ done w' h'
      rw [← getterSubmissions_accepts h']
      exact identifier_vets core g w'
  refine .bind hvets (.mapM _ w₁ hfollows) fun ids w₂ _ hids => ?_
  subst hids
  refine .bind (callEach_vets d core _ _ recipient w₂) (callEach_follows d core _ _ recipient w₂)
    fun _ w₃ _ _ => ?_
  exact callEach_vets d core _ _ holder w₃

/-- What a handover calls as a getter is a name of the role, no getter of the chain, and a method of
the contract. -/
theorem getter_mem_transferSubmissions {c : Chain} {t t' : ContractType} {role : Role}
    {recipient holder : Value} {method : String}
    (h : .getter t' method ∈ transferSubmissions c t role recipient holder) :
    t' = t ∧ method ∈ role.getters ∧ c.roleId? method = none ∧
      (t.method? method).isSome = true := by
  have hcalls : ∀ name ids account,
      .getter t' method ∉ callSubmissions t name ids account := by
    intro name ids account hmem
    obtain ⟨id, -, heq⟩ := List.mem_map.mp hmem
    cases heq
  rw [transferSubmissions, List.mem_append, List.mem_append] at h
  rcases h with hgetter | hgrant | hrevocation
  · obtain ⟨g, hg, hmem⟩ := List.mem_flatMap.mp hgetter
    unfold getterSubmissions at hmem
    split at hmem
    · rename_i hunknown hmethod
      obtain ⟨rfl, rfl⟩ := Submission.getter.inj (List.mem_singleton.mp hmem)
      exact ⟨rfl, hg, hunknown, Option.isSome_iff_exists.mpr ⟨_, hmethod⟩⟩
    · cases hmem
  · exact absurd hgrant (hcalls _ _ _)
  · exact absurd hrevocation (hcalls _ _ _)

/-- The handovers of all roles that have a recipient. -/
def migrationSubmissions (c : Chain) (t : ContractType) (recipients : Recipients)
    (holder : Value) : List Submission :=
  (withRecipients recipients).flatMap fun p =>
    if p.2.isEmpty then [] else transferSubmissions c t p.1 p.2 holder

theorem migrationSubmissions_accepts {w w' : World} {es : List LogEntry}
    (h : w.Accepts es w') :
    migrationSubmissions w'.chain = migrationSubmissions w.chain := by
  funext t recipients holder
  rw [migrationSubmissions, migrationSubmissions, transferSubmissions_accepts h]

/-- The getters of the roles that a migration moves are no methods. -/
theorem getter_not_mem_migrationSubmissions {c : Chain} {t t' : ContractType}
    {recipients : Recipients} {holder : Value} {method : String} :
    .getter t' method ∉ migrationSubmissions c t recipients holder := by
  intro h
  obtain ⟨p, hp, hmem⟩ := List.mem_flatMap.mp h
  by_cases hempty : p.2.isEmpty = true
  · rw [if_pos hempty] at hmem
    cases hmem
  · rw [if_neg hempty] at hmem
    obtain ⟨-, hg, -, hmethod⟩ := getter_mem_transferSubmissions hmem
    rw [method?_of_mem_roleGetters t (getters_subset hp method hg)] at hmethod
    cases hmethod

theorem migrate_vets (recipients : Recipients) (holder : Value) (w : World) :
    (migrate d core recipients holder).Vets d.admits w
      (migrationSubmissions w.chain core.type recipients holder) := by
  unfold migrate
  apply Vets.bind_quiet
  · apply Vets.mapM
    · exact fun p hp _ w' _ => ⟨_, _, migrateOne_follows d core holder p (getters_subset hp) w'⟩
    · intro p _ done w' h'
      show (migrateOne d core p.1 p.2 holder).Vets d.admits w' _
      rw [← transferSubmissions_accepts h', migrateOne]
      by_cases hempty : p.2.isEmpty = true
      · rw [if_pos hempty, if_pos hempty]
        exact .quiet_bind (.say _) fun _ _ _ => .pure _
      · rw [if_neg hempty, if_neg hempty]
        exact .bind_quiet (transfer_vets d core _ _ _ w') fun _ _ _ => .pure _
  · exact fun _ _ _ => .pure _

end Role

/-- The setting of the verifier and the verification key. -/
def verifierSubmissions (core : ContractType) (verifier key : Value) : List Submission :=
  [.transact core "setUntronZKVariables" [verifier, key]]

theorem configureVerifier_vets (d : Deployer) (core : Contract) (verifier key : Value)
    (w : World) :
    (configureVerifier d core verifier key).Vets d.admits w
      (verifierSubmissions core.type verifier key) := by
  unfold configureVerifier
  apply Vets.quiet_bind (.say _)
  intro _ w₁ _
  exact .bind_quiet (d.transact_vets core _ _) fun _ _ _ => .pure _

/-! ## The manifest -/

/-- A failure of a gate is no mismatch. -/
theorem Failure.IsOfGate.not_isMismatch {f : Failure} (h : f.IsOfGate) : ¬f.IsMismatch := by
  cases f with
  | arguments f => exact False.elim h
  | _ => exact id

namespace Manifest

variable {admits : Admission} {w : World}

theorem build_vets (s : Settings) (core implementation : Contract) (deps : Dependencies)
    (deployer : Value) :
    (Action.ofExcept (build s core implementation deps deployer)).Vets admits w [] := by
  apply Vets.ofExcept
  intro f hf
  obtain ⟨field, rfl⟩ := build_eq_error hf
  exact id

theorem write_vets (m : Manifest) (path : Path) : (m.write path).Vets admits w [] :=
  .of_keeps (m.write_keepsChain path w)
    (write_failsOnly (.inr fun _ => id) (.inr fun e => by cases e <;> exact id))

theorem read_vets (path : Path) : (read path).Vets admits w [] := by
  have htext : (Action.readText path).Vets admits w [] := by
    apply Vets.of_keeps
    · exact (Action.readText_readsFiles path).keeps _ (fun _ _ => rfl) w
    · exact fun f hf => (Action.readText_failsOnly path f hf).not_isMismatch
  have hjson : (Action.readJson path).Vets admits w [] := by
    unfold Action.readJson
    apply Vets.quiet_bind htext
    intro cs w₁ _
    split
    · exact .pure _
    · exact .throw id
  unfold read
  apply Vets.quiet_bind hjson
  intro v w₁ _
  split
  · exact .pure _
  · exact .throw id

end Manifest

/-! ## The stages of a deployment -/

namespace Pipeline

variable (d : Deployer) (s : Settings) (artifacts : Artifacts) (w : World)

/-- The deployment of a mock for each external contract that has one. -/
def mockSubmissions (artifacts : Artifacts) (s : Settings) : List Submission :=
  s.mocks.map fun k => .deploy (artifacts k) []

theorem deployMock_vets (k : ContractKind) :
    (deployMock d artifacts k).Vets d.admits w [.deploy (artifacts k) []] := by
  unfold deployMock
  exact .bind_quiet (d.deploy_vets (artifacts k) []) fun _ _ _ => .pure _

/-- The deployments of mocks but the verifier's. -/
def otherSubmissions (artifacts : Artifacts) (s : Settings) : List Submission :=
  if s.mockDependencies = true then
    [.deploy (artifacts .mockUsdt) [], .deploy (artifacts .mockSpokePool) [],
     .deploy (artifacts .mockAggregationRouter) []]
  else []

theorem mockSubmissions_eq :
    mockSubmissions artifacts s = otherSubmissions artifacts s ++
      (if s.mockVerifier = true then [.deploy (artifacts .mockVerifier) []] else []) := by
  unfold mockSubmissions otherSubmissions Settings.mocks Settings.mockVerifier
    Settings.mockDependencies
  cases s.target <;> cases s.useMockVerifier <;> rfl

theorem provisionOthers_vets :
    (provisionOthers d s artifacts).Vets d.admits w (otherSubmissions artifacts s) := by
  unfold provisionOthers otherSubmissions
  by_cases hmocks : s.mockDependencies = true
  · rw [if_pos hmocks, if_pos hmocks]
    refine .bind_of_ok (deployMock_vets d artifacts w _) fun usdt w₁ _ => ?_
    refine .bind_of_ok (deployMock_vets d artifacts w₁ _) fun pool w₂ _ => ?_
    exact .bind_quiet (deployMock_vets d artifacts w₂ _) fun _ _ _ => .pure _
  · rw [if_neg hmocks, if_neg hmocks]
    exact .pure _

theorem provisionVerifier_vets (found : Dependencies) :
    (provisionVerifier d s artifacts found).Vets d.admits w
      (if s.mockVerifier = true then [.deploy (artifacts .mockVerifier) []] else []) := by
  unfold provisionVerifier
  by_cases hmock : s.mockVerifier = true
  · rw [if_pos hmock, if_pos hmock]
    exact .bind_quiet (deployMock_vets d artifacts w _) fun _ _ _ => .pure _
  · rw [if_neg hmock, if_neg hmock]
    exact .pure _

theorem provision_vets :
    (provision d s artifacts).Vets d.admits w (mockSubmissions artifacts s) := by
  rw [provision_eq, mockSubmissions_eq]
  exact .bind_of_ok (provisionOthers_vets d s artifacts w)
    fun found w₁ _ => provisionVerifier_vets d s artifacts w₁ found

/-- The core contract, and its proxy with the implementation at the given address. -/
def coreSubmissions (c : Chain) (artifacts : Artifacts) (deps : Dependencies)
    (implementation : Value) : List Submission :=
  .deploy (artifacts .core) [] ::
    Deployer.proxySubmissions c (artifacts .proxy) (coreContract artifacts implementation)
      initializer (initialArgs deps)

theorem coreSubmissions_accepts {w w' : World} {es : List LogEntry} (h : w.Accepts es w') :
    coreSubmissions w'.chain = coreSubmissions w.chain := by
  funext artifacts deps implementation
  rw [coreSubmissions, coreSubmissions, Deployer.proxySubmissions_accepts h]

theorem deployCore_vets (deps : Dependencies) :
    (deployCore d artifacts deps).Vets d.admits w
      (coreSubmissions w.chain artifacts deps (w.chain.nextAddress 0)) := by
  have hplan : coreSubmissions w.chain artifacts deps (w.chain.nextAddress 0) =
      [.deploy (artifacts .core) []] ++
        Deployer.proxySubmissions w.chain (artifacts .proxy)
          (coreContract artifacts (w.chain.nextAddress 0)) initializer (initialArgs deps) := rfl
  unfold deployCore
  rw [hplan]
  refine .bind (d.deploy_vets _ _) (d.deploy_follows _ _) fun implementation w₁ h₁ himpl => ?_
  subst himpl
  rw [← Deployer.proxySubmissions_accepts h₁]
  exact .bind_quiet (d.deployProxy_vets _ _ _ _ _) fun _ _ _ => .pure _

/-- All submissions of a deployment. -/
def submissions (artifacts : Artifacts) (s : Settings) (c : Chain) (deployer : Value) :
    List Submission :=
  mockSubmissions artifacts s ++
    (coreSubmissions c artifacts (s.wiring c) (implementationAddress s c) ++
      (Role.migrationSubmissions c (artifacts .core) s.recipients deployer ++
        verifierSubmissions (artifacts .core) (s.wired c .sp1Verifier)
          (.bytes s.verificationKey)))

theorem execute_vets :
    (execute d s artifacts).Vets d.admits w
      (submissions artifacts s w.chain (.text d.address)) := by
  unfold execute submissions
  refine .bind (provision_vets d s artifacts w) (provision_follows d s artifacts w)
    fun deps w₁ h₁ hdeps => ?_
  subst hdeps
  rw [← nextAddress_of_mockPlan h₁, ← coreSubmissions_accepts h₁]
  refine .bind (deployCore_vets d artifacts w₁ _) (deployCore_follows d artifacts w₁ _)
    fun made w₂ h₂ hmade => ?_
  obtain ⟨rfl, -⟩ := hmade
  rw [← Role.migrationSubmissions_accepts (h₁.trans h₂)]
  refine .bind (Role.migrate_vets d _ _ _ w₂) (Role.migrate_follows d _ _ _ w₂)
    fun _ w₃ _ _ => ?_
  apply Vets.bind_quiet (configureVerifier_vets d _ _ _ w₃)
  exact fun _ _ _ => Manifest.build_vets _ _ _ _ _

/-- The manifest is written when nothing is left to submit. -/
theorem run_vets (path : Path) :
    (run d s artifacts path).Vets d.admits w
      (submissions artifacts s w.chain (.text d.address)) := by
  unfold run
  apply Vets.bind_quiet (execute_vets d s artifacts w)
  intro m w₁ _
  exact .bind_quiet (m.write_vets path) fun _ _ _ => .pure m

end Pipeline

/-! ## Single operations -/

namespace Operation

/-- What an operation is to submit, in this order. -/
def submissions (d : Deployer) (c : Chain) : Operation → List Submission
  | .deploy type args => [.deploy type args]
  | .transact contract method args => [.transact contract.type method args]
  | .deployProxy proxy _ implementation initializer args =>
      Deployer.proxySubmissions c proxy implementation initializer args
  | .provision settings artifacts => Pipeline.mockSubmissions artifacts settings
  | .deployCore artifacts deps => Pipeline.coreSubmissions c artifacts deps (c.nextAddress 0)
  | .transferRole core role recipient holder =>
      Role.transferSubmissions c core.type role recipient holder
  | .migrateRoles core recipients holder =>
      Role.migrationSubmissions c core.type recipients holder
  | .configureVerifier core verifier key => verifierSubmissions core.type verifier key
  | .run settings artifacts _ => Pipeline.submissions artifacts settings c (.text d.address)
  | _ => []

theorem perform_vets [Address.CaseRule] (d : Deployer) (op : Operation) (w : World) :
    (op.perform d).Vets d.admits w (op.submissions d w.chain) := by
  cases op with
  | resolve flags env params source =>
      apply Vets.map
      apply Vets.of_keeps
      · exact (Settings.resolve_readsFiles flags env params source).keeps _ (fun _ _ => rfl) w
      · exact fun f hf => (Settings.resolve_failsOnly flags env params source f hf).not_isMismatch
  | deploy type args => exact .map _ (d.deploy_vets type args)
  | transact contract method args => exact .map _ (d.transact_vets contract method args)
  | deployProxy proxy target implementation initializer args =>
      exact .map _ (d.deployProxy_vets proxy target implementation initializer args)
  | provision settings artifacts => exact .map _ (Pipeline.provision_vets d settings artifacts w)
  | deployCore artifacts deps =>
      exact .bind_quiet (Pipeline.deployCore_vets d artifacts w deps) fun _ _ _ => .pure _
  | transferRole core role recipient holder =>
      exact .bind_quiet (Role.transfer_vets d core role recipient holder w) fun _ _ _ => .pure _
  | migrateRoles core recipients holder =>
      exact .map _ (Role.migrate_vets d core recipients holder w)
  | configureVerifier core verifier key =>
      exact .bind_quiet (configureVerifier_vets d core verifier key w) fun _ _ _ => .pure _
  | buildManifest settings core implementation deps deployer =>
      exact .map _ (Manifest.build_vets settings core implementation deps deployer)
  | writeManifest manifest path =>
      exact .bind_quiet (manifest.write_vets path) fun _ _ _ => .pure _
  | readManifest path => exact .map _ (Manifest.read_vets path)
  | run settings artifacts path => exact .map _ (Pipeline.run_vets d settings artifacts w path)
  | checkChain settings connected =>
      apply Vets.bind_quiet
      · exact .ofExcept fun f hf => (settings.checkChain_failsOnly connected f hf).not_isMismatch
      · exact fun _ _ _ => .pure _
  | preflight settings =>
      apply Vets.bind_quiet
      · exact .ofExcept fun f hf =>
          (Settings.configuration_failsOnly settings.preflight f hf).not_isMismatch
      · exact fun _ _ _ => .pure _
  | askContinue => exact .bind_quiet (.ask _) fun _ _ _ => .pure _

/-- Getters are called in the handover of a role only. -/
theorem getter_mem_submissions {d : Deployer} {c : Chain} {op : Operation} {t : ContractType}
    {method : String} (h : .getter t method ∈ op.submissions d c) :
    ∃ core role recipient holder, op = .transferRole core role recipient holder ∧
      t = core.type ∧ method ∈ role.getters ∧ c.roleId? method = none ∧
        (t.method? method).isSome = true := by
  cases op with
  | transferRole core role recipient holder =>
      obtain ⟨rfl, hg, hunknown, hmethod⟩ := Role.getter_mem_transferSubmissions h
      exact ⟨core, role, recipient, holder, rfl, rfl, hg, hunknown, hmethod⟩
  | migrateRoles core recipients holder =>
      exact absurd h Role.getter_not_mem_migrationSubmissions
  | run settings artifacts path =>
      simp [submissions, Pipeline.submissions, Pipeline.mockSubmissions, Pipeline.coreSubmissions,
        Deployer.proxySubmissions, verifierSubmissions,
        Role.getter_not_mem_migrationSubmissions] at h
  | _ =>
      simp [submissions, Pipeline.mockSubmissions, Pipeline.coreSubmissions,
        Deployer.proxySubmissions, verifierSubmissions] at h

/-! ## Operations one after the other -/

/-- What an operation has submitted in a world. -/
structure Submits [Address.CaseRule] (d : Deployer) (op : Operation) (w : World)
    (made : List Submission) : Prop where
  /-- It is a part, from its beginning, of what the operation is to submit. -/
  planned : made <+: op.submissions d w.chain
  log : ((op.perform d).perform w).2.chain.log = w.chain.log ++ made.map Submission.entry
  returned : ∀ r, ((op.perform d).perform w).1 = .ok r → made = op.submissions d w.chain
  fits : ∀ s ∈ made, s.Fits d.admits
  /-- A method that was called as a getter is a name of a role that was handed over. -/
  getter : ∀ t method, .getter t method ∈ made →
    ∃ core role recipient holder, op = .transferRole core role recipient holder ∧
      t = core.type ∧ method ∈ role.getters ∧ w.chain.roleId? method = none ∧
        (t.method? method).isSome = true
  /-- Arguments that were found invalid are those of the next submission, which was not made. -/
  rejected : ∀ f, ((op.perform d).perform w).1 = .error f →
    f.title? = some "InvalidArguments" →
      ∃ s, made ++ [s] <+: op.submissions d w.chain ∧ ¬s.Fits d.admits

/-- **One operation.** In every world an operation submits only what the interfaces admit. -/
theorem submits [Address.CaseRule] (d : Deployer) (op : Operation) (w : World) :
    ∃ made, op.Submits d w made := by
  obtain ⟨made, hplanned, hlog, hfits, hall, hnext⟩ := perform_vets d op w
  exact ⟨made,
    { planned := hplanned
      log := hlog
      returned := hall
      fits := hfits
      getter := fun t method h => getter_mem_submissions (hplanned.subset h)
      rejected := fun f hf htitle => hnext f hf (Failure.isMismatch_iff.mpr htitle) }⟩

/-- What each of some operations has submitted, when they are carried out one after the other. -/
inductive SubmitAll [Address.CaseRule] (d : Deployer) :
    World → List Operation → List (List Submission) → Prop
  | nil (w : World) : SubmitAll d w [] []
  | cons {op : Operation} {w : World} {made : List Submission} {ops : List Operation}
      {rest : List (List Submission)} (first : op.Submits d w made)
      (others : SubmitAll d ((op.perform d).perform w).2 ops rest) :
      SubmitAll d w (op :: ops) (made :: rest)

/-- **Nothing is submitted that its interface does not admit.** Let any operations be carried out,
whether they fail or not. The log has grown by what each of them submitted, in their order. A
deployment has as many arguments as its constructor has inputs, and each can be encoded; a
transaction and call data have arguments that an overload of their method takes. A getter that is a
method is the exception. An operation that fails for invalid arguments fails at a submission that its
contract does not take, and has submitted no more than what came before it. -/
theorem performAll_admitted [Address.CaseRule] (d : Deployer) (ops : List Operation) (w : World) :
    ∃ made, SubmitAll d w ops made ∧
      (performAll d ops w).chain.log =
        w.chain.log ++ made.flatten.map Submission.entry ∧
      ∀ s ∈ made.flatten, s.Fits d.admits := by
  induction ops generalizing w with
  | nil => exact ⟨[], .nil w, (List.append_nil _).symm, nofun⟩
  | cons op ops ih =>
      obtain ⟨first, hfirst⟩ := op.submits d w
      obtain ⟨rest, hrest, hlog, hfits⟩ := ih ((op.perform d).perform w).2
      refine ⟨first :: rest, .cons hfirst hrest, ?_, ?_⟩
      · show (performAll d ops ((op.perform d).perform w).2).chain.log = _
        rw [hlog, hfirst.log, List.flatten_cons, List.map_append, List.append_assoc]
      · rw [List.flatten_cons]
        exact List.forall_mem_append.mpr ⟨hfirst.fits, hfits⟩

/-- The handover of a role whose only name is that of a method. The method is called without
arguments, and none of its overloads takes as few. -/
theorem transfer_submits_unmatched :
    (performAll .standard
        [.transferRole .standardCore ⟨"r", ["initialize"]⟩ Deployer.otherAccount
          Deployer.standardAccount] .fresh).chain.log =
      [.transact Contract.standardCore.type.name "initialize" []] ∧
    ¬Contract.standardCore.type.HasOverload Deployer.standard.admits "initialize" [] := by
  constructor
  · rfl
  · rintro ⟨overloads, hm, o, ho, hlen, -⟩
    cases hm
    cases ho with
    | head => cases hlen
    | tail _ ho => cases ho

end Operation

end Rollout

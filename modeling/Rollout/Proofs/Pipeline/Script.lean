import Rollout.Pipeline
import Rollout.Proofs.Manifest.Written
import Rollout.Proofs.Roles.Plan
import Rollout.Proofs.Standard

/-!
# The script of a deployment

What a deployment submits is settled before it starts. `Pipeline.script` writes
it down from the settings and the chain alone: the mocks, the core contract, its
initializer's call data and its proxy, the handovers of roles, and the setting
of the verifier.

Addresses are counted: the `n`-th contract of a deployment will be at
`Chain.nextAddress c n`, so the mock of an external contract is at the place
that it has in the list of mocks (`Settings.wired`), and the core contract comes
after all of them. The external contracts have three orders, that of their
deployment, that of their record and that of the initializer's inputs; the
script names each by itself, so no two of them can be confused.

## Main results

* `Pipeline.provision_follows`, `Pipeline.deployCore_follows`,
  `Pipeline.execute_follows`: the plans of the stages, and what they hand on.
* `Pipeline.run_follows_script`: every run submits a part of the script from its
  beginning, and a run that completes submits all of it.
-/

namespace Rollout

open Rollout.Action (Follows)

/-- The mock that stands in for an external contract. -/
def Dependency.mock : Dependency → ContractKind
  | .spokePool => .mockSpokePool
  | .usdt => .mockUsdt
  | .aggregationRouter => .mockAggregationRouter
  | .sp1Verifier => .mockVerifier

namespace Settings

/-- The mocks of a deployment in the order in which they are deployed: the verifier comes last, and
may come alone. -/
def mocks (s : Settings) : List ContractKind :=
  (if s.target = .test then [.mockUsdt, .mockSpokePool, .mockAggregationRouter] else []) ++
    (if s.target = .test ∨ s.useMockVerifier = true then [.mockVerifier] else [])

/-- The address of an external contract: that of its mock if there is one, and otherwise that of the
settings. -/
def wired (s : Settings) (c : Chain) (dep : Dependency) : Value :=
  if dep.mock ∈ s.mocks then c.nextAddress (s.mocks.idxOf dep.mock) else s.defaults.get dep

/-- The addresses of all external contracts. -/
def wiring (s : Settings) (c : Chain) : Dependencies :=
  { spokePool := s.wired c .spokePool
    usdt := s.wired c .usdt
    aggregationRouter := s.wired c .aggregationRouter
    sp1Verifier := s.wired c .sp1Verifier }

section

variable {s : Settings}

theorem mocks_of_test (h : s.target = .test) :
    s.mocks = [.mockUsdt, .mockSpokePool, .mockAggregationRouter, .mockVerifier] := by
  simp [mocks, h]

theorem mocks_of_production (h : s.target = .production) :
    s.mocks = if s.useMockVerifier = true then [.mockVerifier] else [] := by
  simp [mocks, h]

/-- Which external contracts are mocked: the verifier by its own rule, the others together. -/
theorem mock_mem_mocks (s : Settings) (dep : Dependency) :
    dep.mock ∈ s.mocks ↔
      (if dep = .sp1Verifier then s.mockVerifier else s.mockDependencies) = true := by
  unfold mocks mockVerifier mockDependencies
  cases s.target <;> cases s.useMockVerifier <;> cases dep <;> decide

theorem wiring_of_test (h : s.target = .test) (c : Chain) :
    s.wiring c =
      { spokePool := c.nextAddress 1
        usdt := c.nextAddress 0
        aggregationRouter := c.nextAddress 2
        sp1Verifier := c.nextAddress 3 } := by
  unfold wiring wired
  rw [mocks_of_test h]
  rfl

theorem wiring_of_production (h : s.target = .production) (c : Chain) :
    s.wiring c =
      { s.defaults with
        sp1Verifier :=
          if s.useMockVerifier = true then c.nextAddress 0 else s.defaults.sp1Verifier } := by
  unfold wiring wired
  rw [mocks_of_production h]
  by_cases hmock : s.useMockVerifier = true
  · simp only [if_pos hmock]
    rfl
  · simp only [if_neg hmock]
    rfl

end

end Settings

namespace Pipeline

/-! ## The parts of the script -/

/-- The deployments of mocks. -/
def mockScript (s : Settings) : List LogEntry :=
  s.mocks.map fun k => .deploy k.name []

/-- The arguments of the core contract's initializer. -/
def initialArgs (deps : Dependencies) : List Value :=
  [deps.spokePool, deps.usdt, deps.aggregationRouter]

/-- The call data of the initializer: what the chain gives for its encoding. -/
def initialData (c : Chain) (core : String) (deps : Dependencies) : Bytes :=
  c.callData (.encode core "initialize" (initialArgs deps))

/-- What has been accepted since does not change the call data. -/
theorem initialData_accepts {w w' : World} {es : List LogEntry} (h : w.Accepts es w') :
    initialData w'.chain = initialData w.chain := by
  funext core deps
  rw [initialData, initialData, h.callData]

/-- The deployment of the core contract, which gets the given address, and of its proxy. -/
def coreScript (c : Chain) (deps : Dependencies) (implementation : Value) : List LogEntry :=
  [.deploy (ContractKind.name .core) [],
   .encode (ContractKind.name .core) "initialize" (initialArgs deps),
   .deploy (ContractKind.name .proxy)
     [implementation, .bytes (initialData c (ContractKind.name .core) deps)]]

/-- The setting of the verifier and the verification key. -/
def verifierEntry (verifier key : Value) : LogEntry :=
  .transact (ContractKind.name .core) "setUntronZKVariables" [verifier, key]

/-- The address of the core contract behind the proxy. -/
def implementationAddress (s : Settings) (c : Chain) : Value := c.nextAddress s.mocks.length

/-- The address of the proxy. -/
def proxyAddress (s : Settings) (c : Chain) : Value := c.nextAddress (s.mocks.length + 1)

/-- Everything that a deployment submits. -/
def script (s : Settings) (c : Chain) (deployer : Value) : List LogEntry :=
  mockScript s ++ (coreScript c (s.wiring c) (implementationAddress s c) ++
    (Role.migration (ContractKind.name .core) c.idOf s.recipients deployer ++
      [verifierEntry (s.wired c .sp1Verifier) (.bytes s.verificationKey)]))

theorem script_ne_nil (s : Settings) (c : Chain) (deployer : Value) : script s c deployer ≠ [] := by
  simp [script]

/-! ## The plan of contracts with any names -/

/-- The deployments of mocks under the names that their types have. -/
def mockPlan (artifacts : Artifacts) (s : Settings) : List LogEntry :=
  s.mocks.map fun k => .deploy (artifacts k).name []

/-- The core contract and its proxy under the names that their types have. -/
def corePlan (artifacts : Artifacts) (c : Chain) (deps : Dependencies) (implementation : Value) :
    List LogEntry :=
  [.deploy (artifacts .core).name [],
   .encode (artifacts .core).name "initialize" (initialArgs deps),
   .deploy (artifacts .proxy).name
     [implementation, .bytes (initialData c (artifacts .core).name deps)]]

theorem corePlan_accepts {w w' : World} {es : List LogEntry} (h : w.Accepts es w')
    (artifacts : Artifacts) : corePlan artifacts w'.chain = corePlan artifacts w.chain := by
  funext deps implementation
  rw [corePlan, corePlan, initialData_accepts h]

/-- Everything that a deployment of contracts with any names submits. -/
def plan (artifacts : Artifacts) (s : Settings) (c : Chain) (deployer : Value) : List LogEntry :=
  mockPlan artifacts s ++ (corePlan artifacts c (s.wiring c) (implementationAddress s c) ++
    (Role.migration (artifacts .core).name c.idOf s.recipients deployer ++
      [.transact (artifacts .core).name "setUntronZKVariables"
        [s.wired c .sp1Verifier, .bytes s.verificationKey]]))

/-- The plan of contracts that bear their own names is the script. -/
theorem plan_eq_script {artifacts : Artifacts} (hnames : ∀ k, (artifacts k).name = k.name)
    (s : Settings) (c : Chain) (deployer : Value) :
    plan artifacts s c deployer = script s c deployer := by
  unfold plan script mockPlan mockScript corePlan coreScript verifierEntry
  simp only [hnames]

/-! ## External contracts -/

section Stages

variable (d : Deployer) (s : Settings) (artifacts : Artifacts) (w : World)

theorem deployMock_follows (k : ContractKind) :
    (deployMock d artifacts k).Follows w [.deploy (artifacts k).name []]
      (fun v => v = w.chain.nextAddress 0) := by
  unfold deployMock
  refine .bind_quiet (d.deploy_follows (artifacts k) []) fun c _ _ hc => .pure ?_
  rw [hc]

/-- The external contracts but the verifier. They are mocked together or not at all. -/
def provisionOthers (d : Deployer) (s : Settings) (artifacts : Artifacts) :
    Action Dependencies := do
  if s.mockDependencies then
    let usdt ← deployMock d artifacts .mockUsdt
    let spokePool ← deployMock d artifacts .mockSpokePool
    let aggregationRouter ← deployMock d artifacts .mockAggregationRouter
    return { s.defaults with usdt, spokePool, aggregationRouter }
  else return s.defaults

/-- The verifier, which may be mocked alone. -/
def provisionVerifier (d : Deployer) (s : Settings) (artifacts : Artifacts)
    (found : Dependencies) : Action Dependencies := do
  if s.mockVerifier then
    let sp1Verifier ← deployMock d artifacts .mockVerifier
    return { found with sp1Verifier }
  else return found

/-- The verifier comes after the others. -/
theorem provision_eq :
    provision d s artifacts =
      provisionOthers d s artifacts >>= provisionVerifier d s artifacts := by
  unfold provision provisionOthers
  dsimp only
  by_cases hmocks : s.mockDependencies = true
  · rw [if_pos hmocks, if_pos hmocks]
    simp only [bind_assoc]
    rfl
  · rw [if_neg hmocks, if_neg hmocks]
    rfl

/-- The deployments of the mocks but the verifier's, if there are to be any. -/
def otherPlan (artifacts : Artifacts) (s : Settings) : List LogEntry :=
  if s.mockDependencies = true then
    [.deploy (artifacts .mockUsdt).name [], .deploy (artifacts .mockSpokePool).name [],
     .deploy (artifacts .mockAggregationRouter).name []]
  else []

/-- The deployment of the verifier's mock, if there is to be one. -/
def verifierPlan (artifacts : Artifacts) (s : Settings) : List LogEntry :=
  if s.mockVerifier = true then [.deploy (artifacts .mockVerifier).name []] else []

theorem mockPlan_eq :
    mockPlan artifacts s = otherPlan artifacts s ++ verifierPlan artifacts s := by
  unfold mockPlan otherPlan verifierPlan Settings.mocks Settings.mockVerifier
    Settings.mockDependencies
  cases s.target <;> cases s.useMockVerifier <;> rfl

theorem provisionOthers_follows :
    (provisionOthers d s artifacts).Follows w (otherPlan artifacts s)
      (fun found => found =
        if s.mockDependencies = true then
          { s.defaults with
            usdt := w.chain.nextAddress 0
            spokePool := w.chain.nextAddress 1
            aggregationRouter := w.chain.nextAddress 2 }
        else s.defaults) := by
  unfold provisionOthers otherPlan
  by_cases hmocks : s.mockDependencies = true
  · rw [if_pos hmocks, if_pos hmocks, if_pos hmocks]
    refine .bind (deployMock_follows d artifacts w _) fun usdt w₁ h₁ hu => ?_
    refine .bind (deployMock_follows d artifacts w₁ _) fun pool w₂ h₂ hp => ?_
    refine .bind_quiet (deployMock_follows d artifacts w₂ _) fun router w₃ _ hr => .pure ?_
    rw [hu, hp, hr, h₁.nextAddress, (h₁.trans h₂).nextAddress]
    rfl
  · rw [if_neg hmocks, if_neg hmocks, if_neg hmocks]
    exact .pure rfl

theorem provisionVerifier_follows (found : Dependencies) :
    (provisionVerifier d s artifacts found).Follows w (verifierPlan artifacts s)
      (fun deps => deps = { found with
        sp1Verifier :=
          if s.mockVerifier = true then w.chain.nextAddress 0 else found.sp1Verifier }) := by
  unfold provisionVerifier verifierPlan
  split
  · refine .bind_quiet (deployMock_follows d artifacts w .mockVerifier) fun v _ _ hv => .pure ?_
    rw [hv]
  · exact .pure rfl

/-- The external contracts are wired as the script has it, whatever the names of the mocks. -/
theorem provision_follows :
    (provision d s artifacts).Follows w (mockPlan artifacts s)
      (fun deps => deps = s.wiring w.chain) := by
  rw [provision_eq, mockPlan_eq]
  refine .bind (provisionOthers_follows d s artifacts w) fun found w₁ h₁ hfound => ?_
  refine (provisionVerifier_follows d s artifacts w₁ found).imp fun deps hdeps => ?_
  rw [hdeps, hfound, h₁.nextAddress]
  cases htarget : s.target with
  | test =>
      have hmocks : s.mockDependencies = true := by simp [Settings.mockDependencies, htarget]
      have hmock : s.mockVerifier = true := by simp [Settings.mockVerifier, hmocks]
      rw [otherPlan, if_pos hmocks, if_pos hmocks, if_pos hmock, Settings.wiring_of_test htarget]
      rfl
  | production =>
      have hmocks : ¬s.mockDependencies = true := by simp [Settings.mockDependencies, htarget]
      have hmock : s.mockVerifier = s.useMockVerifier := by
        simp [Settings.mockVerifier, eq_false_of_ne_true hmocks]
      rw [otherPlan, if_neg hmocks, if_neg hmocks, hmock, Settings.wiring_of_production htarget]
      rfl

/-! ## The core contract -/

/-- The contract that stands for the core contract behind its proxy. -/
def coreContract (artifacts : Artifacts) (address : Value) : Contract :=
  { type := artifacts .core, address }

/-- The core contract and its proxy get the next two addresses, and the initializer takes the
external contracts. -/
theorem deployCore_follows (deps : Dependencies) :
    (deployCore d artifacts deps).Follows w
      (corePlan artifacts w.chain deps (w.chain.nextAddress 0))
      (fun made => made =
          (coreContract artifacts (w.chain.nextAddress 1),
            coreContract artifacts (w.chain.nextAddress 0)) ∧
        (artifacts .core).Takes d.admits "initialize" (initialArgs deps)) := by
  have hplan : corePlan artifacts w.chain deps (w.chain.nextAddress 0) =
      [.deploy (artifacts .core).name []] ++
        [.encode (artifacts .core).name initializer (initialArgs deps),
         .deploy (artifacts .proxy).name
           [w.chain.nextAddress 0,
            .bytes (initialData w.chain (artifacts .core).name deps)]] := rfl
  rw [hplan]
  unfold deployCore
  refine .bind (d.deploy_follows _ _) fun implementation w₁ h₁ himpl => ?_
  rw [himpl, ← initialData_accepts h₁]
  refine .bind_quiet (d.deployProxy_follows _ _ _ _ _) fun core _ _ hcore => .pure ⟨?_, hcore.2⟩
  rw [hcore.1, h₁.nextAddress]
  rfl

theorem configureVerifier_follows (core : Contract) (verifier key : Value) :
    (configureVerifier d core verifier key).Follows w
      [.transact core.type.name "setUntronZKVariables" [verifier, key]]
      (fun _ => core.type.Takes d.admits "setUntronZKVariables" [verifier, key]) := by
  unfold configureVerifier
  refine .quiet_bind (.say _) fun _ _ _ _ => ?_
  exact .bind_quiet (d.transact_follows _ _ _) fun _ _ _ htakes => .pure htakes

/-! ## The whole -/

/-- The manifest is built of what the script has deployed. -/
def Builds (d : Deployer) (s : Settings) (artifacts : Artifacts) (c : Chain) (m : Manifest) :
    Prop :=
  Manifest.build s (coreContract artifacts (proxyAddress s c))
    (coreContract artifacts (implementationAddress s c)) (s.wiring c) (.text d.address) = .ok m

theorem countP_mockPlan : (mockPlan artifacts s).countP LogEntry.isDeployment = s.mocks.length := by
  rw [List.countP_eq_length.mpr, mockPlan, List.length_map]
  intro e he
  obtain ⟨k, _, rfl⟩ := List.mem_map.mp he
  rfl

section

variable {s artifacts w} {w₁ : World} (h₁ : w.Accepts (mockPlan artifacts s) w₁)

include h₁

/-- When the mocks are deployed, the next address is that of the implementation. -/
theorem nextAddress_of_mockPlan : w₁.chain.nextAddress 0 = implementationAddress s w.chain := by
  rw [h₁.nextAddress, countP_mockPlan, Nat.add_zero, implementationAddress]

/-- The address after that is the proxy's. -/
theorem nextAddress_one_of_mockPlan : w₁.chain.nextAddress 1 = proxyAddress s w.chain := by
  rw [h₁.nextAddress, countP_mockPlan, proxyAddress]

end

/-- All stages together follow the plan; where they succeed, the core contract takes the external
contracts, and the manifest is built of what has been deployed. -/
theorem execute_follows_plan :
    (execute d s artifacts).Follows w (plan artifacts s w.chain (.text d.address))
      (fun m => Builds d s artifacts w.chain m ∧
        (artifacts .core).Takes d.admits "initialize" (initialArgs (s.wiring w.chain)) ∧
        (artifacts .core).Takes d.admits "setUntronZKVariables"
          [s.wired w.chain .sp1Verifier, .bytes s.verificationKey]) := by
  unfold execute plan
  refine .bind (provision_follows d s artifacts w) fun deps w₁ h₁ hdeps => ?_
  have himpl : w₁.chain.nextAddress 0 = implementationAddress s w.chain :=
    nextAddress_of_mockPlan h₁
  rw [hdeps, ← himpl, ← corePlan_accepts h₁]
  refine .bind (deployCore_follows d artifacts w₁ _) fun made w₂ h₂ hmade => ?_
  obtain ⟨rfl, hinit⟩ := hmade
  have hids : w₂.chain.idOf = w.chain.idOf := (h₁.trans h₂).idOf
  rw [← hids]
  refine .bind (Role.migrate_follows d _ _ _ w₂) fun _ w₃ _ _ => ?_
  refine .bind_quiet (configureVerifier_follows d w₃ _ _ _) fun _ _ _ hset => ?_
  refine (Follows.ofExcept _).imp fun m hm => ⟨?_, hinit, hset⟩
  rw [Builds, ← nextAddress_one_of_mockPlan h₁, ← himpl]
  exact hm

variable {artifacts}

/-- The same for contracts that bear their own names: what they follow is the script. -/
theorem execute_follows (hnames : ∀ k, (artifacts k).name = k.name) :
    (execute d s artifacts).Follows w (script s w.chain (.text d.address))
      (fun m => Builds d s artifacts w.chain m ∧
        (artifacts .core).Takes d.admits "initialize" (initialArgs (s.wiring w.chain)) ∧
        (artifacts .core).Takes d.admits "setUntronZKVariables"
          [s.wired w.chain .sp1Verifier, .bytes s.verificationKey]) := by
  rw [← plan_eq_script hnames]
  exact execute_follows_plan d s artifacts w

end Stages

/-- A run that completes has taken all stages and has written the manifest. -/
theorem run_eq_ok {d : Deployer} {s : Settings} {artifacts : Artifacts} {path : Path}
    {w w' : World} {m : Manifest} (h : (run d s artifacts path).perform w = (.ok m, w')) :
    ∃ w₁, (execute d s artifacts).perform w = (.ok m, w₁) ∧
      (m.write path).perform w₁ = (.ok (), w') := by
  unfold run at h
  obtain ⟨m', w₁, hexecute, h⟩ := Action.perform_bind_eq_ok.mp h
  obtain ⟨_, w₂, hwrite, h⟩ := Action.perform_bind_eq_ok.mp h
  obtain ⟨hm, rfl⟩ := Prod.mk.inj h
  cases hm
  exact ⟨w₁, hexecute, hwrite⟩

/-- A run of which a stage fails ends there. -/
theorem run_of_execute_eq_error {d : Deployer} {s : Settings} {artifacts : Artifacts}
    {path : Path} {w w' : World} {f : Failure}
    (h : (execute d s artifacts).perform w = (.error f, w')) :
    (run d s artifacts path).perform w = (.error f, w') := by
  unfold run
  rw [Action.perform_bind, h]

/-- The chain after a run is the chain after its stages. -/
theorem run_chain (d : Deployer) (s : Settings) (artifacts : Artifacts) (path : Path)
    (w : World) :
    ((run d s artifacts path).perform w).2.chain =
      ((execute d s artifacts).perform w).2.chain := by
  unfold run
  rw [Action.perform_bind]
  rcases (execute d s artifacts).perform w with ⟨r, w₁⟩
  cases r with
  | ok m =>
      have hkeeps : (do m.write path; return m : Action Manifest).Keeps World.chain w₁ :=
        .bind (m.write_keepsChain path w₁) fun _ _ _ => .pure m
      exact hkeeps
  | error e => rfl

/-- **The trace of a deployment.** Let each artifact bear its own name. Whatever becomes of a run,
the log has grown by a part of the script from its beginning; if the run completes, it has grown by
exactly the script. -/
theorem run_follows_script (d : Deployer) (s : Settings) {artifacts : Artifacts}
    (hnames : ∀ k, (artifacts k).name = k.name) (path : Path) (w : World) :
    ∃ es, ((run d s artifacts path).perform w).2.chain.log = w.chain.log ++ es ∧
      es <+: script s w.chain (.text d.address) ∧
      ∀ m, ((run d s artifacts path).perform w).1 = .ok m →
        es = script s w.chain (.text d.address) := by
  obtain ⟨es, hes, hacc, hall⟩ := (execute_follows d s w hnames).exists_part
  refine ⟨es, ?_, hes, fun m hret => ?_⟩
  · rw [run_chain]
    exact hacc.log
  · obtain ⟨w₁, hexecute, _⟩ := run_eq_ok (Prod.ext hret rfl)
    exact hall m (by rw [hexecute])

theorem isOk_run_standard :
    ((run .standard .standard .standard .standard).perform .fresh).1.isOk = true := by
  decide +kernel

/-- A whole deployment on the test network, with its fourteen entries. -/
theorem run_follows_script_on_test_network :
    (∀ k, (Artifacts.standard k).name = k.name) ∧
    ((run .standard .standard .standard .standard).perform .fresh).2.chain.log =
      script .standard .fresh (.text Deployer.standard.address) ∧
    (script .standard .fresh (.text Deployer.standard.address)).length = 14 := by
  obtain ⟨es, hlog, -, hall⟩ :=
    run_follows_script .standard .standard Artifacts.standard_name .standard .fresh
  obtain ⟨m, hm⟩ := Outcome.exists_eq_ok isOk_run_standard
  refine ⟨Artifacts.standard_name, ?_, by decide +kernel⟩
  rw [hlog, hall m hm]
  exact List.nil_append _

end Pipeline

end Rollout

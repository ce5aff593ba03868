import Mathlib.Data.List.Basic
import Rollout.Proofs.Abi.Overloads
import Rollout.Proofs.Manifest.ReadBack
import Rollout.Proofs.Pipeline.Script
import Rollout.Proofs.Settings.Recipients

/-!
# The manifest and the chain

The log of the chain and the manifest of a deployment are made independently of
one another: entry by entry the one, at the end and by name the other.
`Manifest.Truthful` says what each field of the manifest has to do with the
entries of the deployment it records.

That a manifest can be read back needs its fields to be texts or nothing. The
addresses of the external contracts are texts because the core contract took
them as addresses and because bytes have no form in JSON; the recipients are
texts or nothing in all settings that were put together from an environment.

## Main results

* `Pipeline.truthful_script`: a manifest built of what the script deploys is
  truthful.
* `Pipeline.run_truthful`: so is the manifest of every run that completes, and
  the file at its path is read as this manifest.
-/

namespace Rollout

theorem ContractKind.name_injective : Function.Injective ContractKind.name := by
  intro k k' h
  cases k <;> cases k' <;> first | rfl | exact absurd h (by decide)

/-! ## What a manifest says -/

/-- Whether an entry makes call data. -/
def LogEntry.isEncoding (e : LogEntry) : Bool := e.kind == .encode

/-- The deployments among some entries with the addresses of the contracts, on a chain that is going
to accept the entries. -/
def Chain.deployments (c : Chain) (es : List LogEntry) : List (LogEntry × Value) :=
  (es.filter LogEntry.isDeployment).zipIdx.map fun p => (p.1, c.nextAddress p.2)

namespace Manifest

/-- The recipients on record. -/
def recipients (m : Manifest) : Recipients :=
  { admin := m.admin
    unlimitedCreator := m.unlimitedCreator
    registrar := m.registrar }

/-- The external contracts on record. -/
def dependencies (m : Manifest) : Dependencies :=
  { spokePool := m.spokePool
    usdt := m.usdt
    aggregationRouter := m.aggregationRouter
    sp1Verifier := m.sp1Verifier }

/-- What a manifest says is what the entries of the deployment show. -/
structure Truthful (m : Manifest) (s : Settings) (c : Chain) (es : List LogEntry) : Prop where
  /-- The only call data is that of the initializer, and it names the external contracts. -/
  initialized : es.filter LogEntry.isEncoding =
    [.encode (ContractKind.name .core) "initialize" [m.spokePool, m.usdt, m.aggregationRouter]]
  /-- The only core contract is the implementation. -/
  implementation : (c.deployments es).filter (·.1.contract == ContractKind.name .core) =
    [(.deploy (ContractKind.name .core) [], m.coreImplementation)]
  /-- The only proxy stands for the implementation, and it is what counts as the core contract. -/
  proxy : ∃ data, (c.deployments es).filter (·.1.contract == ContractKind.name .proxy) =
    [(.deploy (ContractKind.name .proxy) [m.coreImplementation, data], m.core)]
  /-- The verifier is set once. -/
  verifier : ∃ key, es.filter (·.name == "setUntronZKVariables") =
    [.transact (ContractKind.name .core) "setUntronZKVariables" [m.sp1Verifier, key]]
  /-- A role has a recipient exactly if it was granted, and to whom. -/
  granted : ∀ p ∈ Role.withRecipients m.recipients, ∀ g ∈ p.1.getters, ∀ a,
    LogEntry.transact (ContractKind.name .core) "grantRole" [c.idOf g, a] ∈ es ↔
      p.2 ≠ .null ∧ a = p.2
  /-- Nothing else was granted. -/
  grants : ∀ e ∈ es, e.name = "grantRole" →
    ∃ p ∈ Role.withRecipients m.recipients, ∃ g ∈ p.1.getters,
      e = .transact (ContractKind.name .core) "grantRole" [c.idOf g, p.2]
  /-- Roles were revoked from the deployer only. -/
  revocations : ∀ e ∈ es, e.name = "revokeRole" →
    ∃ id, e = .transact (ContractKind.name .core) "revokeRole" [id, m.deployer]
  /-- An external contract is that of the settings, or it was deployed in its place. -/
  wired : ∀ dep, m.dependencies.get dep = s.defaults.get dep ∨
    ∃ e, (e, m.dependencies.get dep) ∈ c.deployments es ∧ e.contract = dep.mock.name

/-- A manifest that was built has the fields it was built of. -/
theorem build_eq_ok {s : Settings} {core implementation : Contract} {deps : Dependencies}
    {deployer : Value} {m : Manifest}
    (h : build s core implementation deps deployer = .ok m) :
    m = { network := .text s.network
          core := core.address
          coreImplementation := implementation.address
          spokePool := deps.spokePool
          aggregationRouter := deps.aggregationRouter
          usdt := deps.usdt
          sp1Verifier := deps.sp1Verifier
          admin := s.recipients.admin
          unlimitedCreator := s.recipients.unlimitedCreator
          registrar := s.recipients.registrar
          deployer } := by
  unfold build at h
  dsimp only at h
  split at h
  · cases h
  · exact (Except.ok.inj h).symm

end Manifest

namespace Pipeline

variable {d : Deployer} {s : Settings} {artifacts : Artifacts} {c : Chain} {m : Manifest}

/-- The fields of a manifest that was built of what the script deploys. -/
theorem Builds.eq (h : Builds d s artifacts c m) :
    m.network = .text s.network ∧ m.core = proxyAddress s c ∧
      m.coreImplementation = implementationAddress s c ∧ m.dependencies = s.wiring c ∧
      m.recipients = s.recipients ∧ m.deployer = .text d.address := by
  rw [Manifest.build_eq_ok h]
  exact ⟨rfl, rfl, rfl, rfl, rfl, rfl⟩

/-! ## The entries of the script -/

/-- Entries of the script that grant or revoke a role are those of the migration. -/
theorem mem_migration_of_mem_script {deployer : Value} {e : LogEntry}
    (he : e ∈ script s c deployer) (hname : e.name = "grantRole" ∨ e.name = "revokeRole") :
    e ∈ Role.migration (ContractKind.name .core) c.idOf s.recipients deployer := by
  rcases List.mem_append.mp he with he | he
  · obtain ⟨k, _, rfl⟩ := List.mem_map.mp he
    simp [LogEntry.deploy] at hname
  rcases List.mem_append.mp he with he | he
  · simp only [coreScript, List.mem_cons, List.not_mem_nil, or_false] at he
    rcases he with rfl | rfl | rfl
    all_goals simp [LogEntry.deploy, LogEntry.encode] at hname
  rcases List.mem_append.mp he with he | he
  · exact he
  · rw [List.mem_singleton.mp he] at hname
    simp [verifierEntry, LogEntry.transact] at hname

theorem filter_mockScript_eq_nil {p : LogEntry → Bool}
    (h : ∀ k : ContractKind, p (.deploy k.name []) = false) : (mockScript s).filter p = [] := by
  rw [List.filter_eq_nil_iff]
  intro e he
  obtain ⟨k, _, rfl⟩ := List.mem_map.mp he
  rw [h k]
  exact Bool.false_ne_true

theorem filter_migration_eq_nil {core : String} {idOf : String → Value} {recipients : Recipients}
    {holder : Value} {p : LogEntry → Bool} (h : ∀ e : LogEntry, e.movesRole = true → p e = false) :
    (Role.migration core idOf recipients holder).filter p = [] := by
  rw [List.filter_eq_nil_iff]
  intro e he
  have hmoves : e.movesRole = true := by
    obtain ⟨_, _, _, _, rfl | rfl⟩ := Role.mem_handovers.mp he <;> rfl
  rw [h e hmoves]
  exact Bool.false_ne_true

theorem filter_isEncoding_script (deployer : Value) :
    (script s c deployer).filter LogEntry.isEncoding =
      [.encode (ContractKind.name .core) "initialize" (initialArgs (s.wiring c))] := by
  have hroles : ∀ e : LogEntry, e.movesRole = true → e.isEncoding = false := by
    intro e he
    rw [LogEntry.isEncoding, (LogEntry.movesRole_iff.mp he).1]
    rfl
  rw [script, List.filter_append, List.filter_append, List.filter_append,
    filter_mockScript_eq_nil fun _ => rfl, filter_migration_eq_nil hroles]
  rfl

theorem filter_verifier_script (deployer : Value) :
    (script s c deployer).filter (·.name == "setUntronZKVariables") =
      [verifierEntry (s.wired c .sp1Verifier) (.bytes s.verificationKey)] := by
  have hroles : ∀ e : LogEntry, e.movesRole = true →
      (e.name == "setUntronZKVariables") = false := by
    intro e he
    rcases (LogEntry.movesRole_iff.mp he).2 with hname | hname
    all_goals
      rw [hname]
      rfl
  rw [script, List.filter_append, List.filter_append, List.filter_append,
    filter_mockScript_eq_nil fun _ => rfl, filter_migration_eq_nil hroles]
  rfl

/-- The contracts that the script deploys, with their addresses. -/
theorem deployments_script (deployer : Value) :
    c.deployments (script s c deployer) =
      ((mockScript s).zipIdx.map fun p => (p.1, c.nextAddress p.2)) ++
        [(.deploy (ContractKind.name .core) [], implementationAddress s c),
         (.deploy (ContractKind.name .proxy)
            [implementationAddress s c,
             .bytes (initialData c (ContractKind.name .core) (s.wiring c))],
          proxyAddress s c)] := by
  have hmocks : (mockScript s).filter LogEntry.isDeployment = mockScript s := by
    rw [List.filter_eq_self]
    intro e he
    obtain ⟨k, _, rfl⟩ := List.mem_map.mp he
    rfl
  have hroles : ∀ e : LogEntry, e.movesRole = true → e.isDeployment = false := by
    intro e he
    rw [LogEntry.isDeployment, (LogEntry.movesRole_iff.mp he).1]
    rfl
  have hlength : (mockScript s).length = s.mocks.length := List.length_map _
  have hcore : (coreScript c (s.wiring c) (implementationAddress s c)).filter
      LogEntry.isDeployment =
      [.deploy (ContractKind.name .core) [], .deploy (ContractKind.name .proxy)
        [implementationAddress s c,
         .bytes (initialData c (ContractKind.name .core) (s.wiring c))]] := rfl
  have hlast : [verifierEntry (s.wired c .sp1Verifier) (.bytes s.verificationKey)].filter
      LogEntry.isDeployment = [] := rfl
  rw [Chain.deployments, script, List.filter_append, List.filter_append, List.filter_append,
    hmocks, hcore, hlast, filter_migration_eq_nil hroles, List.append_nil, List.append_nil,
    List.zipIdx_append, List.map_append, hlength]
  simp [implementationAddress, proxyAddress, List.zipIdx_cons]

/-- A contract that is no mock is not among the mocks. -/
theorem filter_mocks_eq_nil {k : ContractKind} (hk : k ∉ s.mocks) :
    ((mockScript s).zipIdx.map fun p => (p.1, c.nextAddress p.2)).filter
      (·.1.contract == k.name) = [] := by
  rw [List.filter_eq_nil_iff]
  rintro ⟨e, a⟩ he
  obtain ⟨⟨e', i⟩, hmem, heq⟩ := List.mem_map.mp he
  cases heq
  obtain ⟨k', hk', rfl⟩ := List.mem_map.mp (List.fst_mem_of_mem_zipIdx hmem)
  intro hname
  exact hk (ContractKind.name_injective (eq_of_beq hname) ▸ hk')

/-- A mock is deployed at the address that the core contract is wired to. -/
theorem mem_deployments_of_mem_mocks (deployer : Value) {k : ContractKind} (hk : k ∈ s.mocks) :
    (LogEntry.deploy k.name [], c.nextAddress (s.mocks.idxOf k)) ∈
      c.deployments (script s c deployer) := by
  rw [deployments_script]
  refine List.mem_append_left _ (List.mem_map.mpr
    ⟨(LogEntry.deploy k.name [], s.mocks.idxOf k), ?_, rfl⟩)
  rw [List.mk_mem_zipIdx_iff_getElem?, mockScript, List.getElem?_map, List.getElem?_idxOf hk]
  rfl

/-! ## A truthful manifest -/

theorem core_not_mem_mocks (s : Settings) : ContractKind.core ∉ s.mocks := by
  simp [Settings.mocks]

theorem proxy_not_mem_mocks (s : Settings) : ContractKind.proxy ∉ s.mocks := by
  simp [Settings.mocks]

theorem filter_core_deployments (deployer : Value) :
    (c.deployments (script s c deployer)).filter
        (·.1.contract == ContractKind.name .core) =
      [(.deploy (ContractKind.name .core) [], implementationAddress s c)] := by
  rw [deployments_script, List.filter_append, filter_mocks_eq_nil (core_not_mem_mocks s)]
  rfl

theorem filter_proxy_deployments (deployer : Value) :
    (c.deployments (script s c deployer)).filter
        (·.1.contract == ContractKind.name .proxy) =
      [(.deploy (ContractKind.name .proxy)
          [implementationAddress s c,
           .bytes (initialData c (ContractKind.name .core) (s.wiring c))],
        proxyAddress s c)] := by
  rw [deployments_script, List.filter_append, filter_mocks_eq_nil (proxy_not_mem_mocks s)]
  rfl

/-- A role of the script is granted exactly to its recipient. -/
theorem grant_mem_script_iff (hc : c.TellsRolesApart) (deployer : Value)
    (hrecipients : ∀ p ∈ Role.withRecipients s.recipients, p.2.IsSetOrNull) {p : Role × Value}
    (hp : p ∈ Role.withRecipients s.recipients) {g : String} (hg : g ∈ p.1.getters) (a : Value) :
    LogEntry.transact (ContractKind.name .core) "grantRole" [c.idOf g, a] ∈
        script s c deployer ↔ p.2 ≠ .null ∧ a = p.2 := by
  constructor
  · intro he
    obtain ⟨q, hq, i, hi, he⟩ := Role.mem_handovers.mp (mem_migration_of_mem_script he (.inl rfl))
    obtain ⟨g', hg', rfl⟩ := List.mem_map.mp hi
    obtain ⟨hq, hset⟩ := List.mem_filter.mp hq
    have hsame : c.idOf g = c.idOf g' ∧ a = q.2 := by
      rcases he with he | he
      · simpa [LogEntry.transact] using he
      · simp [LogEntry.transact] at he
    obtain ⟨hid, rfl⟩ := hsame
    have hgg : g = g' := hc.eq_of_idOf_eq (Role.getters_subset hp g hg)
      (Role.getters_subset hq g' hg') hid
    have hpq : p = q := Role.eq_of_mem_getters hp hq hg (hgg ▸ hg')
    subst hpq
    refine ⟨?_, rfl⟩
    intro hnull
    rw [hnull] at hset
    cases hset
  · rintro ⟨hset, rfl⟩
    have hmove : p ∈ Role.moving s.recipients := by
      refine List.mem_filter.mpr ⟨hp, ?_⟩
      have hempty : ¬p.2.isEmpty = true := fun h => hset ((hrecipients p hp).isEmpty_iff.mp h)
      rw [eq_false_of_ne_true hempty]
      rfl
    have hmigration : LogEntry.transact (ContractKind.name .core) "grantRole" [c.idOf g, p.2] ∈
        Role.migration (ContractKind.name .core) c.idOf s.recipients deployer :=
      Role.mem_handovers.mpr ⟨p, hmove, c.idOf g, List.mem_map_of_mem hg, .inl rfl⟩
    exact List.mem_append_right _ (List.mem_append_right _ (List.mem_append_left _ hmigration))

/-- A manifest that is built of what the script deploys is truthful. -/
theorem truthful_script (hc : c.TellsRolesApart)
    (hrecipients : ∀ p ∈ Role.withRecipients s.recipients, p.2.IsSetOrNull)
    (h : Builds d s artifacts c m) :
    m.Truthful s c (script s c (.text d.address)) := by
  obtain ⟨-, hcore, himplementation, hdeps, hrec, hdeployer⟩ := h.eq
  have hpool : m.spokePool = (s.wiring c).spokePool := congrArg Dependencies.spokePool hdeps
  have husdt : m.usdt = (s.wiring c).usdt := congrArg Dependencies.usdt hdeps
  have hrouter : m.aggregationRouter = (s.wiring c).aggregationRouter :=
    congrArg Dependencies.aggregationRouter hdeps
  have hverifier : m.sp1Verifier = s.wired c .sp1Verifier :=
    congrArg Dependencies.sp1Verifier hdeps
  refine
    { initialized := ?_
      implementation := ?_
      proxy := ?_
      verifier := ?_
      granted := ?_
      grants := ?_
      revocations := ?_
      wired := ?_ }
  · rw [filter_isEncoding_script, hpool, husdt, hrouter]
    rfl
  · rw [filter_core_deployments, himplementation]
  · refine ⟨.bytes (initialData c (ContractKind.name .core) (s.wiring c)), ?_⟩
    rw [filter_proxy_deployments, himplementation, hcore]
  · refine ⟨.bytes s.verificationKey, ?_⟩
    rw [filter_verifier_script, hverifier]
    rfl
  · rw [hrec]
    intro p hp g hg a
    exact grant_mem_script_iff hc _ hrecipients hp hg a
  · rw [hrec]
    intro e he hname
    obtain ⟨p, hp, i, hi, hentry⟩ :=
      Role.mem_handovers.mp (mem_migration_of_mem_script he (.inl hname))
    obtain ⟨g, hg, rfl⟩ := List.mem_map.mp hi
    refine ⟨p, (List.mem_filter.mp hp).1, g, hg, ?_⟩
    rcases hentry with hentry | hentry
    · exact hentry
    · rw [hentry] at hname
      simp [LogEntry.transact] at hname
  · rw [hdeployer]
    intro e he hname
    obtain ⟨p, hp, i, hi, hentry⟩ :=
      Role.mem_handovers.mp (mem_migration_of_mem_script he (.inr hname))
    rcases hentry with hentry | hentry
    · rw [hentry] at hname
      simp [LogEntry.transact] at hname
    · exact ⟨i, hentry⟩
  · intro dep
    have hwired : m.dependencies.get dep = s.wired c dep := by
      rw [hdeps]
      cases dep <;> rfl
    rw [hwired, Settings.wired]
    by_cases hmock : dep.mock ∈ s.mocks
    · rw [if_pos hmock]
      exact .inr ⟨_, mem_deployments_of_mem_mocks _ hmock, rfl⟩
    · rw [if_neg hmock]
      exact .inl rfl

/-! ## The file of a manifest -/

/-- What can be encoded as an address and has a form in JSON is a text. -/
theorem isPlain_of_encodable {v : Value} (h : encodable "address" v = .ok true)
    (hwrite : ∃ part, Json.writeAt 1 v = .ok part) : Json.isPlain v = true := by
  have hparse : AbiType.parse? "address" = some .address := rfl
  rw [encodable, hparse] at h
  cases v with
  | text s => rfl
  -- Twenty bytes can be encoded as an address as well, but a manifest with them is never written.
  | bytes bs =>
      obtain ⟨part, hpart⟩ := hwrite
      cases hpart
  | _ => cases h

/-- Arguments that a method with one overload takes fit its inputs. -/
theorem allAdmitted_of_takes {t : ContractType} {admits : Admission} {method : String}
    {o : Overload} {args : List Value} (hmethod : t.method? method = some [o])
    (h : t.Takes admits method args) : Arguments.AllAdmitted admits o.inputs args := by
  obtain ⟨overloads, named, hoverloads, hnamed⟩ := h
  obtain rfl : [o] = overloads := Option.some.inj (hmethod.symm.trans hoverloads)
  obtain ⟨o', ho', _, hall⟩ := Arguments.exists_of_forMethod hnamed
  rw [List.mem_singleton.mp ho'] at hall
  exact hall

/-- The core contract takes the external contracts as addresses. -/
theorem encodable_of_takes {deps : Dependencies} {key : Value}
    (hinit : (Artifacts.standard .core).Takes encodable "initialize" (initialArgs deps))
    (hset : (Artifacts.standard .core).Takes encodable "setUntronZKVariables"
      [deps.sp1Verifier, key]) (dep : Dependency) :
    encodable "address" (deps.get dep) = .ok true := by
  have hinitial := allAdmitted_of_takes (o := ⟨"initialize",
    [⟨some "spokePool", "address"⟩, ⟨some "usdt", "address"⟩,
      ⟨some "aggregationRouter", "address"⟩]⟩) rfl hinit
  have hverifier := allAdmitted_of_takes (o := ⟨"setUntronZKVariables",
    [⟨some "verifier", "address"⟩, ⟨some "vkey", "bytes32"⟩]⟩) rfl hset
  simp only [initialArgs, Arguments.AllAdmitted, List.zip_cons_cons, List.zip_nil_right,
    List.forall_mem_cons] at hinitial hverifier
  cases dep with
  | spokePool => exact hinitial.1
  | usdt => exact hinitial.2.1
  | aggregationRouter => exact hinitial.2.2.1
  | sp1Verifier => exact hverifier.1

theorem isPlain_of_isSetOrNull {v : Value} (h : v.IsSetOrNull) : Json.isPlain v = true := by
  rcases h with rfl | ⟨s, rfl, _⟩ <;> rfl

/-- The external contracts on record are texts if they can be encoded as addresses and the manifest
has a text. -/
theorem isPlain_dependencies (h : Builds d s artifacts c m)
    (hdeps : ∀ dep, encodable "address" ((s.wiring c).get dep) = .ok true) {text : List Char}
    (htext : m.text = .ok text) (dep : Dependency) :
    Json.isPlain ((s.wiring c).get dep) = true := by
  have hwritten := Manifest.exists_writeAt_of_text htext
  obtain ⟨-, -, -, hwiring, -, -⟩ := h.eq
  refine isPlain_of_encodable (hdeps dep) ?_
  rw [← hwiring]
  simp only [Manifest.fields, Manifest.fieldNames, Manifest.values, List.zip_cons_cons,
    List.zip_nil_right, List.forall_mem_cons] at hwritten
  obtain ⟨-, -, -, hpool, hrouter, husdt, hverifier, -⟩ := hwritten
  cases dep with
  | spokePool => exact hpool
  | usdt => exact husdt
  | aggregationRouter => exact hrouter
  | sp1Verifier => exact hverifier

/-- The fields of a manifest are texts or nothing if the external contracts on record are. -/
theorem isPlain_fields
    (hrecipients : ∀ p ∈ Role.withRecipients s.recipients, p.2.IsSetOrNull)
    (h : Builds d s artifacts c m) (hdeps : ∀ dep, Json.isPlain ((s.wiring c).get dep) = true) :
    ∀ f ∈ m.fields, Json.isPlain f.2 = true := by
  obtain ⟨hnetwork, hcore, himplementation, hwiring, hrec, hdeployer⟩ := h.eq
  rw [← hwiring] at hdeps
  rw [← hrec] at hrecipients
  simp only [Role.withRecipients, List.forall_mem_cons] at hrecipients
  simp only [Manifest.fields, Manifest.fieldNames, Manifest.values, List.zip_cons_cons,
    List.zip_nil_right, List.forall_mem_cons]
  exact ⟨by rw [hnetwork]; rfl, by rw [hcore]; rfl, by rw [himplementation]; rfl,
    hdeps .spokePool, hdeps .aggregationRouter, hdeps .usdt, hdeps .sp1Verifier,
    isPlain_of_isSetOrNull hrecipients.1, isPlain_of_isSetOrNull hrecipients.2.1,
    isPlain_of_isSetOrNull hrecipients.2.2.1, by rw [hdeployer]; rfl, by simp⟩

/-- **The manifest tells the truth.** Let the settings have been put together from an environment
and parameters, and let the deployer encode as contracts do. Of a run of the standard contracts that
completes, whoever signed, whatever was typed and whatever the chain would have refused, the
manifest says what the entries of the run show, and the file at its path is read as this manifest.
-/
theorem run_truthful [Address.CaseRule] (hs : s.IsResolved) (hd : d.admits = encodable)
    (path : Path) {w w' : World} (hc : w.chain.TellsRolesApart)
    (h : (run d s .standard path).perform w = (.ok m, w')) :
    ∃ es, w'.chain.log = w.chain.log ++ es ∧ m.Truthful s w.chain es ∧
      (Manifest.read path).perform w' = (.ok m, w') := by
  obtain ⟨w₁, hexecute, hwrite⟩ := run_eq_ok h
  obtain ⟨hacc, hbuilds, hinit, hset⟩ :=
    (execute_follows d s w Artifacts.standard_name).of_ok hexecute
  rw [hd] at hinit hset
  have hchain : w'.chain = w₁.chain := by
    have hkeeps := m.write_keepsChain path w₁
    rwa [Action.Keeps, hwrite] at hkeeps
  have hplain : ∀ f ∈ m.fields, Json.isPlain f.2 = true := by
    obtain ⟨text, htext, _⟩ := Manifest.write_eq_ok hwrite
    exact isPlain_fields hs.recipient hbuilds
      (isPlain_dependencies hbuilds (encodable_of_takes hinit hset) htext)
  exact ⟨_, by rw [hchain, hacc.log], truthful_script hc hs.recipient hbuilds,
    Manifest.read_of_write hplain hwrite⟩

/-- The manifest of a whole deployment on the test network. -/
theorem run_truthful_on_test_network :
    Settings.standard.IsResolved ∧ Deployer.standard.admits = encodable ∧
    World.fresh.chain.TellsRolesApart ∧
    ∃ m w' es, (run .standard .standard .standard .standard).perform .fresh = (.ok m, w') ∧
      w'.chain.log = World.fresh.chain.log ++ es ∧
      m.Truthful .standard World.fresh.chain es ∧
      (Manifest.read .standard).perform w' = (.ok m, w') := by
  obtain ⟨m, w', hrun⟩ := Action.exists_perform_eq_ok isOk_run_standard
  obtain ⟨es, hlog, htruthful, hread⟩ := run_truthful Settings.standard_isResolved rfl .standard
    Chain.fresh_tellsRolesApart hrun
  exact ⟨Settings.standard_isResolved, rfl, Chain.fresh_tellsRolesApart, m, w', es, hrun, hlog,
    htruthful, hread⟩

end Pipeline

end Rollout

import Rollout.Proofs.Action.Failing
import Rollout.Proofs.Files.Destination
import Rollout.Proofs.Pipeline.Script

/-!
# Why a deployment can fail

There are four reasons: the operator stops it, the chain refuses, a contract
does not take what it is given, or the manifest cannot be built and written. Each
can be excluded by itself. A deployer that signs on its own asks nobody; a chain
without a fault takes everything; and `Pipeline.Fits` says that all contracts of
a deployment take what they are going to be given, which is known before it
starts.

`Deployer.Excuses d w E` allows the failures that the operator and the chain can
bring about, and `Failure.AllowsMismatch E` those of contracts that do not fit.

## Main results

* `Deployer.transact_failsOnly`, `Deployer.deploy_failsOnly`,
  `Deployer.deployProxy_failsOnly`, `Role.migrate_failsOnly`: the operations.
* `Pipeline.provision_failsOnly`, `Pipeline.deployCore_failsOnly`,
  `Pipeline.execute_failsOnly`: the stages and all of them together.
-/

namespace Rollout

open Rollout.Action (FailsOnly)

/-- A contract type takes arguments for its constructor. -/
def ContractType.TakesNew (t : ContractType) (admits : Admission) (args : List Value) : Prop :=
  ∃ named, Arguments.forConstructor admits t.name t.constructor args = .ok named

/-- Apart from the proxy, the standard contracts are created without arguments. -/
theorem Artifacts.standard_takesNew {k : ContractKind} (hk : k ≠ .proxy) (admits : Admission) :
    (standard k).TakesNew admits [] := by
  cases k <;> first | exact absurd rfl hk | exact ⟨[], rfl⟩

/-- The proxy stands in for no other contract. -/
theorem Settings.ne_proxy_of_mem_mocks {s : Settings} {k : ContractKind} (hk : k ∈ s.mocks) :
    k ≠ .proxy := by
  rintro rfl
  unfold mocks at hk
  revert hk
  split <;> split <;> decide

/-- What a contract that does not fit can bring about is allowed. -/
def Failure.AllowsMismatch (E : Failure → Prop) : Prop :=
  (∀ f, E (.arguments f)) ∧ ∀ name, E (.noSuchMember name)

/-- What the operator and the chain can bring about is allowed. -/
structure Deployer.Excuses (d : Deployer) (w : World) (E : Failure → Prop) : Prop where
  operator : d.autosign = true ∨ (E .aborted ∧ E .inputEnded)
  chain : w.chain.fault = none ∨ ∀ kind contract name, E (.reverted kind contract name)

section

variable {d : Deployer} {w w' : World} {E : Failure → Prop} {es : List LogEntry}

theorem Deployer.Excuses.accepts (h : d.Excuses w E) (hw : w.Accepts es w') : d.Excuses w' E :=
  { operator := h.operator
    chain := h.chain.imp_left hw.unfaulted }

theorem Deployer.Excuses.reverted (h : d.Excuses w E) (e : LogEntry) :
    w.chain.fault = none ∨ E (.reverted e.kind e.contract e.name) :=
  h.chain.imp_right fun hE => hE _ _ _

/-- Where a question is asked, the operator may stop it all. -/
theorem Deployer.Excuses.asks (h : d.Excuses w E) (hasks : (!d.autosign) = true) :
    E .aborted ∧ E .inputEnded := by
  rcases h.operator with hsigns | hE
  · rw [hsigns] at hasks
    cases hasks
  · exact hE

end

/-! ## The deployer's operations -/

namespace Deployer

variable {d : Deployer} {w : World} {E : Failure → Prop}

theorem methodOf_failsOnly {t : ContractType} {method : String} {args : List Value}
    (h : t.Takes d.admits method args ∨ Failure.AllowsMismatch E) :
    (methodOf t method).FailsOnly w E := by
  unfold methodOf
  split
  · exact .pure _
  · rename_i hnone
    rcases h with ⟨overloads, named, hm, _⟩ | hE
    · rw [hm] at hnone
      cases hnone
    · exact .throw (hE.2 _)

/-- Arguments that fit can be named. -/
theorem arguments_failsOnly {r : Except ArgumentFault NamedArgs}
    (h : (∃ named, r = .ok named) ∨ Failure.AllowsMismatch E) :
    (Action.ofExcept (r.mapError Failure.arguments)).FailsOnly w E := by
  refine .ofExcept fun f hf => ?_
  cases r with
  | ok x => cases hf
  | error e =>
      rcases h with ⟨named, hn⟩ | hE
      · cases hn
      · cases hf
        exact hE.1 e

theorem methodArgs_failsOnly {t : ContractType} {method : String} {args : List Value}
    {overloads : List Overload} (hm : t.method? method = some overloads)
    (h : t.Takes d.admits method args ∨ Failure.AllowsMismatch E) :
    (d.methodArgs overloads args).FailsOnly w E := by
  refine arguments_failsOnly (h.imp_left ?_)
  rintro ⟨overloads', named, hm', hn⟩
  rw [hm] at hm'
  cases hm'
  exact ⟨named, hn⟩

theorem shortAddress_failsOnly {c : Contract} (h : c.shortAddress?.isSome = true) :
    (shortAddress c).FailsOnly w E := by
  unfold shortAddress
  split
  · exact .pure _
  · rename_i hnone
    rw [hnone] at h
    cases h

theorem transact_failsOnly (hd : d.Excuses w E) {c : Contract}
    (hc : c.shortAddress?.isSome = true) {method : String} {args : List Value}
    (h : c.type.Takes d.admits method args ∨ Failure.AllowsMismatch E) :
    (d.transact c method args).FailsOnly w E := by
  unfold transact
  refine .bind (methodOf_failsOnly h) (methodOf_follows _ _) fun overloads w₁ h₁ hm => ?_
  refine .bind (methodArgs_failsOnly hm h) (d.methodArgs_follows _ _) fun _ w₂ h₂ _ => ?_
  refine .bind (shortAddress_failsOnly hc) (shortAddress_follows c) fun _ w₃ h₃ _ => ?_
  refine .bind (.say _) (.say _) fun _ w₄ h₄ _ => ?_
  have hd₄ : d.Excuses w₄ E := hd.accepts (((h₁.trans h₂).trans h₃).trans h₄)
  refine .askIf_bind (fun hasks => ?_) (.ask _) fun w₅ h₅ => ?_
  · exact .ask _ (hd₄.asks hasks).1 (hd₄.asks hasks).2
  · refine .bind (.submit ((hd₄.accepts h₅).reverted _)) (.submit rfl) fun _ _ _ _ => ?_
    exact .get_bind (.pure _)

theorem deploy_failsOnly (hd : d.Excuses w E) {t : ContractType} {args : List Value}
    (h : t.TakesNew d.admits args ∨ Failure.AllowsMismatch E) :
    (d.deploy t args).FailsOnly w E := by
  unfold deploy
  refine .bind (arguments_failsOnly h) (.ofExcept _) fun named w₁ h₁ _ => ?_
  have hd₁ : d.Excuses w₁ E := hd.accepts h₁
  refine .askIf_bind (fun hasks => ?_) (.askDeployment _ _) fun w₂ h₂ => ?_
  · exact .askDeployment _ _ (hd₁.asks hasks).1 (hd₁.asks hasks).2
  · refine .bind (.submitDeployment ((hd₁.accepts h₂).reverted _)) (.submitDeployment rfl)
      fun _ _ _ _ => ?_
    exact .bind_pure (.say _)

theorem encode_failsOnly (hd : d.Excuses w E) {c : Contract} {method : String}
    {args : List Value} (h : c.type.Takes d.admits method args ∨ Failure.AllowsMismatch E) :
    (d.encode c method args).FailsOnly w E := by
  unfold encode
  refine .bind (methodOf_failsOnly h) (methodOf_follows _ _) fun overloads w₁ h₁ hm => ?_
  refine .bind (methodArgs_failsOnly hm h) (d.methodArgs_follows _ _) fun _ w₂ h₂ _ => ?_
  refine .bind (.submit ((hd.accepts (h₁.trans h₂)).reverted _)) (.submit rfl) fun _ _ _ _ => ?_
  exact .get_bind (.pure _)

theorem deployProxy_failsOnly (hd : d.Excuses w E) {proxy target : ContractType}
    {implementation : Contract} {method : String} {args : List Value}
    (hinit : implementation.type.Takes d.admits method args ∨ Failure.AllowsMismatch E)
    (hproxy : proxy.TakesNew d.admits
        [implementation.address,
         .bytes (w.chain.callData (.encode implementation.type.name method args))] ∨
      Failure.AllowsMismatch E) :
    (d.deployProxy proxy target implementation method args).FailsOnly w E := by
  unfold deployProxy
  refine .bind (encode_failsOnly hd hinit) (d.encode_follows _ _ _) fun data w₁ h₁ hdata => ?_
  obtain ⟨rfl, _⟩ := hdata
  refine .bind (.say _) (.say _) fun _ w₂ h₂ _ => ?_
  refine .bind (deploy_failsOnly (hd.accepts (h₁.trans h₂)) hproxy) (d.deploy_follows _ _)
    fun _ _ _ _ => ?_
  exact .bind_pure (.say _)

end Deployer

/-! ## Roles -/

namespace Role

variable {d : Deployer} {w : World} {E : Failure → Prop} {core : Contract}

theorem identifier_failsOnly {getter : String} (hg : getter ∈ roleGetters)
    (h : (w.chain.roleId? getter).isSome = true ∨ Failure.AllowsMismatch E) :
    (identifier core getter).FailsOnly w E := by
  unfold identifier
  refine .get_bind ?_
  rw [method?_of_mem_roleGetters core.type hg]
  cases hid : w.chain.roleId? getter with
  | some id => exact .pure _
  | none =>
      have hdata : dataNames.contains getter = false := by
        have hall : ∀ g ∈ roleGetters, dataNames.contains g = false := by decide
        exact hall getter hg
      rw [hid] at h
      dsimp only
      rw [hdata]
      exact .throw ((h.resolve_left Bool.false_ne_true).2 getter)

theorem callEach_failsOnly (hd : d.Excuses w E) (hc : core.shortAddress?.isSome = true)
    {method : String} {ids : List Value} {account : Value}
    (h : ∀ id ∈ ids, core.type.Takes d.admits method [id, account] ∨ Failure.AllowsMismatch E) :
    (callEach d core method ids account).FailsOnly w E := by
  unfold callEach
  refine .forM ids w (fun id _ _ w' _ => ⟨_, _, call_follows d core method id account w'⟩)
    fun id hid _ w' hw' => ?_
  exact .bind_pure (Deployer.transact_failsOnly (hd.accepts hw') hc (h id hid))

/-- What the handover of a role calls for is there: its identifiers, and methods that take them with
the account of the recipient and of the holder. -/
structure Fits (admits : Admission) (c : Chain) (core : ContractType) (holder : Value)
    (p : Role × Value) : Prop where
  ids : ∀ g ∈ p.1.getters, (c.roleId? g).isSome = true
  grants : ∀ g ∈ p.1.getters, core.Takes admits "grantRole" [c.idOf g, p.2]
  revokes : ∀ g ∈ p.1.getters, core.Takes admits "revokeRole" [c.idOf g, holder]

/-- What has been accepted since changes no identifier. -/
theorem Fits.accepts {admits : Admission} {t : ContractType} {holder : Value}
    {p : Role × Value} {w w' : World} {es : List LogEntry} (h : Fits admits w.chain t holder p)
    (hw : w.Accepts es w') : Fits admits w'.chain t holder p :=
  { ids := by
      rw [hw.roleId?]
      exact h.ids
    grants := by
      rw [hw.idOf]
      exact h.grants
    revokes := by
      rw [hw.idOf]
      exact h.revokes }

theorem transfer_failsOnly (hd : d.Excuses w E) (hc : core.shortAddress?.isSome = true)
    {p : Role × Value} {holder : Value} (hgetters : ∀ g ∈ p.1.getters, g ∈ roleGetters)
    (h : Fits d.admits w.chain core.type holder p ∨ Failure.AllowsMismatch E) :
    (transfer d core p.1 p.2 holder).FailsOnly w E := by
  unfold transfer
  refine .bind (.say _) (.say _) fun _ w₁ h₁ _ => ?_
  replace h := h.imp_left fun hfits => hfits.accepts h₁
  have hids : (p.1.getters.mapM (identifier core)).FailsOnly w₁ E := by
    refine .mapM _ w₁ (fun g hg _ w' _ => ⟨_, _, identifier_follows core (hgetters g hg) w'⟩)
      fun g hg _ w' hw' => identifier_failsOnly (hgetters g hg) ?_
    exact h.imp_left fun hfits => (hfits.accepts hw').ids g hg
  refine .bind hids (identifiers_follow core hgetters w₁) fun ids w₂ h₂ hids => ?_
  subst hids
  have hd₂ : d.Excuses w₂ E := hd.accepts (h₁.trans h₂)
  refine .bind (callEach_failsOnly hd₂ hc fun id hid => h.imp_left fun hfits => ?_)
    (callEach_follows d core _ _ _ w₂) fun _ w₃ h₃ _ => ?_
  · obtain ⟨g, hg, rfl⟩ := List.mem_map.mp hid
    exact hfits.grants g hg
  · refine callEach_failsOnly (hd₂.accepts h₃) hc fun id hid => h.imp_left fun hfits => ?_
    obtain ⟨g, hg, rfl⟩ := List.mem_map.mp hid
    exact hfits.revokes g hg

theorem migrate_failsOnly (hd : d.Excuses w E) (hc : core.shortAddress?.isSome = true)
    {recipients : Recipients} {holder : Value}
    (h : (∀ p ∈ moving recipients, Fits d.admits w.chain core.type holder p) ∨
      Failure.AllowsMismatch E) :
    (migrate d core recipients holder).FailsOnly w E := by
  unfold migrate
  refine .bind_pure (.mapM _ w (fun p hp _ w' _ => ?_) fun p hp _ w' hw' => ?_)
  · exact ⟨_, _, migrateOne_follows d core holder p (getters_subset hp) w'⟩
  · show (migrateOne d core p.1 p.2 holder).FailsOnly w' E
    unfold migrateOne
    split
    · exact .bind_pure (.say _)
    · rename_i hset
      have hmoving : p ∈ moving recipients := List.mem_filter.mpr ⟨hp, by simp [hset]⟩
      refine .bind_pure (transfer_failsOnly (hd.accepts hw') hc (getters_subset hp) ?_)
      exact h.imp_left fun hfits => (hfits p hmoving).accepts hw'

end Role

theorem configureVerifier_failsOnly {d : Deployer} {w : World} {E : Failure → Prop}
    (hd : d.Excuses w E) {core : Contract} (hc : core.shortAddress?.isSome = true)
    {verifier key : Value}
    (h : core.type.Takes d.admits "setUntronZKVariables" [verifier, key] ∨
      Failure.AllowsMismatch E) :
    (configureVerifier d core verifier key).FailsOnly w E := by
  unfold configureVerifier
  refine .bind (.say _) (.say _) fun _ w₁ h₁ _ => ?_
  exact .bind_pure (Deployer.transact_failsOnly (hd.accepts h₁) hc h)

/-! ## The manifest -/

namespace Manifest

variable {E : Failure → Prop} {path : Path} {w : World}

/-- Where a step on the files goes well or errors of files are allowed, it fails only so. -/
private theorem allowed_of_mapError {α : Type} {r : Except FileError α} {f : Failure}
    (h : (∃ x, r = .ok x) ∨ ∀ e, E (.file e)) (hf : r.mapError Failure.file = .error f) : E f := by
  cases r with
  | ok x => cases hf
  | error e =>
      cases hf
      rcases h with ⟨x, hx⟩ | hE
      · cases hx
      · exact hE e

private theorem finish_failsOnly {m : Manifest}
    (hfiles : (∃ place, w.files.draftPlace path = .ok place) ∧ Store.EndsWithName path ∧
      w.files.LeadsToFile path ∨ ∀ e, E (.file e))
    (htext : (∃ text, m.text = .ok text) ∨ ∀ e, E (textFailure e)) :
    (finish m path).FailsOnly w E := by
  unfold finish
  refine .bind_of_ok (fun f hf => ?_) fun _ w₁ hw₁ => ?_
  · rw [perform_checkDraft] at hf
    refine allowed_of_mapError (hfiles.imp_left ?_) hf
    rintro ⟨⟨place, hplace⟩, -⟩
    exact ⟨(), by rw [hplace]; rfl⟩
  obtain rfl := checkDraft_eq_ok hw₁
  cases hm : m.text with
  | error e =>
      rw [hm] at htext
      exact .throw (htext.resolve_left (fun ⟨_, h⟩ => by cases h) e)
  | ok text =>
      refine .bind_of_ok (fun f hf => ?_) fun _ _ _ => .say _
      rw [perform_put] at hf
      refine allowed_of_mapError (hfiles.imp_left fun h => ?_) hf
      obtain ⟨files, hput⟩ := (Store.replace_isOk_iff (Text.encode text)).mpr h.2
      exact ⟨(), by rw [hput]; rfl⟩

/-- Writing fails with an error of a file, where the files do not receive one, or because a field
has no text. -/
theorem write_failsOnly {m : Manifest} (hfiles : w.files.Receives path ∨ ∀ e, E (.file e))
    (htext : (∃ text, m.text = .ok text) ∨ ∀ e, E (textFailure e)) :
    (m.write path).FailsOnly w E := by
  rw [write_eq]
  refine .bind_of_ok (fun f hf => ?_) fun _ w₁ hw₁ => ?_
  · rw [perform_makeParent] at hf
    exact allowed_of_mapError (hfiles.imp_left fun h => ⟨(), h.parent⟩) hf
  replace hfiles : (∃ place, w₁.files.draftPlace path = .ok place) ∧ Store.EndsWithName path ∧
      w₁.files.LeadsToFile path ∨ ∀ e, E (.file e) := by
    rw [makeParent_eq_ok hw₁]
    exact hfiles.imp_left fun h => ⟨h.draft, h.named, h.free⟩
  refine .bind_of_ok (fun f hf => ?_) fun taken w₂ hw₂ => ?_
  · rw [perform_isTaken] at hf
    refine allowed_of_mapError (hfiles.imp_left fun h => ?_) hf
    exact Store.contains_isOk_of_leadsToFile h.2.2
  obtain rfl := isTaken_eq_ok hw₂
  cases taken with
  | true =>
      refine .bind_of_ok (.say _) fun _ w₃ hw₃ => ?_
      have hsame : w₃.files = w₂.files := by rw [← (Prod.mk.inj hw₃).2]
      rw [← hsame] at hfiles
      exact finish_failsOnly hfiles htext
  | false => exact finish_failsOnly hfiles htext

/-- A path that a manifest was written to receives files. -/
theorem receives_of_write {m : Manifest} {w' : World}
    (h : (m.write path).perform w = (.ok (), w')) : w.files.Receives path := by
  obtain ⟨hparent, w₁, hmade, hfinish⟩ := finish_of_write h
  obtain ⟨text, _, hreplace⟩ := finish_eq_ok hfinish
  obtain ⟨hnamed, hfree⟩ := (Store.replace_isOk_iff _).mp ⟨w'.files, hreplace⟩
  obtain ⟨_, w₂, hdraft, _⟩ := Action.perform_bind_eq_ok.mp hfinish
  rw [perform_checkDraft] at hdraft
  have hok := Outcome.mapError_eq_ok.mp (Prod.mk.inj hdraft).1
  rw [hmade] at hfree hok
  refine
    { parent := hparent
      draft := ?_
      named := hnamed
      free := hfree }
  cases hplace : (w.files.withParent path).draftPlace path with
  | ok place => exact ⟨place, rfl⟩
  | error e =>
      rw [Store.withParent] at hplace
      rw [hplace] at hok
      cases hok

end Manifest

/-! ## The stages -/

namespace Pipeline

variable {d : Deployer} {s : Settings} {artifacts : Artifacts} {w : World} {E : Failure → Prop}

theorem deployMock_failsOnly (hd : d.Excuses w E) {k : ContractKind}
    (h : (artifacts k).TakesNew d.admits [] ∨ Failure.AllowsMismatch E) :
    (deployMock d artifacts k).FailsOnly w E := by
  unfold deployMock
  exact .bind_pure (Deployer.deploy_failsOnly hd h)

theorem provisionOthers_failsOnly (hd : d.Excuses w E)
    (h : s.mockDependencies = true → ∀ dep : Dependency, dep ≠ .sp1Verifier →
      (artifacts dep.mock).TakesNew d.admits [] ∨ Failure.AllowsMismatch E) :
    (provisionOthers d s artifacts).FailsOnly w E := by
  unfold provisionOthers
  by_cases hmocks : s.mockDependencies = true
  · rw [if_pos hmocks]
    refine .bind (deployMock_failsOnly hd (h hmocks .usdt nofun))
      (deployMock_follows d artifacts w _) fun usdt w₁ h₁ _ => ?_
    refine .bind (deployMock_failsOnly (hd.accepts h₁) (h hmocks .spokePool nofun))
      (deployMock_follows d artifacts w₁ _) fun pool w₂ h₂ _ => ?_
    have hd₂ : d.Excuses w₂ E := hd.accepts (h₁.trans h₂)
    exact .bind_pure (deployMock_failsOnly hd₂ (h hmocks .aggregationRouter nofun))
  · rw [if_neg hmocks]
    exact .pure _

theorem provisionVerifier_failsOnly (hd : d.Excuses w E) {found : Dependencies}
    (h : s.mockVerifier = true →
      (artifacts .mockVerifier).TakesNew d.admits [] ∨ Failure.AllowsMismatch E) :
    (provisionVerifier d s artifacts found).FailsOnly w E := by
  unfold provisionVerifier
  by_cases hmock : s.mockVerifier = true
  · rw [if_pos hmock]
    exact .bind_pure (deployMock_failsOnly hd (h hmock))
  · rw [if_neg hmock]
    exact .pure _

/-- The external contracts can be provided if every mock takes an empty list of arguments. -/
theorem provision_failsOnly (hd : d.Excuses w E)
    (h : (∀ k ∈ s.mocks, (artifacts k).TakesNew d.admits []) ∨ Failure.AllowsMismatch E) :
    (provision d s artifacts).FailsOnly w E := by
  have hmock : ∀ dep : Dependency,
      (if dep = .sp1Verifier then s.mockVerifier else s.mockDependencies) = true →
        (artifacts dep.mock).TakesNew d.admits [] ∨ Failure.AllowsMismatch E :=
    fun dep hdep => h.imp_left fun hall => hall _ ((s.mock_mem_mocks dep).mpr hdep)
  rw [provision_eq]
  refine .bind (provisionOthers_failsOnly hd fun hmocks dep hdep => ?_)
    (provisionOthers_follows d s artifacts w) fun found w₁ h₁ _ => ?_
  · refine hmock dep ?_
    rw [if_neg hdep]
    exact hmocks
  · exact provisionVerifier_failsOnly (hd.accepts h₁) (hmock .sp1Verifier)

theorem deployCore_failsOnly (hd : d.Excuses w E) {deps : Dependencies}
    (hcore : (artifacts .core).TakesNew d.admits [] ∨ Failure.AllowsMismatch E)
    (hinit : (artifacts .core).Takes d.admits "initialize" (initialArgs deps) ∨
      Failure.AllowsMismatch E)
    (hproxy : (artifacts .proxy).TakesNew d.admits
        [w.chain.nextAddress 0, .bytes (initialData w.chain (artifacts .core).name deps)] ∨
      Failure.AllowsMismatch E) :
    (deployCore d artifacts deps).FailsOnly w E := by
  unfold deployCore
  refine .bind (Deployer.deploy_failsOnly hd hcore) (d.deploy_follows _ _) fun c w₁ h₁ hc => ?_
  subst hc
  rw [← initialData_accepts h₁] at hproxy
  exact .bind_pure (Deployer.deployProxy_failsOnly (hd.accepts h₁) hinit hproxy)

/-- All contracts of a deployment take what they are going to be given. -/
structure Fits (d : Deployer) (s : Settings) (artifacts : Artifacts) (c : Chain) : Prop where
  mocks : ∀ k ∈ s.mocks, (artifacts k).TakesNew d.admits []
  core : (artifacts .core).TakesNew d.admits []
  initializer : (artifacts .core).Takes d.admits "initialize" (initialArgs (s.wiring c))
  proxy : (artifacts .proxy).TakesNew d.admits
    [implementationAddress s c, .bytes (initialData c (artifacts .core).name (s.wiring c))]
  roles : ∀ p ∈ Role.moving s.recipients,
    Role.Fits d.admits c (artifacts .core) (.text d.address) p
  verifier : (artifacts .core).Takes d.admits "setUntronZKVariables"
    [s.wired c .sp1Verifier, .bytes s.verificationKey]

/-- All stages together fail only as the operator, the chain, contracts that do not fit or the
building of the manifest make them fail. -/
theorem execute_failsOnly (hd : d.Excuses w E)
    (hfits : Fits d s artifacts w.chain ∨ Failure.AllowsMismatch E)
    (hbuild : ∀ f, Manifest.build s (coreContract artifacts (proxyAddress s w.chain))
      (coreContract artifacts (implementationAddress s w.chain)) (s.wiring w.chain)
      (.text d.address) = .error f → E f) :
    (execute d s artifacts).FailsOnly w E := by
  unfold execute
  refine .bind (provision_failsOnly hd (hfits.imp_left (·.mocks)))
    (provision_follows d s artifacts w) fun deps w₁ h₁ hdeps => ?_
  subst hdeps
  have himpl := nextAddress_of_mockPlan h₁
  have hproxy := nextAddress_one_of_mockPlan h₁
  refine .bind (deployCore_failsOnly (hd.accepts h₁) (hfits.imp_left (·.core))
      (hfits.imp_left (·.initializer)) ?_) (deployCore_follows d artifacts w₁ _)
    fun made w₂ h₂ hmade => ?_
  · rw [himpl, initialData_accepts h₁]
    exact hfits.imp_left (·.proxy)
  obtain ⟨rfl, _⟩ := hmade
  have hd₂ : d.Excuses w₂ E := hd.accepts (h₁.trans h₂)
  refine .bind (Role.migrate_failsOnly hd₂ rfl (hfits.imp_left fun h p hp => ?_))
    (Role.migrate_follows d _ _ _ w₂) fun _ w₃ h₃ _ => ?_
  · exact (h.roles p hp).accepts (h₁.trans h₂)
  refine .bind (configureVerifier_failsOnly (hd₂.accepts h₃) rfl (hfits.imp_left (·.verifier)))
    (configureVerifier_follows d w₃ _ _ _) fun _ _ _ _ => ?_
  refine .ofExcept fun f hf => hbuild f ?_
  rw [← hproxy, ← himpl]
  exact hf

/-- A whole run fails as one of its stages does, or because the manifest cannot be written. -/
theorem run_failsOnly {path : Path} (hexecute : (execute d s artifacts).FailsOnly w E)
    (hwrite : ∀ m w', (execute d s artifacts).perform w = (.ok m, w') →
      (m.write path).FailsOnly w' E) :
    (run d s artifacts path).FailsOnly w E := by
  unfold run
  refine .bind_of_ok hexecute fun m w' hm => ?_
  exact .bind_of_ok (hwrite m w' hm) fun _ _ _ => .pure m

end Pipeline

end Rollout

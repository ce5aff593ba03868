import Rollout.Proofs.Pipeline.Failing

/-!
# The check before the start

Two places know which external contracts are real and which are mocks. The check
before the start collects the real ones whose address is not known; provisioning
takes the addresses of the real ones from the settings and puts mocks in place of
the others. They agree: on a chain that gives no contract the placeholder for an
address, what the check collects are the placeholders among the addresses that
provisioning gives (`Settings.unresolved_eq`).

The last check of a deployment, which keeps placeholders out of the manifest,
comes when all is deployed. After a check before the start that passed it finds
nothing (`Pipeline.build_of_preflight`).

## Main results

* `Pipeline.provision_agrees_with_preflight`: both agree, provisioning succeeds
  where deployments do, and a manifest can be built of the results.
* `Pipeline.run_failsOnly_of_preflight`: no run fails for a placeholder then.
-/

namespace Rollout

namespace Dependency

/-- The external contracts in the order in which the check names them. -/
def all : List Dependency := [.spokePool, .usdt, .aggregationRouter, .sp1Verifier]

theorem mem_all (dep : Dependency) : dep ∈ all := by
  cases dep <;> decide

end Dependency

/-- The external contracts whose address is not known. -/
def Dependencies.unresolved (deps : Dependencies) : List Dependency :=
  Dependency.all.filter fun dep => isUnresolved (deps.get dep)

theorem Dependencies.unresolved_eq_nil_iff {deps : Dependencies} :
    deps.unresolved = [] ↔ ∀ dep, isUnresolved (deps.get dep) = false := by
  rw [unresolved, List.filter_eq_nil_iff]
  constructor
  · intro h dep
    exact Bool.eq_false_iff.mpr (h dep dep.mem_all)
  · intro h dep _
    exact Bool.eq_false_iff.mp (h dep)

/-- No contract of the chain gets the placeholder for an address. -/
def Chain.AvoidsPlaceholder (c : Chain) : Prop := ∀ n, c.addressOf n ≠ placeholder

theorem Chain.GivesAddresses.avoidsPlaceholder {c : Chain} (hc : c.GivesAddresses) :
    c.AvoidsPlaceholder := fun n => ne_placeholder_of_isAddress (hc n)

theorem Chain.AvoidsPlaceholder.isUnresolved {c : Chain} (hc : c.AvoidsPlaceholder) (n : Nat) :
    isUnresolved (c.nextAddress n) = false := by
  rw [← Bool.not_eq_true, Rollout.isUnresolved, Chain.nextAddress, Value.isText_text, beq_iff_eq]
  exact hc _

namespace Settings

variable {s : Settings} {c : Chain}

theorem get_wiring (s : Settings) (c : Chain) (dep : Dependency) :
    (s.wiring c).get dep = s.wired c dep := by
  cases dep <;> rfl

/-- An address that was wired is a placeholder only where there is no mock and the settings have
one. -/
theorem isUnresolved_wired (hc : c.AvoidsPlaceholder) (dep : Dependency) :
    isUnresolved (s.wired c dep) =
      (!decide (dep.mock ∈ s.mocks) && isUnresolved (s.defaults.get dep)) := by
  unfold wired
  by_cases hmock : dep.mock ∈ s.mocks
  · rw [if_pos hmock, hc.isUnresolved]
    simp [hmock]
  · rw [if_neg hmock]
    simp [hmock]

/-- Items that are only looked for under a condition. -/
private theorem filter_unless {α : Type} (b : Bool) (q : α → Bool) (xs : List α) :
    (if b = true then [] else xs.filter q) = xs.filter fun x => !b && q x := by
  cases b <;> simp

/-- The check before the start collects the placeholders among the wired addresses. -/
theorem unresolved_eq (hc : c.AvoidsPlaceholder) : s.unresolved = (s.wiring c).unresolved := by
  have hsplit : Dependency.all = [.spokePool, .usdt, .aggregationRouter] ++ [.sp1Verifier] := rfl
  have hwired : ∀ dep, isUnresolved ((s.wiring c).get dep) =
      (!(if dep = .sp1Verifier then s.mockVerifier else s.mockDependencies) &&
        isUnresolved (s.defaults.get dep)) := by
    intro dep
    rw [get_wiring, isUnresolved_wired hc]
    simp only [s.mock_mem_mocks dep, Bool.decide_eq_true]
  unfold unresolved Dependencies.unresolved
  rw [hsplit, List.filter_append, filter_unless, filter_unless]
  congr 1
  · refine List.filter_congr fun dep hdep => ?_
    have hne : dep ≠ .sp1Verifier := by
      rintro rfl
      revert hdep
      decide
    rw [hwired, if_neg hne]
  · refine List.filter_congr fun dep hdep => ?_
    rw [hwired, if_pos (List.mem_singleton.mp hdep)]

theorem preflight_eq_ok_iff : s.preflight = .ok () ↔ s.unresolved = [] := by
  unfold preflight
  rw [← List.isEmpty_iff]
  split <;> simp [*]

theorem preflight_eq_error {fault : ConfigFault} (h : s.preflight = .error fault) :
    fault = .unresolved s.unresolved := by
  unfold preflight at h
  split at h
  · cases h
  · cases h
    rfl

end Settings

/-! ## The manifest -/

namespace Manifest

/-- A manifest without a placeholder can be built. -/
theorem build_of_resolved {s : Settings} {core implementation : Contract} {deps : Dependencies}
    {deployer : Value} (hcore : isUnresolved core.address = false)
    (himpl : isUnresolved implementation.address = false)
    (hdeps : ∀ dep, isUnresolved (deps.get dep) = false)
    (hrecipients : ∀ p ∈ Role.withRecipients s.recipients, isUnresolved p.2 = false)
    (hdeployer : isUnresolved deployer = false) :
    ∃ m, build s core implementation deps deployer = .ok m := by
  have hnetwork : isUnresolved (.text s.network) = false := by
    unfold Settings.network
    cases s.target <;> decide
  simp only [Role.withRecipients, List.forall_mem_cons] at hrecipients
  obtain ⟨hadmin, hcreator, hregistrar, -⟩ := hrecipients
  have hall : ∀ m : Manifest, (∀ v ∈ m.values, isUnresolved v = false) → m.placeholder? = none := by
    intro m hm
    rw [placeholder?, Option.map_eq_none_iff, List.find?_eq_none]
    intro f hf
    rw [hm f.2 (List.of_mem_zip hf).2]
    exact Bool.false_ne_true
  unfold build
  dsimp only
  rw [hall]
  · exact ⟨_, rfl⟩
  · simp only [values, List.forall_mem_cons]
    exact ⟨hnetwork, hcore, himpl, hdeps .spokePool, hdeps .aggregationRouter, hdeps .usdt,
      hdeps .sp1Verifier, hadmin, hcreator, hregistrar, hdeployer, by simp⟩

end Manifest

namespace Pipeline

variable {d : Deployer} {s : Settings} {artifacts : Artifacts} {w : World}

/-- What else is put on record is no placeholder: the recipients were read from an environment, and
the deployer has an address. -/
structure Accountable [Address.CaseRule] (d : Deployer) (s : Settings) : Prop where
  recipients : ∃ env, Settings.recipientsOf env = .ok s.recipients
  deployer : d.address ≠ placeholder

/-- When the check before the start has passed, a manifest can be built of what is deployed. -/
theorem build_of_preflight [Address.CaseRule] (artifacts : Artifacts) (hpass : s.preflight = .ok ())
    (h : Accountable d s) {c c' : Chain}
    (hc : c.AvoidsPlaceholder) (hc' : c'.AvoidsPlaceholder) (n n' : Nat) :
    ∃ m, Manifest.build s (coreContract artifacts (c'.nextAddress n))
      (coreContract artifacts (c'.nextAddress n')) (s.wiring c) (.text d.address) = .ok m := by
  refine Manifest.build_of_resolved (hc'.isUnresolved n) (hc'.isUnresolved n') ?_ ?_ ?_
  · rw [← Dependencies.unresolved_eq_nil_iff, ← Settings.unresolved_eq hc]
    exact Settings.preflight_eq_ok_iff.mp hpass
  · obtain ⟨env, henv⟩ := h.recipients
    exact fun p hp => (Settings.isAddressOrNull_of_recipientsOf henv p hp).isUnresolved
  · rw [← Bool.not_eq_true, isUnresolved, Value.isText_text, beq_iff_eq]
    exact h.deployer

/-- What a failed check before the start says of the addresses that provisioning gives: it names the
placeholders among them, and has a hint for the verifier if that is one. -/
def Explains (fault : ConfigFault) (deps : Dependencies) : Prop :=
  fault = .unresolved deps.unresolved ∧
    (Failure.configuration fault).title? = some "UnresolvedDependency" ∧
    fault.message =
      "Production address unresolved for " ++
        ", ".intercalate (deps.unresolved.map Dependency.name) ++
        "; set it in the params file" ++
        (if isUnresolved deps.sp1Verifier then
          ", set SP1_VERIFIER_ADDRESS or deploy a mock verifier with --mock" else "") ++ "."

theorem explains_of_preflight {c : Chain} (hc : c.AvoidsPlaceholder) {fault : ConfigFault}
    (h : s.preflight = .error fault) : Explains fault (s.wiring c) := by
  obtain rfl := Settings.preflight_eq_error h
  rw [Settings.unresolved_eq hc]
  have hverifier : (s.wiring c).unresolved.contains .sp1Verifier =
      isUnresolved (s.wiring c).sp1Verifier := by
    rw [Bool.eq_iff_iff, List.contains_iff_mem, Dependencies.unresolved, List.mem_filter]
    exact and_iff_right (Dependency.mem_all _)
  refine ⟨rfl, rfl, ?_⟩
  rw [← hverifier]
  rfl

/-- **The check before the start agrees with provisioning.** On a chain that gives no contract the
placeholder for an address, the check passes exactly if there is no placeholder among the addresses
that provisioning gives, and otherwise names those that are. Provisioning does give addresses if the
deployer signs on its own, the chain refuses nothing and the mocks take nothing. And of what a
deployment of which the check has passed has provided and deployed, a manifest can be built. -/
theorem provision_agrees_with_preflight [Address.CaseRule] (d : Deployer) (s : Settings)
    (artifacts : Artifacts) {w : World} (hc : w.chain.AvoidsPlaceholder) :
    (∀ deps w', (provision d s artifacts).perform w = (.ok deps, w') →
      (s.preflight = .ok () ↔ ∀ dep, isUnresolved (deps.get dep) = false) ∧
      ∀ fault, s.preflight = .error fault → Explains fault deps) ∧
    (d.autosign = true → w.chain.fault = none →
      (∀ k ∈ s.mocks, (artifacts k).TakesNew d.admits []) →
      ∃ deps w', (provision d s artifacts).perform w = (.ok deps, w')) ∧
    (s.preflight = .ok () → Accountable d s →
      ∀ deps w₁ core implementation w₂,
        (provision d s artifacts).perform w = (.ok deps, w₁) →
        (deployCore d artifacts deps).perform w₁ = (.ok (core, implementation), w₂) →
        ∃ m, Manifest.build s core implementation deps (.text d.address) = .ok m) := by
  refine ⟨fun deps w' h => ?_, fun hsigns hnone hmocks => ?_, ?_⟩
  · obtain ⟨_, rfl⟩ := (provision_follows d s artifacts w).of_ok h
    refine ⟨?_, fun fault hfault => explains_of_preflight hc hfault⟩
    rw [Settings.preflight_eq_ok_iff, Settings.unresolved_eq hc]
    exact Dependencies.unresolved_eq_nil_iff
  · exact (provision_failsOnly ⟨.inl hsigns, .inl hnone⟩ (.inl hmocks)).exists_ok
  · intro hpass haccountable deps w₁ core implementation w₂ hprovision hcore
    obtain ⟨h₁, rfl⟩ := (provision_follows d s artifacts w).of_ok hprovision
    obtain ⟨_, hmade, _⟩ := (deployCore_follows d artifacts w₁ _).of_ok hcore
    obtain ⟨rfl, rfl⟩ := Prod.mk.inj hmade
    have hc₁ : w₁.chain.AvoidsPlaceholder := fun n => by
      rw [h₁.addressOf]
      exact hc n
    exact build_of_preflight artifacts hpass haccountable hc hc₁ 1 0

/-- The standard settings on their way to production, with a mock for the verifier only. -/
def unresolvedSettings : Settings :=
  { Settings.standard with target := .production, useMockVerifier := true }

theorem standard_accountable [Address.CaseRule] : Accountable .standard .standard :=
  { recipients := ⟨_, Settings.recipientsOf_standard⟩
    deployer := by decide }

/-- The standard settings pass towards the test network; towards production three addresses are not
known. -/
theorem preflight_of_standard_settings :
    World.fresh.chain.AvoidsPlaceholder ∧
    (∃ deps w' fault,
      (provision .standard unresolvedSettings .standard).perform .fresh = (.ok deps, w') ∧
      unresolvedSettings.preflight = .error fault ∧ Explains fault deps ∧
      deps.unresolved = [.spokePool, .usdt, .aggregationRouter]) ∧
    ∃ deps w₁ core implementation w₂ m,
      (provision .standard .standard .standard).perform .fresh = (.ok deps, w₁) ∧
      (deployCore .standard .standard deps).perform w₁ = (.ok (core, implementation), w₂) ∧
      Settings.standard.preflight = .ok () ∧
      Manifest.build .standard core implementation deps (.text Deployer.standard.address) =
        .ok m := by
  have hc : World.fresh.chain.AvoidsPlaceholder := Chain.fresh_givesAddresses.avoidsPlaceholder
  refine ⟨hc, ?_, ?_⟩
  · obtain ⟨hagrees, hreturns, -⟩ :=
      provision_agrees_with_preflight .standard unresolvedSettings .standard hc
    obtain ⟨deps, w', h⟩ := hreturns rfl rfl fun k hk =>
      Artifacts.standard_takesNew (Settings.ne_proxy_of_mem_mocks hk) _
    obtain ⟨fault, hfault⟩ : ∃ fault, unresolvedSettings.preflight = .error fault := ⟨_, rfl⟩
    have hexplains : Explains fault deps := (hagrees deps w' h).2 fault hfault
    refine ⟨deps, w', fault, h, hfault, hexplains, ?_⟩
    have hnamed : fault = .unresolved [.spokePool, .usdt, .aggregationRouter] := by
      cases hfault
      rfl
    rw [hexplains.1] at hnamed
    exact ConfigFault.unresolved.inj hnamed
  · obtain ⟨-, -, hbuilds⟩ := provision_agrees_with_preflight .standard .standard .standard hc
    obtain ⟨m, w', hrun⟩ := Action.exists_perform_eq_ok isOk_run_standard
    obtain ⟨_, hexecute, -⟩ := run_eq_ok hrun
    obtain ⟨deps, w₁, hprovision, hrest⟩ := Action.perform_bind_eq_ok.mp hexecute
    obtain ⟨⟨core, implementation⟩, w₂, hcore, -⟩ := Action.perform_bind_eq_ok.mp hrest
    obtain ⟨m, hm⟩ :=
      hbuilds rfl standard_accountable deps w₁ core implementation w₂ hprovision hcore
    exact ⟨deps, w₁, core, implementation, w₂, m, hprovision, hcore, rfl, hm⟩

/-- Failures of a deployment that come from outside of it: a contract that does not fit, the
operator, the chain, a manifest without a text, and the files. -/
def IsOutside : Failure → Prop
  | .arguments _ => True
  | .noSuchMember _ => True
  | .aborted => True
  | .inputEnded => True
  | .reverted _ _ _ => True
  | .file _ => True
  | .wrongKind => True
  | .circular => True
  | .json _ => True
  | _ => False

/-- A deployment of which the check before the start has passed fails for nothing else, and never
for a placeholder. -/
theorem run_failsOnly_of_preflight [Address.CaseRule] (hpass : s.preflight = .ok ())
    (h : Accountable d s) (hc : w.chain.AvoidsPlaceholder) (path : Path) :
    (run d s artifacts path).FailsOnly w IsOutside := by
  have hexcuses : d.Excuses w IsOutside :=
    { operator := .inr ⟨trivial, trivial⟩
      chain := .inr fun _ _ _ => trivial }
  have hmismatch : Failure.AllowsMismatch IsOutside := ⟨fun _ => trivial, fun _ => trivial⟩
  refine run_failsOnly (execute_failsOnly hexcuses (.inr hmismatch) fun f hf => ?_) fun m w' _ => ?_
  · obtain ⟨m, hm⟩ := build_of_preflight artifacts hpass h hc hc _ _
    rw [proxyAddress, implementationAddress, hm] at hf
    cases hf
  · refine Manifest.write_failsOnly (.inr fun _ => trivial) (.inr fun e => ?_)
    cases e <;> trivial

end Pipeline

end Rollout

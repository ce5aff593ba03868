import Rollout.Proofs.Abi.Overloads
import Rollout.Proofs.Pipeline.Preflight
import Rollout.Proofs.Settings.Constants

/-!
# The standard contracts fit

Every value that a deployment gives to one of its contracts is an address, the
identifier of a role, the verification key or call data, and the standard
contracts take just these in each place. Addresses come from the chain, from the
settings and from the account, so what has to be known of all three is that what
they call an address is one; and then the standard contracts fit.

## Main results

* `Settings.isAddress_wired`: the external contracts have addresses when the check
  before the start has passed.
* `Pipeline.fits_standard`: the standard contracts fit.
-/

namespace Rollout

/-! ## Values that can be encoded -/

theorem encodable_address {s : String} (h : Address.isAddress s = true) :
    encodable "address" (.text s) = .ok true := by
  have hparse : AbiType.parse? "address" = some .address := rfl
  rw [encodable, hparse]
  show Except.ok (Address.isAddress s || AbiType.isRegisteredName s) = _
  rw [h, Bool.true_or]

theorem encodable_bytes32 {bs : Bytes} (h : bs.length = 32) :
    encodable "bytes32" (.bytes bs) = .ok true := by
  have hparse : AbiType.parse? "bytes32" = some (.fixedBytes 32) := rfl
  rw [encodable, hparse]
  show Except.ok (bs.length == 32) = _
  rw [h]
  rfl

theorem encodable_bytes (bs : Bytes) : encodable "bytes" (.bytes bs) = .ok true := by
  have hparse : AbiType.parse? "bytes" = some .bytes := rfl
  rw [encodable, hparse]
  rfl

theorem Value.IsAddress.encodable {v : Value} (h : v.IsAddress) :
    encodable "address" v = .ok true := by
  obtain ⟨s, rfl, hs⟩ := h
  exact encodable_address hs

theorem Chain.GivesAddresses.isAddress {c : Chain} (hc : c.GivesAddresses) (n : Nat) :
    (c.nextAddress n).IsAddress :=
  ⟨_, rfl, hc _⟩

/-- When the check before the start has passed, an external contract is a mock, or its address is
in the settings in its canonical spelling. -/
theorem Settings.wired_of_preflight [Address.CaseRule] {s : Settings} {c : Chain}
    (hc : c.AvoidsPlaceholder) (hpass : s.preflight = .ok ())
    (hknown : ∀ dep, (s.defaults.get dep).IsKnownOrPlaceholder) (dep : Dependency) :
    (∃ n, s.wired c dep = c.nextAddress n) ∨ (s.wired c dep).IsCanonical := by
  have hresolved : isUnresolved (s.wired c dep) = false := by
    have hall := Settings.preflight_eq_ok_iff.mp hpass
    rw [Settings.unresolved_eq hc, Dependencies.unresolved_eq_nil_iff] at hall
    rw [← s.get_wiring]
    exact hall dep
  unfold wired at hresolved ⊢
  split
  · exact .inl ⟨_, rfl⟩
  · rename_i hmock
    rw [if_neg hmock] at hresolved
    refine .inr ((hknown dep).resolve_left ?_)
    rw [hresolved]
    exact Bool.false_ne_true

/-- The external contracts have addresses when the check before the start has passed. -/
theorem Settings.isAddress_wired [Address.CaseRule] {s : Settings} {c : Chain}
    (hc : c.GivesAddresses) (hpass : s.preflight = .ok ())
    (hknown : ∀ dep, (s.defaults.get dep).IsKnownOrPlaceholder) (dep : Dependency) :
    (s.wired c dep).IsAddress := by
  rcases wired_of_preflight hc.avoidsPlaceholder hpass hknown dep with ⟨n, hn⟩ | hcanonical
  · rw [hn]
    exact hc.isAddress n
  · exact hcanonical.isAddress

/-! ## Methods -/

/-- Arguments that fit the only overload of a method are taken. -/
theorem ContractType.takes_of_allAdmitted {t : ContractType} {admits : Admission}
    {method : String} {o : Overload} {args : List Value} (hmethod : t.method? method = some [o])
    (hlen : o.inputs.length = args.length)
    (h : Arguments.AllAdmitted admits o.inputs args) : t.Takes admits method args := by
  obtain ⟨named, hnamed⟩ := Arguments.exists_forMethod hlen h
  exact ⟨[o], named, hmethod, hnamed⟩

/-- The chain has an identifier of 32 bytes for every role. -/
def Chain.KnowsRoles (c : Chain) : Prop :=
  ∀ g ∈ roleGetters, ∃ id, c.roleId? g = some id ∧ id.length = 32

theorem Chain.fresh_knowsRoles : Chain.fresh.KnowsRoles := by
  have hall : ∀ g ∈ roleGetters, (standardRoleId? g).map List.length = some 32 := by
    decide +kernel
  exact fun g hg => Option.map_eq_some_iff.mp (hall g hg)

namespace Artifacts

theorem standard_takes_initialize {pool usdt router : Value} (hpool : pool.IsAddress)
    (husdt : usdt.IsAddress) (hrouter : router.IsAddress) :
    (standard .core).Takes encodable "initialize" [pool, usdt, router] := by
  refine ContractType.takes_of_allAdmitted (o := ⟨"initialize",
    [⟨some "spokePool", "address"⟩, ⟨some "usdt", "address"⟩,
      ⟨some "aggregationRouter", "address"⟩]⟩) rfl rfl ?_
  simp only [Arguments.AllAdmitted, List.zip_cons_cons, List.zip_nil_right,
    List.forall_mem_cons]
  exact ⟨hpool.encodable, husdt.encodable, hrouter.encodable, by simp⟩

/-- Both role methods take an identifier and an account. -/
theorem standard_takes_role {method : String}
    (hmethod : method = "grantRole" ∨ method = "revokeRole") {id : Bytes} {account : Value}
    (hid : id.length = 32) (haccount : account.IsAddress) :
    (standard .core).Takes encodable method [.bytes id, account] := by
  refine ContractType.takes_of_allAdmitted (o := ⟨method,
    [⟨some "role", "bytes32"⟩, ⟨some "account", "address"⟩]⟩) ?_ rfl ?_
  · rcases hmethod with rfl | rfl <;> rfl
  · simp only [Arguments.AllAdmitted, List.zip_cons_cons, List.zip_nil_right,
      List.forall_mem_cons]
    exact ⟨encodable_bytes32 hid, haccount.encodable, by simp⟩

theorem standard_takes_setUntronZKVariables {verifier : Value} {key : Bytes}
    (hverifier : verifier.IsAddress) (hkey : key.length = 32) :
    (standard .core).Takes encodable "setUntronZKVariables" [verifier, .bytes key] := by
  refine ContractType.takes_of_allAdmitted (o := ⟨"setUntronZKVariables",
    [⟨some "verifier", "address"⟩, ⟨some "vkey", "bytes32"⟩]⟩) rfl rfl ?_
  simp only [Arguments.AllAdmitted, List.zip_cons_cons, List.zip_nil_right,
    List.forall_mem_cons]
  exact ⟨hverifier.encodable, encodable_bytes32 hkey, by simp⟩

theorem standard_proxy_takesNew {implementation : Value} (h : implementation.IsAddress)
    (data : Bytes) : (standard .proxy).TakesNew encodable [implementation, .bytes data] := by
  refine Arguments.exists_forConstructor rfl ?_
  simp only [standard, Arguments.AllAdmitted, List.zip_cons_cons, List.zip_nil_right,
    List.forall_mem_cons]
  exact ⟨h.encodable, encodable_bytes data, by simp⟩

end Artifacts

namespace Pipeline

variable {d : Deployer} {s : Settings} {c : Chain}

/-- **The standard contracts fit.** All that a deployment gives to them, they take. -/
theorem fits_standard (hadmits : d.admits = encodable)
    (hdeployer : Address.isAddress d.address = true) (hc : c.GivesAddresses)
    (hroles : c.KnowsRoles) (hwired : ∀ dep, (s.wired c dep).IsAddress)
    (hrecipients : ∀ p ∈ Role.withRecipients s.recipients, p.2.IsAddressOrNull)
    (hkey : s.verificationKey.length = 32) : Fits d s .standard c := by
  have hrole : ∀ p ∈ Role.moving s.recipients, ∀ g ∈ p.1.getters, ∃ id,
      c.roleId? g = some id ∧ c.idOf g = .bytes id ∧ id.length = 32 := by
    intro p hp g hg
    obtain ⟨id, hid, hlen⟩ := hroles g (Role.getters_subset (List.mem_filter.mp hp).1 g hg)
    exact ⟨id, hid, by rw [Chain.idOf, hid], hlen⟩
  have hrecipient : ∀ p ∈ Role.moving s.recipients, p.2.IsAddress := by
    intro p hp
    obtain ⟨hp, hset⟩ := List.mem_filter.mp hp
    refine (hrecipients p hp).resolve_left fun hnull => ?_
    rw [hnull] at hset
    cases hset
  refine
    { mocks := fun k hk => Artifacts.standard_takesNew (Settings.ne_proxy_of_mem_mocks hk) _
      core := Artifacts.standard_takesNew (by decide) _
      initializer := ?_
      proxy := ?_
      roles := fun p hp => ?_
      verifier := ?_ }
  all_goals rw [hadmits]
  · exact Artifacts.standard_takes_initialize (hwired _) (hwired _) (hwired _)
  · exact Artifacts.standard_proxy_takesNew (hc.isAddress _) _
  · refine { ids := fun g hg => ?_, grants := fun g hg => ?_, revokes := fun g hg => ?_ }
    all_goals obtain ⟨id, hid, hidOf, hlen⟩ := hrole p hp g hg
    · rw [hid]
      rfl
    · rw [hidOf]
      exact Artifacts.standard_takes_role (.inl rfl) hlen (hrecipient p hp)
    · rw [hidOf]
      exact Artifacts.standard_takes_role (.inr rfl) hlen ⟨_, rfl, hdeployer⟩
  · exact Artifacts.standard_takes_setUntronZKVariables (hwired _) hkey

end Pipeline

end Rollout

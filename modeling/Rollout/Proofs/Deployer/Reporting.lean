import Rollout.Proofs.Action.Reporting
import Rollout.Proofs.Pipeline.Fitting

/-!
# What the deployer tells of its transactions

A deployer that signs on its own tells a deployment after it and a transaction
before it, each on its lines: the arguments of a transaction with the core
contract can be encoded as addresses or as thirty-two bytes, and what is shown of
these has no line end. They are named after the inputs of the method, because
each method that a deployment calls has one overload with different names.

## Main results

* `Deployer.deploy_reports`, `Deployer.encode_reports`, `Deployer.deployProxy_reports`,
  `Deployer.transact_reports`: each operation reports what it submits.
* `Role.migrate_reports`: so does the migration of the roles.
-/

namespace Rollout

open Text (IsLine)
open Rollout.Action (Reports)

/-! ## Interfaces -/

/-- An overload whose arguments are shown under different names, one on a line. -/
structure Overload.IsPlain (o : Overload) : Prop where
  nodup : (o.inputs.map Input.name).Nodup
  names : ∀ i ∈ o.inputs, IsLine (NamedArgs.shownName i.name)
  types : ∀ i ∈ o.inputs, i.type = "address" ∨ i.type = "bytes32"

/-- The arguments that such an overload takes are shown under its names, one on a line. -/
theorem Overload.IsPlain.named {o : Overload} (ho : o.IsPlain) {args : List Value}
    {named : NamedArgs} (h : Arguments.forMethod encodable [o] args = .ok named) :
    named = (o.inputs.map Input.name).zip args ∧
      ∀ a ∈ named, IsLine (NamedArgs.shownName a.1) ∧ IsLine a.2.shown := by
  have hnamed := Arguments.eq_zip_of_forMethod h ho.nodup
  refine ⟨hnamed, fun a ha => ?_⟩
  obtain ⟨o', ho', -, hall⟩ := Arguments.exists_of_forMethod h
  obtain rfl := List.mem_singleton.mp ho'
  rw [hnamed, List.zip_map_left] at ha
  obtain ⟨⟨i, v⟩, hp, rfl⟩ := List.mem_map.mp ha
  have hi : i ∈ o'.inputs := (List.of_mem_zip hp).1
  have hv : encodable i.type v = .ok true := hall (i, v) hp
  refine ⟨ho.names i hi, ?_⟩
  rcases ho.types i hi with htype | htype
  · rw [htype] at hv
    exact Text.isLine_of_encodable_address hv
  · rw [htype] at hv
    exact Text.isLine_of_encodable_bytes32 hv

/-- The methods that a deployment calls in transactions with the core contract. -/
def calledMethods : List String := ["grantRole", "revokeRole", "setUntronZKVariables"]

theorem isLine_calledMethod {method : String} (h : method ∈ calledMethods) : IsLine method := by
  revert method
  decide

theorem Artifacts.standard_isPlain {method : String} (h : method ∈ calledMethods) :
    ∃ o, (standard .core).method? method = some [o] ∧ o.name = method ∧ o.IsPlain := by
  have hnames : ∀ {m a b : String} {t u : String}, a ≠ b → IsLine a → IsLine b →
      (t = "address" ∨ t = "bytes32") → (u = "address" ∨ u = "bytes32") →
      Overload.IsPlain ⟨m, [⟨some a, t⟩, ⟨some b, u⟩]⟩ := by
    intro m a b t u hne ha hb ht hu
    refine
      { nodup := ?_
        names := List.forall_mem_cons.mpr ⟨ha, List.forall_mem_singleton.mpr hb⟩
        types := List.forall_mem_cons.mpr ⟨ht, List.forall_mem_singleton.mpr hu⟩ }
    simpa using hne
  simp only [calledMethods, List.mem_cons, List.not_mem_nil, or_false] at h
  rcases h with rfl | rfl | rfl
  · exact ⟨_, rfl, rfl, hnames (by decide) (by decide) (by decide) (.inr rfl) (.inl rfl)⟩
  · exact ⟨_, rfl, rfl, hnames (by decide) (by decide) (by decide) (.inr rfl) (.inl rfl)⟩
  · exact ⟨_, rfl, rfl, hnames (by decide) (by decide) (by decide) (.inl rfl) (.inr rfl)⟩

theorem ContractKind.isLine_name (k : ContractKind) : IsLine k.name := by
  cases k <;> decide

theorem Artifacts.isLine_standard_name (k : ContractKind) : IsLine (standard k).name := by
  rw [standard_name]
  exact k.isLine_name

/-- The core contract at an address. -/
structure Contract.IsCore (c : Contract) : Prop where
  type : c.type = Artifacts.standard .core
  address : c.address.IsAddress

/-- The beginning of its address stays on its line. -/
theorem Contract.IsCore.shortAddress?_eq {c : Contract} (hc : c.IsCore) :
    c.shortAddress? = some c.beginning ∧ IsLine c.beginning := by
  obtain ⟨s, hs, haddress⟩ := hc.address
  have hshort : c.shortAddress? = some (String.ofList (s.toList.take 10)) := by
    rw [shortAddress?, hs]
  rw [beginning, hshort]
  refine ⟨rfl, Text.isLine_ofList fun hmem => ?_⟩
  exact Text.isLine_of_isAddress haddress (List.mem_of_mem_take hmem)

theorem World.Accepts.givesAddresses {w w' : World} {es : List LogEntry} (h : w.Accepts es w')
    (hc : w.chain.GivesAddresses) : w'.chain.GivesAddresses := by
  intro n
  rw [h.addressOf]
  exact hc n

/-! ## Operations -/

namespace Deployer

variable {d : Deployer} {core : Contract} {w : World}

theorem methodOf_keeps {γ : Type} {part : World → γ} (t : ContractType) (method : String) :
    (methodOf t method).Keeps part w := by
  unfold methodOf
  split
  · exact .pure _
  · exact .throw _

/-- A contract that does not fit is no refusal by the chain. -/
theorem methodOf_noRefusal (t : ContractType) (method : String) :
    (methodOf t method).FailsOnly w fun f => f.isRefusal = false := by
  unfold methodOf
  split
  · exact .pure _
  · exact .throw rfl

theorem arguments_noRefusal (r : Except ArgumentFault NamedArgs) :
    (Action.ofExcept (r.mapError Failure.arguments)).FailsOnly w
      fun f => f.isRefusal = false :=
  arguments_failsOnly (.inr ⟨fun _ => rfl, fun _ => rfl⟩)

/-- A deployment is told with the address that the contract got. -/
theorem deploy_reports (hsigns : d.autosign = true) (hw : w.chain.GivesAddresses)
    (k : ContractKind) (args : List Value) :
    (d.deploy (Artifacts.standard k) args).Reports core w
      [.deploy (Artifacts.standard k).name args] := by
  unfold deploy
  refine .quiet_bind (.ofExcept _) (.ofExcept _) (arguments_noRefusal _) fun named w₁ h₁ _ => ?_
  rw [hsigns]
  exact .deployment (Artifacts.isLine_standard_name k)
    fun n => Text.isLine_of_isAddress (h₁.givesAddresses hw n)

/-- Call data is not told. -/
theorem encode_reports (c : Contract) (method : String) (args : List Value) :
    (d.encode c method args).Reports core w [.encode c.type.name method args] := by
  have hkeeps : (d.encode c method args).Keeps World.notices w := by
    unfold encode
    refine .bind (methodOf_keeps _ _) fun _ _ _ => .bind (.ofExcept _) fun _ w₁ _ => ?_
    exact .bind (.submit (fun _ _ => rfl) _ w₁) fun _ _ _ => .get_bind (.pure _)
  have hfails : (d.encode c method args).FailsOnly w fun f => f.isRefusal = false := by
    unfold encode
    refine .bind_of_ok (methodOf_noRefusal _ _) fun _ _ _ => ?_
    refine .bind_of_ok (arguments_noRefusal _) fun _ _ _ => ?_
    exact .bind_of_ok (.submit (.inr rfl)) fun _ _ _ => .get_bind (.pure _)
  exact .of_follows (d.encode_follows c method args) hkeeps hfails
    (List.forall_mem_singleton.mpr rfl) (List.forall_mem_singleton.mpr rfl)

/-- A proxy is told like any other deployment, and then what it stands for. -/
theorem deployProxy_reports (hsigns : d.autosign = true) (hw : w.chain.GivesAddresses)
    (k target : ContractKind) (implementation : Contract) (method : String)
    (args : List Value) :
    (d.deployProxy (Artifacts.standard k) (Artifacts.standard target) implementation method
        args).Reports core w
      [.encode implementation.type.name method args,
       .deploy (Artifacts.standard k).name
        [implementation.address,
         .bytes (w.chain.callData (.encode implementation.type.name method args))]] := by
  have hproxy := Artifacts.isLine_standard_name k
  have htarget := Artifacts.isLine_standard_name target
  have haside : (Notice.deployingProxy (Artifacts.standard k).name
      (Artifacts.standard target).name).IsAside := ⟨⟨hproxy, htarget⟩, rfl, rfl⟩
  unfold deployProxy
  refine .bind (encode_reports implementation method args) fun data w₁ hr h₁ => ?_
  obtain ⟨-, rfl, -⟩ := (d.encode_follows implementation method args).of_ok hr
  refine .bind (.say haside) fun _ w₂ _ h₂ => ?_
  refine .bind_quiet (deploy_reports hsigns ((h₁.trans h₂).givesAddresses hw) _ _)
    fun c w₃ hr _ => ?_
  obtain ⟨-, rfl⟩ := (d.deploy_follows _ _).of_ok hr
  have haddress := (h₁.trans h₂).givesAddresses hw (w₂.chain.contracts + 0)
  refine .bind_quiet (.say ⟨?_, rfl, rfl⟩) fun _ _ _ _ => .pure _
  exact ⟨htarget, hproxy, Text.isLine_of_isAddress haddress⟩

/-- A transaction with the core contract is announced, with its arguments under the names of the
method's inputs. -/
theorem transact_reports (hsigns : d.autosign = true) (hadmits : d.admits = encodable)
    (hcore : core.IsCore) {method : String} (hmethod : method ∈ calledMethods)
    (args : List Value) :
    (d.transact core method args).Reports core w [.transact core.type.name method args] := by
  obtain ⟨o, ho, hname, hplain⟩ := Artifacts.standard_isPlain hmethod
  rw [← hcore.type] at ho
  obtain ⟨hshort, hbeginning⟩ := hcore.shortAddress?_eq
  unfold transact
  refine .quiet_bind (methodOf_follows _ _) (methodOf_keeps _ _) (methodOf_noRefusal _ _)
    fun overloads _ _ hm => ?_
  obtain rfl : [o] = overloads := Option.some.inj (ho.symm.trans hm)
  refine .quiet_bind (d.methodArgs_follows _ _) (.ofExcept _) (arguments_noRefusal _)
    fun named _ _ hn => ?_
  rw [hadmits] at hn
  obtain ⟨rfl, hlines⟩ := hplain.named hn
  rw [shortAddress, hshort, hsigns]
  have hinputs : core.type.inputNames method = o.inputs.map Input.name := by
    rw [ContractType.inputNames, ho]
  have hannounced : core.announcement (.transact core.type.name method args) =
      .transacting core.type.name core.beginning (methodName method [o])
        ((o.inputs.map Input.name).zip args) := by
    rw [← hinputs, methodName, hname]
    rfl
  have hclear : (core.announcement (.transact core.type.name method args)).IsClear := by
    have hcontract := hcore.type ▸ Artifacts.isLine_standard_name .core
    have hline : IsLine (methodName method [o]) := by
      rw [methodName, hname]
      exact isLine_calledMethod hmethod
    rw [hannounced]
    exact ⟨hcontract, hbeginning, hline, hlines⟩
  show ((do Action.say _; Action.submit _ : Action Unit) >>= fun _ => get >>= _).Reports _ _ _
  rw [← hannounced]
  exact .bind_quiet (.announce rfl hclear) fun _ _ _ _ => .get_bind (.pure _)

end Deployer

/-! ## Roles -/

namespace Role

variable {d : Deployer} {core : Contract} {w : World}

/-- Identifiers are read, and nothing is told of it. -/
theorem identifier_reports {getter : String} (h : getter ∈ roleGetters) (w : World) :
    (identifier core getter).Reports core w [] := by
  unfold identifier
  refine .get_bind ?_
  rw [method?_of_mem_roleGetters core.type h]
  cases w.chain.roleId? getter with
  | some id => exact .pure _
  | none =>
      refine .throw ?_
      split <;> rfl

section

variable (hsigns : d.autosign = true) (hadmits : d.admits = encodable) (hcore : core.IsCore)

include hsigns hadmits hcore

theorem callEach_reports {method : String} (hmethod : method ∈ calledMethods) (ids : List Value)
    (account : Value) (w : World) :
    (callEach d core method ids account).Reports core w
      (calls core.type.name method ids account) := by
  have hplan : calls core.type.name method ids account =
      ids.flatMap fun id => [LogEntry.transact core.type.name method [id, account]] := by
    rw [calls, List.map_eq_flatMap]
  rw [hplan, callEach]
  refine .forM ids w fun id _ _ w' _ => ?_
  exact .bind_quiet (Deployer.transact_reports hsigns hadmits hcore hmethod _)
    fun _ _ _ _ => .pure _

theorem transfer_reports {role : Role} (hrole : ∀ g ∈ role.getters, g ∈ roleGetters)
    (hname : IsLine role.name) {recipient : Value} (hrecipient : IsLine recipient.shown)
    (holder : Value) (w : World) :
    (transfer d core role recipient holder).Reports core w
      (handover core.type.name (role.getters.map w.chain.idOf) recipient holder) := by
  have haside : (Notice.transferringRole role.name recipient).IsAside :=
    ⟨⟨hname, hrecipient⟩, rfl, rfl⟩
  unfold transfer handover
  refine .nil_bind (.say haside) fun _ w₁ _ h₁ => ?_
  have hids : (role.getters.mapM (identifier core)).Reports core w₁ [] := by
    have hplan : role.getters.flatMap (fun _ => ([] : List LogEntry)) = [] := by simp
    rw [← hplan]
    exact .mapM role.getters w₁ fun g hg _ w' _ => identifier_reports (hrole g hg) w'
  refine hids.nil_bind fun ids w₂ hr _ => ?_
  obtain ⟨-, rfl⟩ := (identifiers_follow core hrole w₁).of_ok hr
  rw [h₁.idOf]
  exact .bind (callEach_reports hsigns hadmits hcore (by decide) _ recipient w₂)
    fun _ w₃ _ _ => callEach_reports hsigns hadmits hcore (by decide) _ holder w₃

theorem migrateOne_reports {p : Role × Value} (hrole : ∀ g ∈ p.1.getters, g ∈ roleGetters)
    (hname : IsLine p.1.name) (hrecipient : IsLine p.2.shown) (holder : Value) (w : World) :
    (migrateOne d core p.1 p.2 holder).Reports core w
      (movePlan core.type.name w.chain.idOf holder p) := by
  have haside : (Notice.noRecipient p.1.name).IsAside := ⟨hname, rfl, rfl⟩
  unfold migrateOne movePlan
  split
  · exact .bind_quiet (.say haside) fun _ _ _ _ => .pure _
  · exact .bind_quiet (transfer_reports hsigns hadmits hcore hrole hname hrecipient holder w)
      fun _ _ _ _ => .pure _

/-- Every transaction of a migration is announced. -/
theorem migrate_reports {recipients : Recipients}
    (hrecipients : ∀ p ∈ withRecipients recipients, p.2.IsAddressOrNull) (holder : Value)
    (w : World) :
    (migrate d core recipients holder).Reports core w
      (migration core.type.name w.chain.idOf recipients holder) := by
  unfold migrate migration moving
  rw [← flatMap_movePlan]
  refine .bind_quiet (.mapM _ w fun p hp done w' hw' => ?_) fun _ _ _ _ => .pure _
  rw [← hw'.idOf]
  have hnames : ∀ role ∈ [admin, unlimitedCreator, registrar], IsLine role.name := by decide
  have hname : IsLine p.1.name := hnames p.1 (List.mem_map_of_mem (f := Prod.fst) hp)
  have hrecipient : IsLine p.2.shown := by
    rcases hrecipients p hp with hnull | ⟨s, hs, haddress⟩
    · rw [hnull]
      decide
    · rw [hs]
      exact Text.isLine_of_isAddress haddress
  exact migrateOne_reports hsigns hadmits hcore (getters_subset hp) hname hrecipient holder w'

end

end Role

/-- Setting the verifier is announced. -/
theorem configureVerifier_reports {d : Deployer} {core : Contract} {w : World}
    (hsigns : d.autosign = true) (hadmits : d.admits = encodable) (hcore : core.IsCore)
    (verifier key : Value) :
    (configureVerifier d core verifier key).Reports core w
      [.transact core.type.name "setUntronZKVariables" [verifier, key]] := by
  have haside : Notice.settingVerifier.IsAside := ⟨trivial, rfl, rfl⟩
  unfold configureVerifier
  refine .nil_bind (.say haside) fun _ w₁ _ _ => ?_
  exact .bind_quiet (Deployer.transact_reports hsigns hadmits hcore (by decide) _)
    fun _ _ _ _ => .pure _

end Rollout

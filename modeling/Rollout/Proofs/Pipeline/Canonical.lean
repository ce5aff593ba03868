import Rollout.Proofs.CommandLine.Deployment

/-!
# Canonical addresses in a deployment

An address has many spellings, and settings bring every address that they read
to its canonical one. A deployment makes up no address of its own: it hands on
those of the settings, of the chain and of the account. So where the chain and
the account spell theirs canonically, every address that is submitted and every
address on record is in its canonical spelling, whatever the parameter file and
the environment had.

`LogEntry.IsCanonical` goes through the forms that an entry of a deployment can
have. Role identifiers, call data and the verification key are no addresses, and
nothing is said of them.

## Main results

* `Pipeline.Canonical.plan`: the plan of a deployment has canonical addresses.
* `Pipeline.Canonical.fields`: so has its manifest.
* `Pipeline.run_canonical`: what the settings of a parameter file are, and what
  every run with them submits and puts on record.
-/

namespace Rollout

/-- Every contract of the chain gets an address in its canonical spelling. -/
def Chain.GivesCanonical [Address.CaseRule] (c : Chain) : Prop :=
  ∀ n, (Value.text (c.addressOf n)).IsCanonical

theorem Chain.GivesCanonical.isCanonical [Address.CaseRule] {c : Chain} (hc : c.GivesCanonical)
    (n : Nat) : (c.nextAddress n).IsCanonical :=
  hc _

theorem Chain.GivesCanonical.givesAddresses [Address.CaseRule] {c : Chain} (hc : c.GivesCanonical) :
    c.GivesAddresses := by
  intro n
  obtain ⟨s, heq, hs⟩ := (hc n).isAddress
  rw [Value.text.inj heq]
  exact hs

/-- An entry of a deployment with all its addresses in their canonical spelling. -/
inductive LogEntry.IsCanonical [Address.CaseRule] : LogEntry → Prop
  | contract (name : String) : IsCanonical (.deploy name [])
  | proxy (name : String) {implementation : Value} (data : Bytes)
      (himplementation : implementation.IsCanonical) :
      IsCanonical (.deploy name [implementation, .bytes data])
  | initializer (name : String) {pool usdt router : Value} (hpool : pool.IsCanonical)
      (husdt : usdt.IsCanonical) (hrouter : router.IsCanonical) :
      IsCanonical (.encode name "initialize" [pool, usdt, router])
  | grant (name : String) (id : Value) {account : Value} (haccount : account.IsCanonical) :
      IsCanonical (.transact name "grantRole" [id, account])
  | revocation (name : String) (id : Value) {account : Value}
      (haccount : account.IsCanonical) :
      IsCanonical (.transact name "revokeRole" [id, account])
  | verifier (name : String) {verifier : Value} (key : Bytes)
      (hverifier : verifier.IsCanonical) :
      IsCanonical (.transact name "setUntronZKVariables" [verifier, .bytes key])

namespace Pipeline

variable {d : Deployer} {s : Settings} {artifacts : Artifacts} {c : Chain} {m : Manifest}

/-- All addresses that a deployment on a chain hands on are in their canonical spelling. -/
structure Canonical [Address.CaseRule] (d : Deployer) (s : Settings) (c : Chain) : Prop where
  wired : ∀ dep, (s.wired c dep).IsCanonical
  recipients : ∀ p ∈ Role.withRecipients s.recipients, p.2.IsCanonicalOrNull
  deployer : (Value.text d.address).IsCanonical
  chain : c.GivesCanonical

namespace Canonical

theorem mockPlan [Address.CaseRule] (artifacts : Artifacts) (s : Settings) :
    ∀ e ∈ Pipeline.mockPlan artifacts s, e.IsCanonical := by
  intro e he
  obtain ⟨k, -, rfl⟩ := List.mem_map.mp he
  exact .contract _

theorem corePlan [Address.CaseRule] (h : Canonical d s c) (artifacts : Artifacts) :
    ∀ e ∈ Pipeline.corePlan artifacts c (s.wiring c) (implementationAddress s c),
      e.IsCanonical := by
  have himplementation : (implementationAddress s c).IsCanonical := h.chain.isCanonical _
  simp only [Pipeline.corePlan, List.forall_mem_cons]
  exact ⟨.contract _, .initializer _ (h.wired _) (h.wired _) (h.wired _),
    .proxy _ _ himplementation, by simp⟩

/-- A role is only handed over to a recipient that is set. -/
theorem migration [Address.CaseRule] (h : Canonical d s c) (core : String) :
    ∀ e ∈ Role.migration core c.idOf s.recipients (.text d.address), e.IsCanonical := by
  intro e he
  obtain ⟨p, hp, i, -, hentry⟩ := Role.mem_handovers.mp he
  obtain ⟨hp, hset⟩ := List.mem_filter.mp hp
  have hrecipient : p.2.IsCanonical := by
    refine (h.recipients p hp).resolve_left ?_
    intro hnull
    rw [hnull] at hset
    cases hset
  rcases hentry with rfl | rfl
  · exact .grant _ _ hrecipient
  · exact .revocation _ _ h.deployer

/-- The plan of a deployment has canonical addresses, whatever the names of the contracts. -/
theorem plan [Address.CaseRule] (h : Canonical d s c) (artifacts : Artifacts) :
    ∀ e ∈ Pipeline.plan artifacts s c (.text d.address), e.IsCanonical := by
  intro e he
  simp only [Pipeline.plan, List.mem_append, List.mem_singleton] at he
  rcases he with he | he | he | rfl
  · exact mockPlan artifacts s e he
  · exact h.corePlan artifacts e he
  · exact h.migration _ e he
  · exact .verifier _ _ (h.wired _)

/-- All fields of its manifest but the name of the network are addresses in their canonical
spelling or nothing. -/
theorem fields [Address.CaseRule] (h : Canonical d s c) (hbuilds : Builds d s artifacts c m) :
    ∀ f ∈ m.fields, f.1 = "network" ∨ f.2.IsCanonicalOrNull := by
  have hm := Manifest.build_eq_ok hbuilds
  have hrecipients := h.recipients
  simp only [Role.withRecipients, List.forall_mem_cons] at hrecipients
  obtain ⟨hadmin, hcreator, hregistrar, -⟩ := hrecipients
  rw [hm]
  simp only [Manifest.fields, Manifest.fieldNames, Manifest.values, List.zip_cons_cons,
    List.zip_nil_right, List.forall_mem_cons]
  exact ⟨.inl trivial, .inr (.inr (h.chain.isCanonical _)), .inr (.inr (h.chain.isCanonical _)),
    .inr (.inr (h.wired .spokePool)), .inr (.inr (h.wired .aggregationRouter)),
    .inr (.inr (h.wired .usdt)), .inr (.inr (h.wired .sp1Verifier)), .inr hadmin,
    .inr hcreator, .inr hregistrar, .inr (.inr h.deployer), by simp⟩

end Canonical

/-! ## Settings of a parameter file -/

theorem canonical_of_preflight [Address.CaseRule] {flags : Settings.Flags} {env : Environ}
    {source : Params.Source} {w w' : World}
    (h : (Settings.resolve flags env none source).perform w = (.ok s, w'))
    (hpass : s.preflight = .ok ()) (hd : (Value.text d.address).IsCanonical)
    (hc : c.GivesCanonical) : Canonical d s c := by
  obtain ⟨params, ⟨_, hload⟩, hmade⟩ := Settings.exists_madeOf_of_resolve h
  refine
    { wired := ?_
      recipients := Settings.isCanonicalOrNull_of_recipientsOf hmade.recipients
      deployer := hd
      chain := hc }
  intro dep
  have havoids := hc.givesAddresses.avoidsPlaceholder
  rcases Settings.wired_of_preflight havoids hpass (Settings.isKnown_of_madeOf hload hmade) dep
    with ⟨n, hn⟩ | hcanonical
  · rw [hn]
    exact hc.isCanonical n
  · exact hcanonical

/-- **Only canonical addresses reach the chain and the manifest.** In settings that were put
together from a parameter file and an environment, each external contract is the placeholder or an
address in its canonical spelling, each recipient is nothing or such an address, and the
verification key has 32 bytes. If the check before the start has passed and the chain and the
account spell their addresses canonically, then in every run with these settings, however it ends,
all entries have canonical addresses, and a run that completes records no others. -/
theorem run_canonical [Address.CaseRule] {flags : Settings.Flags} {env : Environ}
    {source : Params.Source} {w w' : World}
    (h : (Settings.resolve flags env none source).perform w = (.ok s, w')) :
    (∀ dep, s.defaults.get dep = .text placeholder ∨ (s.defaults.get dep).IsCanonical) ∧
    (∀ p ∈ Role.withRecipients s.recipients, p.2 = .null ∨ p.2.IsCanonical) ∧
    s.verificationKey.length = 32 ∧
    (s.preflight = .ok () → ∀ (d : Deployer) (artifacts : Artifacts) (path : Path) (v : World),
      (Value.text d.address).IsCanonical → v.chain.GivesCanonical →
      ∃ es, ((run d s artifacts path).perform v).2.chain.log = v.chain.log ++ es ∧
        (∀ e ∈ es, e.IsCanonical) ∧
        ∀ m, ((run d s artifacts path).perform v).1 = .ok m →
          ∀ f ∈ m.fields, f.1 = "network" ∨ f.2 = .null ∨ f.2.IsCanonical) := by
  obtain ⟨params, ⟨_, hload⟩, hmade⟩ := Settings.exists_madeOf_of_resolve h
  refine ⟨?_, Settings.isCanonicalOrNull_of_recipientsOf hmade.recipients,
    Settings.length_of_verificationKeyOf hmade.verificationKey, ?_⟩
  · intro dep
    refine (Settings.isKnown_of_madeOf hload hmade dep).imp_left ?_
    exact (Value.isText_iff _ _).mp
  · intro hpass d artifacts path v hd hc
    have hcanonical : Canonical d s v.chain := canonical_of_preflight h hpass hd hc
    have hfollows := execute_follows_plan d s artifacts v
    obtain ⟨es, hes, hacc, -⟩ := hfollows.exists_part
    refine ⟨es, ?_, ?_, ?_⟩
    · rw [run_chain]
      exact hacc.log
    · intro e he
      exact hcanonical.plan artifacts e (hes.subset he)
    · intro m hret
      obtain ⟨w₁, hexecute, _⟩ := run_eq_ok (Prod.ext hret rfl)
      obtain ⟨-, hbuilds, -⟩ := hfollows.of_ok hexecute
      exact hcanonical.fields hbuilds

/-! ## A recipient that is not spelled canonically -/

/-- A chain that gives its contracts the addresses of the fresh one in their canonical spelling. -/
def canonicalChain : Chain :=
  { Chain.fresh with
    addressOf := fun n =>
      String.ofList
        ('0' :: 'x' :: Address.canonicalDigits Keccak.digest (Hex.ofNat 40 (0x1000 + n))) }

theorem canonicalChain_givesCanonical [Address.CaseRule] : canonicalChain.GivesCanonical := by
  intro n
  have hdigits : (Hex.ofNat 40 (0x1000 + n)).all Hex.isDigit = true :=
    List.all_eq_true.mpr Hex.isDigit_of_mem_ofNat
  exact isCanonical_of_canonicalWith (Address.canonicalWith_ofDigits
    Keccak.twenty_le_length_digest (Hex.length_ofNat 40 _) hdigits)

theorem canonicalChain_knowsRoles : canonicalChain.KnowsRoles := by
  have hroles : canonicalChain.roleId? = standardRoleId? := rfl
  intro g hg
  rw [hroles]
  exact Chain.fresh_knowsRoles g hg

/-- A world with this chain. -/
def canonicalWorld : World := { World.fresh with chain := canonicalChain }

/-- A deployer whose address is spelled canonically. -/
def canonicalDeployer : Deployer := { Deployer.standard with address := Deployer.otherAddress }

theorem isCanonical_canonicalDeployer [Address.CaseRule] :
    (Value.text canonicalDeployer.address).IsCanonical :=
  isCanonical_of_canonicalWith Deployer.canonical_otherAddress

/-- An environment with a recipient that has blanks around it and another mark in front. -/
def blankEnviron : Environ :=
  .ofList
    [("PRIVATE_KEY", "key"), ("ADMIN_ADDRESS", " 0X0000000000000000000000000000000000004242\n")]

theorem recipientsOf_blankEnviron :
    Settings.recipientsOf blankEnviron = .ok ⟨Deployer.otherAccount, .null, .null⟩ := by
  have hset : blankEnviron "ADMIN_ADDRESS" =
      some " 0X0000000000000000000000000000000000004242\n" := by
    decide +kernel
  have hsome : ¬" 0X0000000000000000000000000000000000004242\n".isEmpty = true := by
    decide +kernel
  have hdigits : Address.digits? (Text.trim " 0X0000000000000000000000000000000000004242\n") =
      Address.digits? Deployer.otherAddress := by
    decide +kernel
  have hcanonical : Address.canonicalWith Keccak.digest
      (Text.trim " 0X0000000000000000000000000000000000004242\n") =
      some Deployer.otherAddress := by
    rw [Address.canonicalWith, hdigits]
    exact Deployer.canonical_otherAddress
  have htaken : Address.isTaken Address.CaseRule.takes
      (Text.trim " 0X0000000000000000000000000000000000004242\n") = true := by
    decide +kernel
  rw [Settings.recipientsOf, hset, optionalAddress, if_neg hsome, checksum, checksumWith,
    Address.readWith_eq_some_iff.mpr ⟨htaken, hcanonical⟩]
  rfl

/-- The settings of this environment and of parameters for the test network. -/
theorem resolve_blankEnviron : ∃ s w',
    (Settings.resolve ⟨false, false⟩ blankEnviron none
      (.file ⟨.here, ["params.yml"]⟩)).perform .standard = (.ok s, w') ∧
    s.preflight = .ok () ∧ s.recipients = ⟨Deployer.otherAccount, .null, .null⟩ := by
  have hparts : ((Settings.resolve ⟨false, false⟩ blankEnviron none
      (.file ⟨.here, ["params.yml"]⟩)).perform .standard).1.toOption.map
      (fun s => s.preflight.isOk) = some true := by
    decide +kernel
  obtain ⟨s, hs, hpreflight⟩ := Option.map_eq_some_iff.mp hparts
  obtain ⟨⟨⟩, hpass⟩ := Outcome.exists_eq_ok hpreflight
  have hok := Outcome.eq_ok_of_toOption hs
  rcases hresolved : (Settings.resolve ⟨false, false⟩ blankEnviron none
    (.file ⟨.here, ["params.yml"]⟩)).perform .standard with ⟨r, w'⟩
  rw [hresolved] at hok
  cases hok
  obtain ⟨params, -, hmade⟩ := Settings.exists_madeOf_of_resolve hresolved
  have hrecipients := hmade.recipients
  rw [recipientsOf_blankEnviron] at hrecipients
  exact ⟨s, w', rfl, hpass, (Except.ok.inj hrecipients).symm⟩

/-- A deployment to the test network with this recipient completes, with canonical addresses
only. -/
theorem run_canonical_from_blanks : ∃ s w' m,
    (Settings.resolve ⟨false, false⟩ blankEnviron none
      (.file ⟨.here, ["params.yml"]⟩)).perform .standard = (.ok s, w') ∧
    s.preflight = .ok () ∧ (Value.text canonicalDeployer.address).IsCanonical ∧
    canonicalWorld.chain.GivesCanonical ∧
    ((run canonicalDeployer s .standard .standard).perform canonicalWorld).1 = .ok m ∧
    m.admin = Deployer.otherAccount ∧
    ∀ f ∈ m.fields, f.1 = "network" ∨ f.2 = .null ∨ f.2.IsCanonical := by
  obtain ⟨s, w', hs, hpass, hadmin⟩ := resolve_blankEnviron
  obtain ⟨-, hrecipients, hkey, hruns⟩ := run_canonical hs
  have hcanonical : Canonical canonicalDeployer s canonicalWorld.chain :=
    canonical_of_preflight hs hpass isCanonical_canonicalDeployer canonicalChain_givesCanonical
  have hdeployer : Address.isAddress canonicalDeployer.address = true := by decide +kernel
  have hwired : ∀ dep, (s.wired canonicalWorld.chain dep).IsAddress :=
    fun dep => (hcanonical.wired dep).isAddress
  have hunopposed : Unopposed canonicalDeployer s canonicalWorld.chain :=
    { signs := rfl
      unfaulted := rfl
      addresses := canonicalChain_givesCanonical.givesAddresses
      fits := fits_standard rfl hdeployer canonicalChain_givesCanonical.givesAddresses
        canonicalChain_knowsRoles hwired
        (fun p hp => (hcanonical.recipients p hp).isAddressOrNull) hkey
      preflight := hpass
      accountable :=
        { recipients := ⟨blankEnviron, by rw [recipientsOf_blankEnviron, hadmin]⟩
          deployer := ne_placeholder_of_isAddress hdeployer }
      wired := hwired }
  have hends : Ends canonicalDeployer s .standard canonicalWorld.chain canonicalWorld.files
      ((run canonicalDeployer s .standard .standard).perform canonicalWorld) :=
    run_ends hunopposed .standard
  obtain ⟨m, hbuilds, hm, -⟩ := hends.received (by decide +kernel)
  obtain ⟨es, -, -, hfields⟩ := hruns hpass canonicalDeployer .standard .standard canonicalWorld
    isCanonical_canonicalDeployer canonicalChain_givesCanonical
  refine ⟨s, w', m, hs, hpass, isCanonical_canonicalDeployer, canonicalChain_givesCanonical, hm,
    ?_, hfields m hm⟩
  rw [Manifest.build_eq_ok hbuilds, hadmin]

end Pipeline

end Rollout

import Rollout.Proofs.Deployer.Disclosure
import Rollout.Proofs.Pipeline.Reporting

/-!
# Under which names contracts are deployed

The pipeline asks for contracts by their kinds and is given types, and each type
has a name of its own. This name is what a deployment is logged under, and it is
what the operator is told.

Whatever becomes of a run, whoever has to be asked and whatever the chain
refuses, what has been told of deployments is what has been logged of them, name
by name and address by address (`Action.Lists`). All that is told besides is not
about deployments (`Notice.IsApart`), be it about transactions, roles or the
manifest.

## Main results

* `Action.Lists.bind`, `Action.Lists.deployment`, `Action.Lists.of_follows`: the
  rules by which an action lists its deployments.
* `Pipeline.run_credits`: the deployments of a run bear the names of the types
  that the pipeline has asked for, in the log and in what is told.
-/

namespace Rollout

/-- A notice that is not about a deployment. -/
def Notice.IsApart (n : Notice) : Prop := n.deployment? = none

/-! ## Deployments that are told -/

/-- The notices between two worlds are about the deployments among the entries that have been
accepted, with their names and addresses and in their order. -/
structure World.Lists (w : World) (es : List LogEntry) (told : List Notice) (w' : World) : Prop where
  accepts : w.Accepts es w'
  notices : w'.notices = w.notices ++ told
  deployed : told.filterMap Notice.deployment? =
    (w.chain.deployments es).map fun p => (p.1.contract, p.2.shown)

namespace World.Lists

variable {w w₁ w₂ : World} {es es' : List LogEntry} {told told' : List Notice}

theorem trans (h : w.Lists es told w₁) (h' : w₁.Lists es' told' w₂) :
    w.Lists (es ++ es') (told ++ told') w₂ where
  accepts := h.accepts.trans h'.accepts
  notices := by rw [h'.notices, h.notices, List.append_assoc]
  deployed := by
    rw [List.filterMap_append, h.deployed, h'.deployed, h.accepts.deployments_append,
      List.map_append]

/-- Only the deployments count. -/
theorem of_apart (h : w.Accepts es w₁) (hnotices : w₁.notices = w.notices ++ told)
    (hes : ∀ e ∈ es, e.isDeployment = false) (htold : ∀ n ∈ told, n.IsApart) :
    w.Lists es told w₁ where
  accepts := h
  notices := hnotices
  deployed := by
    rw [Chain.deployments_eq_nil hes, List.filterMap_eq_nil_iff.mpr htold]
    rfl

end World.Lists

namespace Action

variable {α β : Type}

/-- Whatever becomes of the action, it tells of the deployments that the chain accepts. -/
def Lists (a : Action α) (w : World) : Prop := ∃ es told, w.Lists es told (a.perform w).2

namespace Lists

variable {w : World}

/-- An action that deploys nothing and tells of no deployment. -/
theorem of_follows {a : Action α} {plan : List LogEntry} {Q : α → Prop}
    (hplan : a.Follows w plan Q) (hdeployments : ∀ e ∈ plan, e.isDeployment = false)
    (htells : a.TellsOnly Notice.IsApart w) : a.Lists w := by
  obtain ⟨done, hdone, hacc, -⟩ := hplan.exists_part
  obtain ⟨told, hnotices, htold⟩ := htells
  exact ⟨done, told, .of_apart hacc hnotices (fun e he => hdeployments e (hdone.subset he)) htold⟩

theorem pure (x : α) : (Pure.pure x : Action α).Lists w :=
  .of_follows (Q := fun _ => True) (.pure trivial) nofun (.of_keeps (.pure x))

theorem ofExcept (r : Except Failure α) : (ofExcept r).Lists w :=
  .of_follows (.ofExcept r) nofun (.of_keeps (.ofExcept r))

theorem say {n : Notice} (h : n.IsApart) : (say n).Lists w :=
  .of_follows (.say n) nofun (.say h)

theorem bind {a : Action α} {g : α → Action β} (ha : a.Lists w)
    (hg : ∀ x w', (g x).Lists w') : (a >>= g).Lists w := by
  obtain ⟨es, told, h⟩ := ha
  unfold Lists
  rw [perform_bind]
  rcases hr : a.perform w with ⟨r, w₁⟩
  rw [hr] at h
  cases r with
  | error f => exact ⟨es, told, h⟩
  | ok x =>
      obtain ⟨es', told', h'⟩ := hg x w₁
      exact ⟨es ++ es', told ++ told', h.trans h'⟩

/-- A deployment is told once the chain has accepted it, under the name that it is logged under. -/
theorem deployment {contract : String} {args : List Value} {f : String → α} :
    (do
      let address ← submitDeployment (.deploy contract args)
      Action.say (.deployed contract address)
      return f address : Action α).Lists w := by
  have he : (LogEntry.deploy contract args).isDeployment = true := rfl
  unfold Lists
  rw [perform_bind]
  rcases submitDeployment_cases he w with hr | ⟨w', hr, hacc, hnotices⟩
  · rw [hr]
    exact ⟨[], [], .of_apart (.refl w) (List.append_nil _).symm nofun nofun⟩
  · rw [hr]
    refine ⟨[.deploy contract args],
      [.deployed contract (w.chain.addressOf w.chain.contracts)], ?_⟩
    exact
      { accepts := hacc.trans (.of_eq rfl rfl)
        notices := congrArg (· ++ _) hnotices
        deployed := rfl }

end Lists

end Action

/-! ## The deployer's operations -/

namespace Deployer

variable {d : Deployer} {w : World}

theorem methodOf_tellsOnly {P : Notice → Prop} (t : ContractType) (method : String) :
    (methodOf t method).TellsOnly P w :=
  .of_keeps (methodOf_keeps t method)

theorem shortAddress_tellsOnly {P : Notice → Prop} (c : Contract) :
    (shortAddress c).TellsOnly P w := by
  unfold shortAddress
  split
  · exact .of_keeps (.pure _)
  · exact .throw _

theorem askDeployment_tellsOnly (contract : String) (args : NamedArgs) (w : World) :
    (Action.askDeployment contract args).TellsOnly Notice.IsApart w := by
  unfold Action.askDeployment
  split
  · exact .bind (.say rfl) fun _ _ => .ask rfl rfl
  · refine .bind (.say rfl) fun _ _ => .bind (.ask rfl rfl) fun _ _ => ?_
    split
    · exact .ask rfl rfl
    · exact .of_keeps (.pure _)

theorem transact_tellsOnly (c : Contract) (method : String) (args : List Value) (w : World) :
    (d.transact c method args).TellsOnly Notice.IsApart w := by
  rw [transact_eq_sending]
  refine .bind (methodOf_tellsOnly _ _) fun _ _ => .bind (.of_keeps (.ofExcept _)) fun _ _ => ?_
  refine .bind (shortAddress_tellsOnly c) fun _ _ => .bind (.say rfl) fun _ w' => ?_
  exact sending_tellsOnly (P := Notice.IsApart) rfl rfl d c method args w'

theorem encode_tellsOnly (c : Contract) (method : String) (args : List Value) (w : World) :
    (d.encode c method args).TellsOnly Notice.IsApart w := by
  unfold encode
  refine .bind (methodOf_tellsOnly _ _) fun _ _ => .bind (.of_keeps (.ofExcept _)) fun _ w' => ?_
  exact .bind (.of_keeps (.submit (fun _ _ => rfl) _ w')) fun _ _ => .get_bind (.of_keeps (.pure _))

/-- A deployment is logged and told under the name of the type. -/
theorem deploy_lists (t : ContractType) (args : List Value) (w : World) :
    (d.deploy t args).Lists w := by
  unfold deploy
  refine .bind (.ofExcept _) fun named w₁ => ?_
  split
  · refine .bind (.of_follows (.askDeployment _ _) nofun (askDeployment_tellsOnly _ _ w₁)) ?_
    exact fun _ _ => .deployment
  · exact .deployment

theorem encode_lists (c : Contract) (method : String) (args : List Value) (w : World) :
    (d.encode c method args).Lists w :=
  .of_follows (d.encode_follows c method args) (List.forall_mem_singleton.mpr rfl)
    (encode_tellsOnly c method args w)

theorem deployProxy_lists (proxy target : ContractType) (implementation : Contract)
    (method : String) (args : List Value) (w : World) :
    (d.deployProxy proxy target implementation method args).Lists w := by
  unfold deployProxy
  refine .bind (encode_lists _ _ _ _) fun _ _ => .bind (.say rfl) fun _ w' => ?_
  exact .bind (deploy_lists _ _ w') fun _ _ => .bind (.say rfl) fun _ _ => .pure _

end Deployer

/-! ## Roles and the verifier -/

namespace Role

variable {d : Deployer} {core : Contract}

theorem identifier_tellsOnly {P : Notice → Prop} (getter : String) (w : World) :
    (identifier core getter).TellsOnly P w := by
  unfold identifier
  refine .get_bind ?_
  split
  · exact .of_keeps (.pure _)
  · exact .bind (.of_keeps (.submit (fun _ _ => rfl) _ w)) fun _ _ => .of_keeps (.pure _)
  · exact .throw _

theorem callEach_tellsOnly (method : String) (ids : List Value) (account : Value) (w : World) :
    (callEach d core method ids account).TellsOnly Notice.IsApart w := by
  unfold callEach
  refine .forM ids (fun id _ w' => ?_) w
  exact .bind (Deployer.transact_tellsOnly _ _ _ w') fun _ _ => .of_keeps (.pure _)

theorem transfer_tellsOnly (role : Role) (recipient holder : Value) (w : World) :
    (transfer d core role recipient holder).TellsOnly Notice.IsApart w := by
  unfold transfer
  refine .bind (.say rfl) fun _ w₁ => ?_
  refine .bind (.mapM _ (fun g _ => identifier_tellsOnly g) w₁) fun ids w₂ => ?_
  exact .bind (callEach_tellsOnly _ _ _ w₂) fun _ w₃ => callEach_tellsOnly _ _ _ w₃

theorem migrateOne_tellsOnly (role : Role) (recipient holder : Value) (w : World) :
    (migrateOne d core role recipient holder).TellsOnly Notice.IsApart w := by
  unfold migrateOne
  split
  · exact .bind (.say rfl) fun _ _ => .of_keeps (.pure _)
  · exact .bind (transfer_tellsOnly _ _ _ w) fun _ _ => .of_keeps (.pure _)

theorem migrate_lists (recipients : Recipients) (holder : Value) (w : World) :
    (migrate d core recipients holder).Lists w := by
  have htells : (migrate d core recipients holder).TellsOnly Notice.IsApart w := by
    unfold migrate
    exact .bind (.mapM _ (fun p _ => migrateOne_tellsOnly p.1 p.2 holder) w) fun _ _ =>
      .of_keeps (.pure _)
  refine .of_follows (migrate_follows d core recipients holder w) (fun e he => ?_) htells
  obtain ⟨_, _, _, _, rfl | rfl⟩ := mem_handovers.mp he <;> rfl

end Role

theorem configureVerifier_lists (d : Deployer) (core : Contract) (verifier key : Value)
    (w : World) : (configureVerifier d core verifier key).Lists w := by
  have htells : (configureVerifier d core verifier key).TellsOnly Notice.IsApart w := by
    unfold configureVerifier
    exact .bind (.say rfl) fun _ w' =>
      .bind (Deployer.transact_tellsOnly _ _ _ w') fun _ _ => .of_keeps (.pure _)
  exact .of_follows (Pipeline.configureVerifier_follows d w core verifier key)
    (List.forall_mem_singleton.mpr rfl) htells

/-! ## The stages -/

namespace Pipeline

variable (d : Deployer) (s : Settings) (artifacts : Artifacts)

theorem deployMock_lists (k : ContractKind) (w : World) : (deployMock d artifacts k).Lists w := by
  unfold deployMock
  exact .bind (Deployer.deploy_lists _ _ w) fun _ _ => .pure _

theorem provision_lists (w : World) : (provision d s artifacts).Lists w := by
  rw [provision_eq]
  refine .bind ?_ fun found w₁ => ?_
  · unfold provisionOthers
    split
    · refine .bind (deployMock_lists d artifacts _ w) fun _ w₁ => ?_
      refine .bind (deployMock_lists d artifacts _ w₁) fun _ w₂ => ?_
      exact .bind (deployMock_lists d artifacts _ w₂) fun _ _ => .pure _
    · exact .pure _
  · unfold provisionVerifier
    split
    · exact .bind (deployMock_lists d artifacts _ w₁) fun _ _ => .pure _
    · exact .pure _

theorem deployCore_lists (deps : Dependencies) (w : World) :
    (deployCore d artifacts deps).Lists w := by
  unfold deployCore
  refine .bind (Deployer.deploy_lists _ _ w) fun _ w₁ => ?_
  exact .bind (Deployer.deployProxy_lists _ _ _ _ _ w₁) fun _ _ => .pure _

theorem execute_lists (w : World) : (execute d s artifacts).Lists w := by
  unfold execute
  refine .bind (provision_lists d s artifacts w) fun deps w₁ => ?_
  refine .bind (deployCore_lists d artifacts deps w₁) fun made w₂ => ?_
  refine .bind (Role.migrate_lists _ _ w₂) fun _ w₃ => ?_
  exact .bind (configureVerifier_lists _ _ _ _ w₃) fun _ _ => .ofExcept _

/-! ## A whole run -/

/-- The contracts that a deployment asks for, in this order. -/
def asked (s : Settings) : List ContractKind := s.mocks ++ [.core, .proxy]

/-- The deployments of a plan bear the names that the types have. -/
theorem deployed_plan (c : Chain) (deployer : Value) :
    ((plan artifacts s c deployer).filter LogEntry.isDeployment).map LogEntry.contract =
      (asked s).map fun k => (artifacts k).name := by
  have hmocks : (mockPlan artifacts s).filter LogEntry.isDeployment = mockPlan artifacts s := by
    rw [List.filter_eq_self]
    intro e he
    obtain ⟨k, _, rfl⟩ := List.mem_map.mp he
    rfl
  have hroles : ∀ e : LogEntry, e.movesRole = true → e.isDeployment = false := by
    intro e he
    rw [LogEntry.isDeployment, (LogEntry.movesRole_iff.mp he).1]
    rfl
  have hasked : ((asked s).map fun k => (artifacts k).name) =
      (mockPlan artifacts s).map LogEntry.contract ++
        [(artifacts .core).name, (artifacts .proxy).name] := by
    rw [asked, List.map_append, mockPlan, List.map_map]
    rfl
  rw [plan, List.filter_append, List.filter_append, List.filter_append, hmocks,
    filter_migration_eq_nil hroles, List.map_append, hasked]
  rfl

/-- Under which names a run deploys: under those of the contracts that it asks for, as far as it
comes. What it tells of deployments is what is logged, with the names and the addresses. -/
def Credits (nameOf : ContractKind → String) (s : Settings) (w w' : World) : Prop :=
  ∃ es told, w'.chain.log = w.chain.log ++ es ∧ w'.notices = w.notices ++ told ∧
    (es.filter LogEntry.isDeployment).map LogEntry.contract <+: (asked s).map nameOf ∧
    told.filterMap Notice.deployment? =
      (w.chain.deployments es).map fun p => (p.1.contract, p.2.shown)

/-- Whatever becomes of a run, the deployments bear the names of the types. -/
theorem run_credits (path : Path) (w : World) :
    Credits (fun k => (artifacts k).name) s w ((run d s artifacts path).perform w).2 := by
  obtain ⟨es, told, hlists⟩ := execute_lists d s artifacts w
  obtain ⟨done, hdone, hacc, -⟩ := (execute_follows_plan d s artifacts w).exists_part
  obtain rfl : done = es := List.append_cancel_left (hacc.log.symm.trans hlists.accepts.log)
  have hnames : (done.filter LogEntry.isDeployment).map LogEntry.contract <+:
      (asked s).map fun k => (artifacts k).name := by
    rw [← deployed_plan s artifacts w.chain (.text d.address)]
    exact (hdone.filter _).map _
  -- What comes after the stages tells of the manifest only.
  obtain ⟨rest, hrest, hapart⟩ : ∃ rest,
      ((run d s artifacts path).perform w).2.notices =
        ((execute d s artifacts).perform w).2.notices ++ rest ∧ ∀ n ∈ rest, n.IsApart := by
    rcases hr : (execute d s artifacts).perform w with ⟨r, w₁⟩
    cases r with
    | error f =>
        rw [run_of_execute_eq_error hr]
        exact ⟨[], (List.append_nil _).symm, nofun⟩
    | ok m =>
        have hend : (do m.write path; return m : Action Manifest).TellsOnly Notice.IsApart w₁ :=
          .bind (m.write_tellsOnly (P := Notice.IsApart) rfl rfl w₁) fun _ _ => .of_keeps (.pure m)
        rw [run, Action.perform_bind, hr]
        exact hend
  refine ⟨done, told ++ rest, ?_, ?_, hnames, ?_⟩
  · rw [run_chain]
    exact hacc.log
  · rw [hrest, hlists.notices, List.append_assoc]
  · rw [List.filterMap_append, List.filterMap_eq_nil_iff.mpr hapart, List.append_nil,
      hlists.deployed]

end Pipeline

end Rollout

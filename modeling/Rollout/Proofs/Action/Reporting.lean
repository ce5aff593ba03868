import Rollout.Proofs.Action.Failing
import Rollout.Proofs.Notice.Transcript
import Rollout.Proofs.Pipeline.Record

/-!
# Actions that tell what they do to the chain

A deployment is told when the chain has accepted it, because only then is there
an address to tell. A transaction is told before it is sent, so that the
operator sees what is about to happen. Between two actions what has been told
and what has been accepted agree; in between they can differ by one
transaction, and there they stay if the chain refuses it.

`World.Reports core w es further told w'` says how the notices `told` from the
world `w` to the world `w'` account for the entries `es` that have been accepted
in between: each deployment was told with its address, and each transaction with
the contract `core` was announced, and besides these the transactions `further`.
`Action.Reports core a w plan` is the contract of an action whose entries are
known: it accounts for what it submits, and if the chain refused a transaction it
has announced this one more.

## Main results

* `Action.Reports.bind`, `Action.Reports.forM`, `Action.Reports.mapM`: joined
  actions join what they report.
* `Action.Reports.announce`, `Action.Reports.deployment`: the two steps that
  report an entry.
* `Action.Reports.of_follows`: actions that have nothing to report.
-/

namespace Rollout

/-- Whether an entry is a transaction. -/
def LogEntry.isTransaction (e : LogEntry) : Bool := e.kind == .transact

/-- Whether a failure is that of a transaction that the chain refused. -/
def Failure.isRefusal : Failure → Bool
  | .reverted .transact _ _ => true
  | _ => false

/-- The names of the inputs of a method as its first overload has them. -/
def ContractType.inputNames (t : ContractType) (method : String) : List (Option String) :=
  match t.method? method with
  | some (o :: _) => o.inputs.map Input.name
  | _ => []

namespace Contract

/-- The address of a contract in short. -/
def beginning (c : Contract) : String := c.shortAddress?.getD ""

/-- The arguments of a transaction with a contract by name. -/
def namedArgs (c : Contract) (e : LogEntry) : NamedArgs := (c.type.inputNames e.name).zip e.args

/-- What is told of a transaction with a contract. -/
def announcement (c : Contract) (e : LogEntry) : Notice :=
  .transacting e.contract c.beginning e.name (c.namedArgs e)

end Contract

/-! ## Deployments -/

/-- There is nothing to list where nothing is deployed. -/
theorem Chain.deployments_eq_nil {c : Chain} {es : List LogEntry}
    (h : ∀ e ∈ es, e.isDeployment = false) : c.deployments es = [] := by
  have hnone : es.filter LogEntry.isDeployment = [] :=
    List.filter_eq_nil_iff.mpr fun e he => by rw [h e he]; exact Bool.false_ne_true
  rw [deployments, hnone]
  rfl

/-- Deployments are counted on from those that have been accepted. -/
theorem World.Accepts.deployments_append {w w' : World} {es : List LogEntry}
    (h : w.Accepts es w') (es' : List LogEntry) :
    w.chain.deployments (es ++ es') = w.chain.deployments es ++ w'.chain.deployments es' := by
  have hcount : (es.filter LogEntry.isDeployment).length = es.countP LogEntry.isDeployment :=
    List.countP_eq_length_filter.symm
  have hshift : (es'.filter LogEntry.isDeployment).zipIdx (es.countP LogEntry.isDeployment) =
      (es'.filter LogEntry.isDeployment).zipIdx.map
        (Prod.map id (· + es.countP LogEntry.isDeployment)) := by
    rw [List.map_snd_add_zipIdx_eq_zipIdx, Nat.add_zero]
  rw [Chain.deployments, Chain.deployments, Chain.deployments, List.filter_append,
    List.zipIdx_append, List.map_append, Nat.zero_add, hcount, hshift, List.map_map]
  congr 1
  refine List.map_congr_left fun p _ => ?_
  rw [h.nextAddress, Nat.add_comm]
  rfl

/-! ## Notices that account for entries -/

/-- The notices account for the entries that a chain is going to accept, and announce some
transactions with a contract more. -/
structure Chain.ToldBy (c : Chain) (core : Contract) (es further : List LogEntry)
    (told : List Notice) : Prop where
  clear : ∀ n ∈ told, n.IsClear
  deployed : told.filterMap Notice.deployment? =
    (c.deployments es).map fun p => (p.1.contract, p.2.shown)
  announced : told.filter Notice.isTransaction =
    (es.filter LogEntry.isTransaction ++ further).map core.announcement

/-- A clear notice that is neither about a deployment nor about a transaction. -/
structure Notice.IsAside (n : Notice) : Prop where
  clear : n.IsClear
  deployment? : n.deployment? = none
  transaction : n.isTransaction = false

/-- Such notices change nothing. -/
theorem Chain.ToldBy.append {c : Chain} {core : Contract} {es further : List LogEntry}
    {told asides : List Notice} (h : c.ToldBy core es further told)
    (hasides : ∀ n ∈ asides, n.IsAside) : c.ToldBy core es further (told ++ asides) := by
  have hdeployed : asides.filterMap Notice.deployment? = [] :=
    List.filterMap_eq_nil_iff.mpr fun n hn => (hasides n hn).deployment?
  have hannounced : asides.filter Notice.isTransaction = [] := by
    refine List.filter_eq_nil_iff.mpr fun n hn => ?_
    rw [(hasides n hn).transaction]
    exact Bool.false_ne_true
  exact
    { clear := fun n hn => (List.mem_append.mp hn).elim (h.clear n) fun hn => (hasides n hn).clear
      deployed := by rw [List.filterMap_append, hdeployed, List.append_nil, h.deployed]
      announced := by rw [List.filter_append, hannounced, List.append_nil, h.announced] }

theorem Chain.ToldBy.nil (c : Chain) (core : Contract) : c.ToldBy core [] [] [] where
  clear := nofun
  deployed := rfl
  announced := rfl

/-- The notices between two worlds account for the entries that have been accepted, and announce
some transactions more. -/
structure World.Reports (core : Contract) (w : World) (es further : List LogEntry)
    (told : List Notice) (w' : World) : Prop extends w.chain.ToldBy core es further told where
  accepts : w.Accepts es w'
  notices : w'.notices = w.notices ++ told

namespace World.Reports

variable {core : Contract} {w w₁ w₂ : World} {es es' further : List LogEntry}
  {told told' : List Notice}

/-- Entries that are neither deployments nor transactions need not be told. -/
theorem of_accepts (h : w.Accepts es w₁) (hnotices : w₁.notices = w.notices)
    (hdeployments : ∀ e ∈ es, e.isDeployment = false)
    (htransactions : ∀ e ∈ es, e.isTransaction = false) : w.Reports core es [] [] w₁ := by
  have hnone : es.filter LogEntry.isTransaction = [] :=
    List.filter_eq_nil_iff.mpr fun e he => by rw [htransactions e he]; exact Bool.false_ne_true
  exact
    { accepts := h
      notices := by rw [hnotices, List.append_nil]
      clear := nofun
      deployed := by rw [Chain.deployments_eq_nil hdeployments]; rfl
      announced := by rw [hnone]; rfl }

theorem trans (h : w.Reports core es [] told w₁) (h' : w₁.Reports core es' further told' w₂) :
    w.Reports core (es ++ es') further (told ++ told') w₂ where
  accepts := h.accepts.trans h'.accepts
  notices := by rw [h'.notices, h.notices, List.append_assoc]
  clear n hn := (List.mem_append.mp hn).elim (h.clear n) (h'.clear n)
  deployed := by
    rw [List.filterMap_append, h.deployed, h'.deployed, h.accepts.deployments_append,
      List.map_append]
  announced := by
    rw [List.filter_append, h.announced, h'.announced, List.filter_append, List.append_nil,
      ← List.map_append, List.append_assoc]

end World.Reports

namespace Action

variable {α β : Type}

/-- The transactions that were announced and not accepted when a run has ended: the one that the
chain refused if the run ended with this, and none otherwise. -/
inductive Pending : Except Failure α → List LogEntry → Prop
  | refused {e : LogEntry} (he : e.isTransaction = true) :
      Pending (.error (.reverted e.kind e.contract e.name)) [e]
  | settled {r : Except Failure α} (hr : ∀ f, r = .error f → f.isRefusal = false) : Pending r []

namespace Pending

theorem ok (x : α) : Pending (.ok x : Except Failure α) [] := .settled nofun

theorem eq_nil_of_ok {x : α} {further : List LogEntry} (h : Pending (.ok x) further) :
    further = [] := by
  cases h
  rfl

/-- A transaction is pending when the chain has refused it. -/
theorem length_eq_one {f : Failure} {further : List LogEntry}
    (h : Pending (.error f : Except Failure α) further) (hf : f.isRefusal = true) :
    further.length = 1 := by
  cases h with
  | refused _ => rfl
  | settled hr =>
      rw [hr f rfl] at hf
      cases hf

/-- A failure is the same whatever the result might have been. -/
theorem error {f : Failure} {further : List LogEntry}
    (h : Pending (.error f : Except Failure α) further) :
    Pending (.error f : Except Failure β) further := by
  cases h with
  | refused he => exact .refused he
  | settled hr => exact .settled fun f' hf => hr f' (congrArg _ (Except.error.inj hf))

end Pending

/-- The action accounts for what it submits, which is a part of a plan from its beginning and all of
it if the action returns. If the chain refused a transaction, this has been announced as well, and
it comes next in the plan. -/
def Reports (core : Contract) (a : Action α) (w : World) (plan : List LogEntry) : Prop :=
  ∃ done further told, done ++ further <+: plan ∧
    w.Reports core done further told (a.perform w).2 ∧
    (∀ x, (a.perform w).1 = .ok x → done = plan) ∧ Pending (a.perform w).1 further

namespace Reports

variable {core : Contract} {w : World} {plan plan' : List LogEntry}

/-- What is left of a run that returned. -/
theorem of_ok {a : Action α} {x : α} {w' : World} (h : a.Reports core w plan)
    (hr : a.perform w = (.ok x, w')) : ∃ told, w.Reports core plan [] told w' := by
  obtain ⟨done, further, told, -, hreports, hall, hpending⟩ := h
  rw [hr] at hreports hall hpending
  obtain rfl := hall x rfl
  obtain rfl := hpending.eq_nil_of_ok
  exact ⟨told, hreports⟩

/-- An action that tells nothing and submits neither deployments nor transactions. -/
theorem of_follows {a : Action α} {Q : α → Prop} (hplan : a.Follows w plan Q)
    (hkeeps : a.Keeps World.notices w)
    (hfails : a.FailsOnly w fun f => f.isRefusal = false)
    (hdeployments : ∀ e ∈ plan, e.isDeployment = false)
    (htransactions : ∀ e ∈ plan, e.isTransaction = false) : a.Reports core w plan := by
  obtain ⟨done, hdone, hacc, hall⟩ := hplan.exists_part
  refine ⟨done, [], [], ?_, ?_, hall, .settled hfails⟩
  · rw [List.append_nil]
    exact hdone
  · exact .of_accepts hacc hkeeps (fun e he => hdeployments e (hdone.subset he))
      (fun e he => htransactions e (hdone.subset he))

theorem pure (x : α) : (Pure.pure x : Action α).Reports core w [] :=
  .of_follows (Q := fun _ => True) (.pure trivial) (.pure x) (.pure x) nofun nofun

theorem throw {f : Failure} (hf : f.isRefusal = false) :
    (throw f : Action α).Reports core w plan :=
  ⟨[], [], [], List.nil_prefix, .of_accepts (.refl w) rfl nofun nofun, nofun,
    .settled (FailsOnly.throw hf)⟩

/-- Joined actions join their plans. -/
theorem bind {a : Action α} {g : α → Action β} (ha : a.Reports core w plan)
    (hg : ∀ x w', a.perform w = (.ok x, w') → w.Accepts plan w' →
      (g x).Reports core w' plan') : (a >>= g).Reports core w (plan ++ plan') := by
  obtain ⟨done, further, told, hdone, hreports, -, hpending⟩ := id ha
  unfold Reports
  rw [perform_bind]
  rcases hr : a.perform w with ⟨r, w₁⟩
  rw [hr] at hreports hpending
  cases r with
  | error f =>
      exact ⟨done, further, told, hdone.trans (List.prefix_append _ _), hreports, nofun,
        hpending.error⟩
  | ok x =>
      obtain ⟨told, hreports⟩ := ha.of_ok hr
      obtain ⟨done', further', told', hdone', hreports', hall', hpending'⟩ :=
        hg x w₁ hr hreports.accepts
      refine ⟨plan ++ done', further', told ++ told', ?_, hreports.trans hreports', ?_, hpending'⟩
      · rw [List.append_assoc]
        exact (List.prefix_append_right_inj plan).mpr hdone'
      · exact fun y hy => by rw [hall' y hy]

/-- What comes after may have nothing to report. -/
theorem bind_quiet {a : Action α} {g : α → Action β} (ha : a.Reports core w plan)
    (hg : ∀ x w', a.perform w = (.ok x, w') → w.Accepts plan w' →
      (g x).Reports core w' []) : (a >>= g).Reports core w plan := by
  have h := ha.bind hg
  rwa [List.append_nil] at h

/-- What comes before may have nothing to report. -/
theorem nil_bind {a : Action α} {g : α → Action β} (ha : a.Reports core w [])
    (hg : ∀ x w', a.perform w = (.ok x, w') → w.Accepts [] w' →
      (g x).Reports core w' plan) : (a >>= g).Reports core w plan := by
  have h := ha.bind hg
  rwa [List.nil_append] at h

theorem get_bind {f : World → Action β} (h : (f w).Reports core w plan) :
    (get >>= f : Action β).Reports core w plan := h

/-- An action that neither tells nor submits anything, and what comes after it. -/
theorem quiet_bind {a : Action α} {g : α → Action β} {Q : α → Prop}
    (hplan : a.Follows w [] Q) (hkeeps : a.Keeps World.notices w)
    (hfails : a.FailsOnly w fun f => f.isRefusal = false)
    (hg : ∀ x w', w.Accepts [] w' → Q x → (g x).Reports core w' plan) :
    (a >>= g).Reports core w plan := by
  refine nil_bind (.of_follows hplan hkeeps hfails nofun nofun) fun x w' hr _ => ?_
  obtain ⟨hacc, hx⟩ := hplan.of_ok hr
  exact hg x w' hacc hx

/-! ## Steps that tell something -/

/-- A notice that is about neither a deployment nor a transaction. -/
theorem say {n : Notice} (h : n.IsAside) : (say n).Reports core w [] := by
  have htold : w.chain.ToldBy core [] [] [n] :=
    (Chain.ToldBy.nil _ _).append (List.forall_mem_singleton.mpr h)
  refine ⟨[], [], [n], List.nil_prefix, ?_, fun _ _ => rfl, .ok ()⟩
  exact { htold with accepts := .of_eq rfl rfl, notices := rfl }

/-- A transaction is told and sent. Whether or not the chain accepts it, it has been told. -/
theorem announce {e : LogEntry} (he : e.isTransaction = true)
    (hclear : (core.announcement e).IsClear) :
    (do Action.say (core.announcement e); submit e : Action Unit).Reports core w [e] := by
  have hkind : e.isDeployment = false := by
    rw [LogEntry.isDeployment, eq_of_beq he]
    rfl
  have hnone : [core.announcement e].filterMap Notice.deployment? = [] := rfl
  have hone : [core.announcement e].filter Notice.isTransaction = [core.announcement e] := rfl
  have hsent : [e].filter LogEntry.isTransaction = [e] := List.filter_cons_of_pos he
  let told : World := { w with notices := w.notices ++ [core.announcement e] }
  have hrun : (do Action.say (core.announcement e); submit e : Action Unit).perform w =
      (submit e).perform told := perform_bind _ _ w
  unfold Reports
  rw [hrun]
  cases hs : w.chain.submit? e with
  | none =>
      have hr : (submit e).perform told = (.error (.reverted e.kind e.contract e.name), told) := by
        rw [submit, perform_get_bind, hs]
        rfl
      rw [hr]
      refine ⟨[], [e], [core.announcement e], List.prefix_refl _, ?_, ?_, .refused he⟩
      · exact
          { accepts := .of_eq rfl rfl
            notices := rfl
            clear := List.forall_mem_singleton.mpr hclear
            deployed := hnone
            announced := hone }
      · intro x hx
        cases hx
  | some chain =>
      have hr : (submit e).perform told = (.ok (), { told with chain }) := by
        rw [submit, perform_get_bind, hs]
        rfl
      obtain ⟨hacc, -⟩ := (Follows.submit hkind).of_ok hr
      have htold : w.Accepts [] told := .of_eq rfl rfl
      rw [hr]
      refine ⟨[e], [], [core.announcement e], List.prefix_refl _, ?_, fun _ _ => rfl, .ok ()⟩
      exact
        { accepts := htold.trans hacc
          notices := rfl
          clear := List.forall_mem_singleton.mpr hclear
          deployed := by rw [Chain.deployments_eq_nil (List.forall_mem_singleton.mpr hkind)]; rfl
          announced := by rw [hone, hsent]; rfl }

/-- A deployment is told with the address that it got, once it has got one. -/
theorem deployment {contract : String} {args : List Value} {f : String → α}
    (hcontract : Text.IsLine contract) (haddress : ∀ n, Text.IsLine (w.chain.addressOf n)) :
    (do
      let address ← submitDeployment (.deploy contract args)
      Action.say (.deployed contract address)
      return f address : Action α).Reports core w [.deploy contract args] := by
  have he : (LogEntry.deploy contract args).isDeployment = true := rfl
  unfold Reports
  rw [perform_bind]
  rcases submitDeployment_cases he w with hr | ⟨w', hr, hacc, hnotices⟩
  · rw [hr]
    exact ⟨[], [], [], List.nil_prefix, .of_accepts (.refl w) rfl nofun nofun, nofun,
      .settled (FailsOnly.throw rfl)⟩
  · rw [hr]
    refine ⟨[.deploy contract args], [],
      [.deployed contract (w.chain.addressOf w.chain.contracts)], List.prefix_refl _, ?_,
      fun _ _ => rfl, .ok _⟩
    exact
      { accepts := hacc.trans (.of_eq rfl rfl)
        notices := congrArg (· ++ _) hnotices
        clear := List.forall_mem_singleton.mpr ⟨hcontract, haddress _⟩
        deployed := rfl
        announced := rfl }

/-! ## Lists of actions -/

/-- Actions taken for each item of a list. -/
theorem forM {f : α → Action PUnit} {plan : α → List LogEntry} :
    ∀ (xs : List α) (w : World),
      (∀ x ∈ xs, ∀ done w', w.Accepts done w' → (f x).Reports core w' (plan x)) →
      (xs.forM f).Reports core w (xs.flatMap plan) := by
  intro xs
  induction xs with
  | nil =>
      intro w _
      exact pure _
  | cons x xs ih =>
      intro w h
      rw [List.flatMap_cons]
      refine (h x List.mem_cons_self [] w (.refl w)).bind fun _ w' _ hw' => ?_
      refine ih w' fun y hy done w'' hw'' => ?_
      exact h y (List.mem_cons_of_mem x hy) _ w'' (hw'.trans hw'')

theorem mapM {f : α → Action β} {plan : α → List LogEntry} :
    ∀ (xs : List α) (w : World),
      (∀ x ∈ xs, ∀ done w', w.Accepts done w' → (f x).Reports core w' (plan x)) →
      (xs.mapM f).Reports core w (xs.flatMap plan) := by
  intro xs
  induction xs with
  | nil =>
      intro w _
      exact pure _
  | cons x xs ih =>
      intro w h
      rw [List.mapM_cons, List.flatMap_cons]
      refine (h x List.mem_cons_self [] w (.refl w)).bind fun _ w' _ hw' => ?_
      have hxs : ∀ y ∈ xs, ∀ done w'', w'.Accepts done w'' → (f y).Reports core w'' (plan y) :=
        fun y hy done w'' hw'' => h y (List.mem_cons_of_mem x hy) _ w'' (hw'.trans hw'')
      exact (ih w' hxs).bind_quiet fun _ _ _ _ => pure _

end Reports

/-! ## Actions with nothing to report -/

/-- Whatever the action tells is of one kind. -/
def TellsOnly (P : Notice → Prop) (a : Action α) (w : World) : Prop :=
  ∃ told, (a.perform w).2.notices = w.notices ++ told ∧ ∀ n ∈ told, P n

namespace TellsOnly

variable {P : Notice → Prop} {w : World}

theorem of_keeps {a : Action α} (h : a.Keeps World.notices w) : a.TellsOnly P w :=
  ⟨[], by rw [List.append_nil]; exact h, nofun⟩

theorem throw (f : Failure) : (throw f : Action α).TellsOnly P w := .of_keeps (.throw f)

theorem say {n : Notice} (h : P n) : (say n).TellsOnly P w :=
  ⟨[n], rfl, List.forall_mem_singleton.mpr h⟩

theorem bind {a : Action α} {g : α → Action β} (ha : a.TellsOnly P w)
    (hg : ∀ x w', (g x).TellsOnly P w') : (a >>= g).TellsOnly P w := by
  obtain ⟨told, hnotices, htold⟩ := ha
  unfold TellsOnly
  rw [perform_bind]
  rcases hr : a.perform w with ⟨r, w₁⟩
  rw [hr] at hnotices
  cases r with
  | error f => exact ⟨told, hnotices, htold⟩
  | ok x =>
      obtain ⟨told', hnotices', htold'⟩ := hg x w₁
      refine ⟨told ++ told', ?_, fun n hn => (List.mem_append.mp hn).elim (htold n) (htold' n)⟩
      exact hnotices'.trans (by rw [hnotices, List.append_assoc])

theorem get_bind {g : World → Action β} (h : (g w).TellsOnly P w) :
    (get >>= g : Action β).TellsOnly P w := h

theorem ask {text : String} (hquestion : P (.question text)) (habort : P .aborting) :
    (ask text).TellsOnly P w := by
  unfold Action.ask
  refine bind (say hquestion) fun _ w₁ => get_bind ?_
  cases nextLine? w₁.input with
  | none => exact throw _
  | some line =>
      refine bind (of_keeps (.set rfl)) fun _ w₂ => ?_
      split
      · exact bind (say habort) fun _ _ => throw _
      · exact of_keeps (.pure _)

theorem forM {f : α → Action PUnit} (xs : List α) (h : ∀ x ∈ xs, ∀ w, (f x).TellsOnly P w)
    (w : World) : (xs.forM f).TellsOnly P w := by
  induction xs generalizing w with
  | nil => exact of_keeps (.pure _)
  | cons x xs ih =>
      refine (h x List.mem_cons_self w).bind fun _ w' => ?_
      exact ih (fun y hy => h y (List.mem_cons_of_mem x hy)) w'

theorem mapM {f : α → Action β} (xs : List α) (h : ∀ x ∈ xs, ∀ w, (f x).TellsOnly P w)
    (w : World) : (xs.mapM f).TellsOnly P w := by
  induction xs generalizing w with
  | nil => exact of_keeps (.pure _)
  | cons x xs ih =>
      rw [List.mapM_cons]
      refine (h x List.mem_cons_self w).bind fun _ w' => ?_
      exact (ih (fun y hy => h y (List.mem_cons_of_mem x hy)) w').bind fun _ _ => of_keeps (.pure _)

end TellsOnly

end Action

end Rollout

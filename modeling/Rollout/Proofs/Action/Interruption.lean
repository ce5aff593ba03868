import Rollout.Proofs.Action.Effect

/-!
# Runs that a fault cuts short

The same action can be run twice, on a chain that refuses nothing and on one
with a fault. The two runs go in step: each world of the one is the world of the
other with a different fault, until the fault refuses a submission. There the
run under the fault ends, and the other goes on with the very entry that was
refused.

`Action.UpToFault` says this of two runs. `Action.Interruptible` says it of an
action, for every fault and every world, and so of all that is put together from
such actions. What an action has told or asked by the time it is cut short does
not matter, nor why the undisturbed run ends as it does.

A fault is counted down while it lets entries through, so an action that comes
second meets a different fault (`Fault.after`). That is why the property speaks
of all faults at once.

## Main results

* `Action.Interruptible.bind`, `Action.Interruptible.forM`,
  `Action.Interruptible.mapM`: interruptible actions one after the other.
* `Action.Interruptible.submit`, `Action.Interruptible.submitDeployment`: the
  only steps that a fault can cut short.
* `Action.Blind.interruptible`: steps that do not look at the chain.
-/

namespace Rollout

/-! ## Faults and entries -/

namespace Fault

/-- What is left of a fault when some entries have gone through. -/
def after (f : Fault) (es : List LogEntry) : Fault :=
  { f with skip := f.skip - es.countP f.covers }

/-- A fault fires on entries that are submitted one after the other: it covers more of them than it
lets through. -/
def Fires (f : Fault) (es : List LogEntry) : Prop := f.skip < es.countP f.covers

@[simp] theorem covers_after (f : Fault) (es : List LogEntry) : (f.after es).covers = f.covers :=
  rfl

@[simp] theorem after_nil (f : Fault) : f.after [] = f := rfl

theorem after_append (f : Fault) (es es' : List LogEntry) :
    f.after (es ++ es') = (f.after es).after es' := by
  have hskip : f.skip - (es ++ es').countP f.covers =
      f.skip - es.countP f.covers - es'.countP f.covers := by
    rw [List.countP_append]
    omega
  show ({ f with skip := _ } : Fault) = { f with skip := _ }
  rw [hskip]
  rfl

theorem not_fires_nil (f : Fault) : ¬f.Fires [] := by simp [Fires]

theorem fires_singleton_iff {f : Fault} {e : LogEntry} :
    f.Fires [e] ↔ f.covers e = true ∧ f.skip = 0 := by
  by_cases h : f.covers e = true <;> simp [Fires, h]

/-- Entries that went through leave the rest to what is left of the fault. -/
theorem fires_append_iff {f : Fault} {es : List LogEntry} (h : ¬f.Fires es)
    (es' : List LogEntry) : f.Fires (es ++ es') ↔ (f.after es).Fires es' := by
  unfold Fires at h ⊢
  rw [List.countP_append, covers_after]
  show _ ↔ f.skip - es.countP f.covers < _
  omega

/-- A fault fires as soon as it covers an entry and lets no more through. -/
theorem fires_of_spent {f : Fault} {done rest : List LogEntry} {e : LogEntry}
    (hcovered : f.covers e = true) (hspent : done.countP f.covers = f.skip) :
    f.Fires (done ++ e :: rest) := by
  unfold Fires
  rw [List.countP_append, List.countP_cons_of_pos hcovered]
  omega

end Fault

namespace Chain

variable {c : Chain} {f : Fault} {e : LogEntry}

theorem submit?_of_fires (hc : c.fault = some f) (h : f.Fires [e]) : c.submit? e = none := by
  obtain ⟨hcovered, hskip⟩ := Fault.fires_singleton_iff.mp h
  rw [submit?, passFault?, hc]
  simp [hcovered, hskip]

theorem submit?_of_not_fires (hc : c.fault = some f) (h : ¬f.Fires [e]) :
    c.submit? e = some { c with log := c.log ++ [e], fault := some (f.after [e]) } := by
  rw [Fault.fires_singleton_iff] at h
  rw [submit?, passFault?, hc]
  by_cases hcovered : f.covers e = true
  · obtain ⟨n, hn⟩ : ∃ n, f.skip = n + 1 := Nat.exists_eq_succ_of_ne_zero fun h0 => h ⟨hcovered, h0⟩
    simp [hcovered, hn, Fault.after]
  · simp [hcovered, hc, Fault.after]

end Chain

namespace World

/-- The world after its chain has accepted an entry that is no deployment. -/
def accepting (w : World) (e : LogEntry) : World :=
  { w with chain := { w.chain with log := w.chain.log ++ [e] } }

/-- The world after its chain has accepted a deployment. -/
def deploying (w : World) (e : LogEntry) : World :=
  { w with
    chain := { w.chain with log := w.chain.log ++ [e], contracts := w.chain.contracts + 1 } }

end World

/-- The world with another fault in its chain. -/
def World.withFault (w : World) (fault : Option Fault) : World :=
  { w with chain := { w.chain with fault } }

/-- Whether a failure is a refusal of the chain. -/
def Failure.isReverted : Failure → Bool
  | .reverted _ _ _ => true
  | _ => false

namespace Action

variable {α β : Type}

/-! ## Two runs in step -/

/-- A run on a chain with a fault goes like a free run, on the same chain without it, up to the
entry that the fault refuses. Both start in the world `w`, apart from the fault. -/
inductive UpToFault (f : Fault) (w : World) (free run : Except Failure α × World) : Prop
  /-- The fault lets all entries through. The runs end alike, and the fault is counted down. -/
  | spared (r : Except Failure α) (w' : World) (es : List LogEntry)
      (free_eq : free = (r, w'.withFault none))
      (run_eq : run = (r, w'.withFault (some (f.after es))))
      (log : w'.chain.log = w.chain.log ++ es)
      (files : w'.files = w.files)
      (quiet : ¬f.Fires es)
      (accepted : ∀ e, r = .error e → e.isReverted = false)
  /-- The fault refuses an entry, which the free run submits in the same place. -/
  | stopped (done : List LogEntry) (e : LogEntry) (rest : List LogEntry)
      (unfaulted : free.2.chain.fault = none)
      (log : free.2.chain.log = w.chain.log ++ (done ++ e :: rest))
      (covered : f.covers e = true)
      (spent : done.countP f.covers = f.skip)
      (refused : run.1 = .error (.reverted e.kind e.contract e.name))
      (halted : run.2.chain.log = w.chain.log ++ done)
      (files : run.2.files = w.files)

namespace UpToFault

variable {f : Fault} {w : World} {free run : Except Failure α × World}

/-- The free run only adds to the log. -/
theorem exists_log (h : UpToFault f w free run) :
    ∃ es, free.2.chain.log = w.chain.log ++ es := by
  cases h with
  | spared r w' es free_eq _ log => exact ⟨es, by rw [free_eq]; exact log⟩
  | stopped done e rest _ log => exact ⟨done ++ e :: rest, log⟩

/-- A chain without a fault stays without one. -/
theorem fault_eq_none (h : UpToFault f w free run) : free.2.chain.fault = none := by
  cases h with
  | spared r w' es free_eq => rw [free_eq]; rfl
  | stopped done e rest unfaulted => exact unfaulted

end UpToFault

/-- Under every fault the action goes as it goes without, up to the entry that the fault refuses. -/
def Interruptible (a : Action α) : Prop :=
  ∀ (f : Fault) (w : World),
    UpToFault f w (a.perform (w.withFault none)) (a.perform (w.withFault (some f)))

/-! ## Steps that do not look at the chain -/

/-- The action neither looks at the fault nor touches it, and the chain is not why it fails. -/
structure Blind (a : Action α) : Prop where
  same : ∀ w fault, a.perform (w.withFault fault) =
    ((a.perform w).1, (a.perform w).2.withFault fault)
  accepted : ∀ w e, (a.perform w).1 = .error e → e.isReverted = false

namespace Blind

theorem pure (x : α) : (Pure.pure x : Action α).Blind where
  same _ _ := rfl
  accepted _ _ h := by cases h

theorem throw {f : Failure} (hf : f.isReverted = false) : (throw f : Action α).Blind where
  same _ _ := rfl
  accepted _ e h := by
    cases h
    exact hf

theorem say (n : Notice) : (say n).Blind where
  same _ _ := rfl
  accepted _ _ h := by cases h

theorem ofExcept {r : Except Failure α} (hr : ∀ f, r = .error f → f.isReverted = false) :
    (ofExcept r).Blind := by
  cases r with
  | ok x => exact .pure x
  | error f => exact .throw (hr f rfl)

theorem bind {a : Action α} {g : α → Action β} (ha : a.Blind) (hg : ∀ x, (g x).Blind) :
    (a >>= g).Blind where
  same w fault := by
    rw [perform_bind, perform_bind, ha.same]
    rcases a.perform w with ⟨r, w₁⟩
    cases r with
    | ok x => exact (hg x).same w₁ fault
    | error e => rfl
  accepted w e h := by
    rw [perform_bind] at h
    rcases hr : a.perform w with ⟨r, w₁⟩
    rw [hr] at h
    cases r with
    | ok x => exact (hg x).accepted w₁ e h
    | error e' =>
        cases h
        exact ha.accepted w e (by rw [hr])

/-- What an action does may depend on all of the world but the fault. -/
theorem get_bind {g : World → Action β}
    (hsame : ∀ w fault, (g (w.withFault fault)).perform (w.withFault fault) =
      (((g w).perform w).1, ((g w).perform w).2.withFault fault))
    (haccepted : ∀ w e, ((g w).perform w).1 = .error e → e.isReverted = false) :
    (get >>= g : Action β).Blind where
  same := hsame
  accepted := haccepted

theorem ask (text : String) : (ask text).Blind := by
  unfold Action.ask
  refine .bind (.say _) fun _ => .get_bind (fun w fault => ?_) (fun w e h => ?_)
  · have hinput : (w.withFault fault).input = w.input := rfl
    rw [hinput]
    cases nextLine? w.input with
    | none => rfl
    | some line =>
        dsimp only
        split <;> rfl
  · cases hl : nextLine? w.input with
    | none =>
        rw [hl] at h
        cases h
        rfl
    | some line =>
        rw [hl] at h
        dsimp only at h
        split at h
        · cases h
          rfl
        · cases h

theorem askDeployment (contract : String) (args : NamedArgs) :
    (askDeployment contract args).Blind := by
  unfold Action.askDeployment
  split
  · exact .bind (.say _) fun _ => .ask _
  · refine .bind (.say _) fun _ => .bind (.ask _) fun _ => ?_
    split
    · exact .ask _
    · exact .pure _

/-- A blind action that submits nothing and leaves the files alone. -/
theorem interruptible {a : Action α} (ha : a.Blind)
    (hplan : ∀ w, ∃ Q, a.Follows w [] Q) : a.Interruptible := by
  intro f w
  obtain ⟨Q, hQ⟩ := hplan w
  obtain ⟨done, hdone, hacc, _⟩ := hQ.exists_part
  obtain rfl : done = [] := List.prefix_nil.mp hdone
  exact .spared (a.perform w).1 (a.perform w).2 [] (ha.same w none) (ha.same w (some f)) hacc.log
    hacc.files f.not_fires_nil (ha.accepted w)

end Blind

/-! ## Interruptible actions -/

namespace Interruptible

theorem pure (x : α) : (Pure.pure x : Action α).Interruptible :=
  (Blind.pure x).interruptible fun _ => ⟨fun _ => True, .pure trivial⟩

theorem throw {f : Failure} (hf : f.isReverted = false) :
    (throw f : Action α).Interruptible :=
  (Blind.throw hf).interruptible fun _ => ⟨fun _ => True, .throw f⟩

theorem say (n : Notice) : (say n).Interruptible :=
  (Blind.say n).interruptible fun _ => ⟨_, .say n⟩

theorem ofExcept {r : Except Failure α} (hr : ∀ f, r = .error f → f.isReverted = false) :
    (ofExcept r).Interruptible :=
  (Blind.ofExcept hr).interruptible fun _ => ⟨_, .ofExcept r⟩

theorem ask (text : String) : (ask text).Interruptible :=
  (Blind.ask text).interruptible fun _ => ⟨_, .ask text⟩

theorem askDeployment (contract : String) (args : NamedArgs) :
    (askDeployment contract args).Interruptible :=
  (Blind.askDeployment contract args).interruptible fun _ => ⟨_, .askDeployment contract args⟩

/-- One interruptible action after the other. The second meets what the first has left of the
fault. -/
theorem bind {a : Action α} {g : α → Action β} (ha : a.Interruptible)
    (hg : ∀ x, (g x).Interruptible) : (a >>= g).Interruptible := by
  intro f w
  rw [perform_bind, perform_bind]
  have hfirst := ha f w
  generalize a.perform (w.withFault none) = free at hfirst ⊢
  generalize a.perform (w.withFault (some f)) = run at hfirst ⊢
  cases hfirst with
  | spared r w₁ es free_eq run_eq log files quiet accepted =>
      subst free_eq run_eq
      cases r with
      | error e =>
          refine .spared (.error e) w₁ es rfl rfl log files quiet fun e' h => ?_
          cases h
          exact accepted e rfl
      | ok x =>
          cases hg x (f.after es) w₁ with
          | spared r w₂ es' free_eq run_eq log' files' quiet' accepted' =>
              refine .spared r w₂ (es ++ es') free_eq ?_ ?_ (files'.trans files) ?_ accepted'
              · rw [f.after_append]
                exact run_eq
              · rw [log', log, List.append_assoc]
              · rwa [Fault.fires_append_iff quiet]
          | stopped done e rest unfaulted log' covered spent refused halted files' =>
              refine .stopped (es ++ done) e rest unfaulted ?_ covered ?_ refused ?_
                (files'.trans files)
              · rw [log', log, List.append_assoc, List.append_assoc]
              · have hquiet : es.countP f.covers ≤ f.skip := Nat.le_of_not_lt quiet
                have hspent : done.countP f.covers = f.skip - es.countP f.covers := spent
                rw [List.countP_append]
                omega
              · rw [halted, log, List.append_assoc]
  | stopped done e rest unfaulted log covered spent refused halted files =>
      obtain ⟨r, w₁⟩ := run
      cases refused
      obtain ⟨r₀, w₀⟩ := free
      cases r₀ with
      | error e₀ => exact .stopped done e rest unfaulted log covered spent rfl halted files
      | ok x =>
          -- The free run goes on, which only makes its log longer.
          have hrest := hg x f w₀
          have hw₀ : w₀.withFault none = w₀ := by
            rw [World.withFault, ← show w₀.chain.fault = none from unfaulted]
          rw [hw₀] at hrest
          obtain ⟨more, hmore⟩ := hrest.exists_log
          refine .stopped done e (rest ++ more) hrest.fault_eq_none ?_ covered spent rfl halted
            files
          rw [hmore, show w₀.chain.log = _ from log, List.append_assoc, List.append_assoc,
            List.cons_append]

/-- A question that is only asked under a condition, and what comes after it. -/
theorem askIf_bind {b : Bool} {a : Action PUnit} {g : PUnit → Action β}
    (ha : a.Interruptible) (hg : (g ⟨⟩).Interruptible) :
    (if b then a >>= g else g ⟨⟩).Interruptible := by
  split
  · exact .bind ha fun _ => hg
  · exact hg

/-- What an action does may depend on the world, but not on the fault. -/
theorem get_bind {g : World → Action β} (hsame : ∀ w fault, g (w.withFault fault) = g w)
    (hg : ∀ w, (g w).Interruptible) : (get >>= g : Action β).Interruptible := by
  intro f w
  rw [perform_get_bind, perform_get_bind, hsame, hsame]
  exact hg w f w

/-! ## Submissions -/

/-- A submission is the only step that a fault can cut short. -/
theorem submit (e : LogEntry) : (Action.submit e).Interruptible := by
  intro f w
  have hfree : (Action.submit e).perform (w.withFault none) =
      (.ok ⟨⟩, (w.accepting e).withFault none) := rfl
  by_cases hfires : f.Fires [e]
  · have hrun : (Action.submit e).perform (w.withFault (some f)) =
        (.error (.reverted e.kind e.contract e.name), w.withFault (some f)) := by
      unfold Action.submit
      rw [perform_get_bind, Chain.submit?_of_fires rfl hfires]
      rfl
    obtain ⟨hcovered, hskip⟩ := Fault.fires_singleton_iff.mp hfires
    rw [hfree, hrun]
    exact .stopped [] e [] rfl rfl hcovered hskip.symm rfl (List.append_nil _).symm rfl
  · have hrun : (Action.submit e).perform (w.withFault (some f)) =
        (.ok ⟨⟩, (w.accepting e).withFault (some (f.after [e]))) := by
      unfold Action.submit
      rw [perform_get_bind, Chain.submit?_of_not_fires rfl hfires]
      rfl
    rw [hfree, hrun]
    exact .spared (.ok ⟨⟩) (w.accepting e) [e] rfl rfl rfl rfl hfires (by simp)

theorem submitDeployment (e : LogEntry) : (Action.submitDeployment e).Interruptible := by
  intro f w
  have hfree : (Action.submitDeployment e).perform (w.withFault none) =
      (.ok (w.chain.addressOf w.chain.contracts), (w.deploying e).withFault none) := rfl
  by_cases hfires : f.Fires [e]
  · have hrun : (Action.submitDeployment e).perform (w.withFault (some f)) =
        (.error (.reverted e.kind e.contract e.name), w.withFault (some f)) := by
      unfold Action.submitDeployment
      rw [perform_get_bind, Chain.deploy?, Chain.submit?_of_fires rfl hfires]
      rfl
    obtain ⟨hcovered, hskip⟩ := Fault.fires_singleton_iff.mp hfires
    rw [hfree, hrun]
    exact .stopped [] e [] rfl rfl hcovered hskip.symm rfl (List.append_nil _).symm rfl
  · have hrun : (Action.submitDeployment e).perform (w.withFault (some f)) =
        (.ok (w.chain.addressOf w.chain.contracts),
          (w.deploying e).withFault (some (f.after [e]))) := by
      unfold Action.submitDeployment
      rw [perform_get_bind, Chain.deploy?, Chain.submit?_of_not_fires rfl hfires]
      rfl
    rw [hfree, hrun]
    exact .spared (.ok _) (w.deploying e) [e] rfl rfl rfl rfl hfires (by simp)

/-! ## Lists of actions -/

theorem forM {f : α → Action PUnit} (xs : List α) (h : ∀ x ∈ xs, (f x).Interruptible) :
    (xs.forM f).Interruptible := by
  induction xs with
  | nil => exact pure _
  | cons x xs ih =>
      exact bind (h x List.mem_cons_self) fun _ =>
        ih fun y hy => h y (List.mem_cons_of_mem x hy)

theorem mapM {f : α → Action β} (xs : List α) (h : ∀ x ∈ xs, (f x).Interruptible) :
    (xs.mapM f).Interruptible := by
  induction xs with
  | nil => exact pure _
  | cons x xs ih =>
      rw [List.mapM_cons]
      refine bind (h x List.mem_cons_self) fun _ => ?_
      exact bind (ih fun y hy => h y (List.mem_cons_of_mem x hy)) fun _ => pure _

end Interruptible

end Action

end Rollout

import Rollout.World
import Rollout.Proofs.Outcome

/-!
# What an action does to the chain

An action can end in many ways: it returns, the chain refuses, the operator
stops it, an argument does not fit. For the log of the chain all of these come
to the same thing: an action has a plan, the list of entries it submits one
after the other, and where it fails it has submitted a part of the plan from its
beginning.

`Action.Follows a w es Q` says this of an action `a` in a world `w`. If `a`
returns, the log has grown by all of the plan `es` and the result satisfies `Q`;
if `a` fails, the log has grown by a prefix of `es`. Either way nothing else
that a later action depends on has changed: the chain answers as before, the
number of contracts is what the deployments among the entries make it, and the
files are untouched (`World.Accepts`).

## Main results

* `Action.Follows.bind`, `Action.Follows.forM`: plans are joined in the order in
  which actions are.
* `Action.Follows.submit`, `Action.Follows.submitDeployment`: the only steps
  whose plan has an entry.
* `Action.Follows.of_ok`, `Action.Follows.exists_part`: what a plan says of one
  run, returned or not.
-/

namespace Rollout

/-! ## Worlds that differ by accepted entries -/

/-- Whether an entry is a deployment. -/
def LogEntry.isDeployment (e : LogEntry) : Bool := e.kind == .deploy

/-- The second world is the first after its chain has accepted the entries: what the chain answers
and what is in the files is as it was, and a chain that refuses nothing goes on so. -/
structure World.Accepts (w : World) (es : List LogEntry) (w' : World) : Prop where
  log : w'.chain.log = w.chain.log ++ es
  contracts : w'.chain.contracts = w.chain.contracts + es.countP LogEntry.isDeployment
  addressOf : w'.chain.addressOf = w.chain.addressOf
  roleId? : w'.chain.roleId? = w.chain.roleId?
  callData : w'.chain.callData = w.chain.callData
  files : w'.files = w.files
  unfaulted : w.chain.fault = none → w'.chain.fault = none

namespace World.Accepts

theorem refl (w : World) : w.Accepts [] w :=
  { log := by simp
    contracts := by simp
    addressOf := rfl
    roleId? := rfl
    callData := rfl
    files := rfl
    unfaulted := id }

theorem trans {w w₁ w₂ : World} {es es' : List LogEntry} (h : w.Accepts es w₁)
    (h' : w₁.Accepts es' w₂) : w.Accepts (es ++ es') w₂ :=
  { log := by rw [h'.log, h.log, List.append_assoc]
    contracts := by rw [h'.contracts, h.contracts, List.countP_append, Nat.add_assoc]
    addressOf := h'.addressOf.trans h.addressOf
    roleId? := h'.roleId?.trans h.roleId?
    callData := h'.callData.trans h.callData
    files := h'.files.trans h.files
    unfaulted := fun hnone => h'.unfaulted (h.unfaulted hnone) }

/-- A world with the same chain and the same files. -/
theorem of_eq {w w' : World} (hc : w'.chain = w.chain) (hf : w'.files = w.files) :
    w.Accepts [] w' :=
  { log := by rw [hc]; simp
    contracts := by rw [hc]; simp
    addressOf := by rw [hc]
    roleId? := by rw [hc]
    callData := by rw [hc]
    files := hf
    unfaulted := by rw [hc]; exact id }

end World.Accepts

namespace Action

variable {α β : Type}

/-! ## Runs -/

theorem perform_bind (a : Action α) (f : α → Action β) (w : World) :
    (a >>= f).perform w =
      match a.perform w with
      | (.ok x, w') => (f x).perform w'
      | (.error e, w') => (.error e, w') := by
  show (ExceptT.run (a >>= f)).run w = _
  simp only [ExceptT.run_bind, StateT.run_bind, perform]
  rcases ((ExceptT.run a).run w) with ⟨r, w'⟩
  cases r <;> rfl

theorem perform_map (f : α → β) (a : Action α) (w : World) :
    (f <$> a).perform w = ((a.perform w).1.map f, (a.perform w).2) := by
  rw [map_eq_pure_bind, perform_bind]
  rcases a.perform w with ⟨r, w'⟩
  cases r <;> rfl

@[simp] theorem perform_get_bind (f : World → Action β) (w : World) :
    (get >>= f : Action β).perform w = (f w).perform w := rfl

/-- What comes after an action matters only where the action returned. -/
theorem perform_bind_congr {a : Action α} {f g : α → Action β} {w : World}
    (h : ∀ x w', a.perform w = (.ok x, w') → (f x).perform w' = (g x).perform w') :
    (a >>= f).perform w = (a >>= g).perform w := by
  rw [perform_bind, perform_bind]
  cases hrun : a.perform w with
  | mk r w' =>
      cases r with
      | ok x => exact h x w' hrun
      | error e => rfl

/-- A failure is handled in the world that it left. -/
theorem perform_tryCatch (a : Action α) (handle : Failure → Action α) (w : World) :
    (tryCatch a handle).perform w =
      match a.perform w with
      | (.ok x, w') => (.ok x, w')
      | (.error e, w') => (handle e).perform w' := by
  show (ExceptT.run (tryCatch a handle)).run w = _
  simp only [ExceptT.run_tryCatch, StateT.run_bind, perform]
  rcases (ExceptT.run a).run w with ⟨r, w'⟩
  cases r <;> rfl

/-- An action joined to another returns exactly if both return, one after the other. -/
theorem perform_bind_eq_ok {a : Action α} {f : α → Action β} {w w' : World} {y : β} :
    (a >>= f).perform w = (.ok y, w') ↔
      ∃ x w₁, a.perform w = (.ok x, w₁) ∧ (f x).perform w₁ = (.ok y, w') := by
  rw [perform_bind]
  rcases a.perform w with ⟨r, w₁⟩
  cases r with
  | ok x =>
      constructor
      · intro h
        exact ⟨x, w₁, rfl, h⟩
      · rintro ⟨x', w', hx, h⟩
        cases hx
        exact h
  | error e => simp

/-- A result that is there already changes nothing. -/
theorem perform_ofExcept (r : Except Failure α) (w : World) : (ofExcept r).perform w = (r, w) := by
  cases r <;> rfl

theorem eq_ok_of_perform_ofExcept {e : Except Failure α} {x : α} {w w' : World}
    (h : (ofExcept e).perform w = (.ok x, w')) : e = .ok x := by
  rw [perform_ofExcept] at h
  exact (Prod.mk.inj h).1

/-- A run that is known to return has a result and a world after it. -/
theorem exists_perform_eq_ok {a : Action α} {w : World} (h : (a.perform w).1.isOk = true) :
    ∃ x w', a.perform w = (.ok x, w') := by
  obtain ⟨x, hx⟩ := Outcome.exists_eq_ok h
  exact ⟨x, (a.perform w).2, Prod.ext hx rfl⟩

/-! ## Plans -/

/-- The action follows a plan: the log grows by the whole plan if the action returns, and then the
result has a property, and by a part of it from the beginning if the action fails. -/
def Follows (a : Action α) (w : World) (es : List LogEntry) (Q : α → Prop) : Prop :=
  match a.perform w with
  | (.ok x, w') => w.Accepts es w' ∧ Q x
  | (.error _, w') => ∃ done, done <+: es ∧ w.Accepts done w'

namespace Follows

variable {w : World} {es es' : List LogEntry} {Q : α → Prop} {R : β → Prop}

/-- A run that returns has submitted the whole plan. -/
theorem of_ok {a : Action α} {x : α} {w' : World} (h : a.Follows w es Q)
    (hr : a.perform w = (.ok x, w')) : w.Accepts es w' ∧ Q x := by
  rw [Follows, hr] at h
  exact h

/-- The same where only the end of the run is known. -/
theorem of_isOk {a : Action α} (h : a.Follows w es Q) (hok : (a.perform w).1.isOk = true) :
    w.Accepts es (a.perform w).2 := by
  obtain ⟨x, w', hr⟩ := exists_perform_eq_ok hok
  rw [hr]
  exact (h.of_ok hr).1

/-- Every run has submitted a part of the plan from its beginning, and all of it if it returns. -/
theorem exists_part {a : Action α} (h : a.Follows w es Q) :
    ∃ done, done <+: es ∧ w.Accepts done (a.perform w).2 ∧
      ∀ x, (a.perform w).1 = .ok x → done = es := by
  unfold Follows at h
  rcases hr : a.perform w with ⟨r, w'⟩
  rw [hr] at h
  cases r with
  | ok x => exact ⟨es, List.prefix_refl es, h.1, fun _ _ => rfl⟩
  | error e =>
      obtain ⟨done, hp, ha⟩ := h
      exact ⟨done, hp, ha, by simp⟩

/-- An action that plans one entry has submitted this or nothing. -/
theorem log_of_singleton {a : Action α} {e : LogEntry} (h : a.Follows w [e] Q) :
    (a.perform w).2.chain.log = w.chain.log ∨
      (a.perform w).2.chain.log = w.chain.log ++ [e] := by
  obtain ⟨done, hdone, hacc, -⟩ := h.exists_part
  have hlog := hacc.log
  rcases List.prefix_cons_iff.mp hdone with rfl | ⟨rest, rfl, hrest⟩
  · rw [List.append_nil] at hlog
    exact .inl hlog
  · rw [List.prefix_nil.mp hrest] at hlog
    exact .inr hlog

/-- A weaker property of the result. -/
theorem imp {a : Action α} {Q' : α → Prop} (h : a.Follows w es Q) (hQ : ∀ x, Q x → Q' x) :
    a.Follows w es Q' := by
  unfold Follows at h ⊢
  split <;> rename_i hr <;> simp only [hr] at h
  · exact ⟨h.1, hQ _ h.2⟩
  · exact h

theorem pure {x : α} (h : Q x) : (Pure.pure x : Action α).Follows w [] Q :=
  ⟨.refl w, h⟩

/-- An action that fails at once may have any plan. -/
theorem throw (f : Failure) : (throw f : Action α).Follows w es Q :=
  ⟨[], List.nil_prefix, .refl w⟩

/-- Joined actions join their plans. The second action starts in a world that has accepted the
first plan. -/
theorem bind {a : Action α} {f : α → Action β} (ha : a.Follows w es Q)
    (hf : ∀ x w', w.Accepts es w' → Q x → (f x).Follows w' es' R) :
    (a >>= f).Follows w (es ++ es') R := by
  unfold Follows at ha ⊢
  rw [perform_bind]
  rcases hr : a.perform w with ⟨r, w₁⟩
  rw [hr] at ha
  cases r with
  | error e =>
      obtain ⟨done, hp, hacc⟩ := ha
      exact ⟨done, hp.trans (List.prefix_append es es'), hacc⟩
  | ok x =>
      have hx := hf x w₁ ha.1 ha.2
      unfold Follows at hx
      dsimp only
      rcases hs : (f x).perform w₁ with ⟨r, w₂⟩
      rw [hs] at hx
      cases r with
      | ok y => exact ⟨ha.1.trans hx.1, hx.2⟩
      | error e =>
          -- The first plan is complete, and the second is cut short.
          obtain ⟨done, hp, hacc⟩ := hx
          exact ⟨es ++ done, (List.prefix_append_right_inj es).mpr hp, ha.1.trans hacc⟩

/-- Of two joined plans nothing of the second is submitted before all of the first. -/
theorem exists_parts {a : Action α} {f : α → Action β} (ha : a.Follows w es Q)
    (hf : ∀ x w', w.Accepts es w' → Q x → (f x).Follows w' es' R) :
    ∃ done done', done <+: es ∧ done' <+: es' ∧
      w.Accepts (done ++ done') ((a >>= f).perform w).2 ∧
      (done' ≠ [] → done = es ∧ ∃ x, Q x) ∧
      ∀ y, ((a >>= f).perform w).1 = .ok y → done = es ∧ done' = es' ∧ ∃ x, Q x := by
  rw [perform_bind]
  rcases hr : a.perform w with ⟨r, w₁⟩
  unfold Follows at ha
  rw [hr] at ha
  cases r with
  | error e =>
      obtain ⟨done, hdone, hacc⟩ := ha
      refine ⟨done, [], hdone, List.nil_prefix, ?_, fun h => absurd rfl h, nofun⟩
      rw [List.append_nil]
      exact hacc
  | ok x =>
      obtain ⟨hacc, hx⟩ := ha
      obtain ⟨done', hdone', hacc', hall⟩ := (hf x w₁ hacc hx).exists_part
      exact ⟨es, done', List.prefix_refl es, hdone', hacc.trans hacc', fun _ => ⟨rfl, x, hx⟩,
        fun y hy => ⟨rfl, hall y hy, x, hx⟩⟩

/-- The second action of a pair may have nothing to submit. -/
theorem bind_quiet {a : Action α} {f : α → Action β} (ha : a.Follows w es Q)
    (hf : ∀ x w', w.Accepts es w' → Q x → (f x).Follows w' [] R) :
    (a >>= f).Follows w es R := by
  have h := ha.bind hf
  rwa [List.append_nil] at h

/-- The first action of a pair may have nothing to submit. -/
theorem quiet_bind {a : Action α} {f : α → Action β} (ha : a.Follows w [] Q)
    (hf : ∀ x w', w.Accepts [] w' → Q x → (f x).Follows w' es R) :
    (a >>= f).Follows w es R := by
  simpa only [List.nil_append] using ha.bind hf

theorem get_bind {f : World → Action β} (h : (f w).Follows w es R) :
    (get >>= f : Action β).Follows w es R := h

/-! ## Steps that submit nothing -/

theorem say (n : Notice) : (say n).Follows w [] (fun _ => True) :=
  ⟨.of_eq rfl rfl, trivial⟩

theorem ofExcept (e : Except Failure α) : (ofExcept e).Follows w [] (fun x => e = .ok x) := by
  cases e with
  | ok x => exact pure rfl
  | error f => exact throw f

theorem ask (text : String) : (ask text).Follows w [] (fun _ => True) := by
  unfold Action.ask
  refine quiet_bind (say _) fun _ w₁ _ _ => get_bind ?_
  cases hl : nextLine? w₁.input with
  | none => exact throw _
  | some line =>
      obtain ⟨answer, rest⟩ := line
      refine quiet_bind (Q := fun _ => True) ⟨.of_eq rfl rfl, trivial⟩ fun _ _ _ _ => ?_
      split
      · exact quiet_bind (say _) fun _ _ _ _ => throw _
      · exact pure trivial

theorem askDeployment (contract : String) (args : NamedArgs) :
    (askDeployment contract args).Follows w [] (fun _ => True) := by
  unfold Action.askDeployment
  split
  · exact quiet_bind (say _) fun _ _ _ _ => ask _
  · refine quiet_bind (say _) fun _ _ _ _ => quiet_bind (ask _) fun _ _ _ _ => ?_
    split
    · exact ask _
    · exact pure trivial

/-- A question that is only asked under a condition, and what comes after it. -/
theorem askIf_bind {b : Bool} {a : Action PUnit} {f : PUnit → Action β}
    (ha : a.Follows w [] (fun _ => True))
    (hf : ∀ w', w.Accepts [] w' → (f ⟨⟩).Follows w' es R) :
    (if b then a >>= f else f ⟨⟩).Follows w es R := by
  split
  · exact quiet_bind ha fun _ w' h _ => hf w' h
  · exact hf w (.refl w)

end Follows

end Action

/-! ## Actions that leave a part of the world alone -/

namespace Action

variable {α β γ : Type}

/-- However the action ends, a part of the world is as it was. -/
def Keeps (part : World → γ) (a : Action α) (w : World) : Prop :=
  part (a.perform w).2 = part w

namespace Keeps

variable {part : World → γ} {w : World}

theorem pure (x : α) : (Pure.pure x : Action α).Keeps part w := rfl

theorem throw (f : Failure) : (throw f : Action α).Keeps part w := rfl

theorem ofExcept (r : Except Failure α) : (ofExcept r).Keeps part w := by
  cases r <;> rfl

theorem set {w' : World} (h : part w' = part w) : (set w' : Action PUnit).Keeps part w := h

theorem say {n : Notice} (h : part { w with notices := w.notices ++ [n] } = part w) :
    (say n).Keeps part w := h

theorem get_bind {f : World → Action β} (h : (f w).Keeps part w) :
    (get >>= f : Action β).Keeps part w := h

theorem bind {a : Action α} {f : α → Action β} (ha : a.Keeps part w)
    (hf : ∀ x w', part w' = part w → (f x).Keeps part w') : (a >>= f).Keeps part w := by
  unfold Keeps at ha ⊢
  rw [perform_bind]
  rcases hr : a.perform w with ⟨r, w₁⟩
  rw [hr] at ha
  cases r with
  | ok x => exact (hf x w₁ ha).trans ha
  | error e => exact ha

/-- A submission changes nothing but the chain. -/
theorem submit (hchain : ∀ w chain, part { w with chain } = part w) (e : LogEntry) (w : World) :
    (submit e).Keeps part w := by
  unfold Action.submit
  refine .get_bind ?_
  split
  · exact .throw _
  · exact .set (hchain w _)

theorem submitDeployment (hchain : ∀ w chain, part { w with chain } = part w) (e : LogEntry)
    (w : World) : (submitDeployment e).Keeps part w := by
  unfold Action.submitDeployment
  refine .get_bind ?_
  split
  · exact .throw _
  · exact .bind (.set (hchain w _)) fun _ _ _ => .pure _

/-- An action that returns hands its result on, in a world of which that part is as it was. -/
theorem bind_of_ok {a : Action α} {f : α → Action β} {x : α} (ha : a.Keeps part w)
    (hx : (a.perform w).1 = .ok x) :
    ∃ w', part w' = part w ∧ (a >>= f).perform w = (f x).perform w' := by
  refine ⟨(a.perform w).2, ha, ?_⟩
  rw [perform_bind]
  rcases hr : a.perform w with ⟨r, w₁⟩
  rw [hr] at hx
  cases hx
  rfl

/-- What holds of a run that stops with the first of two actions, and of one that goes on with the
second where the first has returned, holds of the two together. -/
theorem elim {a : Action α} {f : α → Action β} {P : Except Failure β × World → Prop}
    (ha : a.Keeps part w)
    (hstop : ∀ e w', a.perform w = (.error e, w') → part w' = part w → P (.error e, w'))
    (hgo : ∀ x w', a.perform w = (.ok x, w') → part w' = part w → P ((f x).perform w')) :
    P ((a >>= f).perform w) := by
  unfold Keeps at ha
  rw [perform_bind]
  rcases hr : a.perform w with ⟨r, w₁⟩
  rw [hr] at ha
  cases r with
  | ok x => exact hgo x w₁ hr ha
  | error e => exact hstop e w₁ hr ha

end Keeps

end Action

/-! ## The chain -/

namespace Chain

/-- What a fault lets through changes nothing but the fault, and makes none where none is. -/
theorem passFault?_eq_some {c c' : Chain} {e : LogEntry} (h : c.passFault? e = some c') :
    ∃ fault, (c.fault = none → fault = none) ∧ c' = { c with fault } := by
  unfold passFault? at h
  split at h
  · exact ⟨c.fault, id, by rw [← Option.some.inj h]⟩
  · rename_i f hf
    split at h
    · split at h
      · cases h
      · exact ⟨_, by simp [hf], (Option.some.inj h).symm⟩
    · exact ⟨c.fault, id, by rw [← Option.some.inj h]⟩

/-- A submission that goes through adds its entry. -/
theorem submit?_eq_some {c c' : Chain} {e : LogEntry} (h : c.submit? e = some c') :
    ∃ fault, (c.fault = none → fault = none) ∧
      c' = { c with log := c.log ++ [e], fault } := by
  obtain ⟨c₁, h₁, rfl⟩ := Option.map_eq_some_iff.mp h
  obtain ⟨fault, hfault, rfl⟩ := passFault?_eq_some h₁
  exact ⟨fault, hfault, rfl⟩

end Chain

namespace Action

/-- A deployment that the chain refuses changes nothing. One that it accepts gets the next address of
the chain, and nothing is told of it yet. -/
theorem submitDeployment_cases {e : LogEntry} (he : e.isDeployment = true) (w : World) :
    (submitDeployment e).perform w = (.error (.reverted e.kind e.contract e.name), w) ∨
    ∃ w', (submitDeployment e).perform w = (.ok (w.chain.addressOf w.chain.contracts), w') ∧
      w.Accepts [e] w' ∧ w'.notices = w.notices := by
  rw [submitDeployment, perform_get_bind]
  cases hs : w.chain.deploy? e with
  | none => exact .inl rfl
  | some made =>
      obtain ⟨chain, hc, rfl⟩ := Option.map_eq_some_iff.mp hs
      obtain ⟨fault, hfault, rfl⟩ := Chain.submit?_eq_some hc
      refine .inr ⟨_, rfl, ?_, rfl⟩
      exact
        { log := rfl
          contracts := by simp [he]
          addressOf := rfl
          roleId? := rfl
          callData := rfl
          files := rfl
          unfaulted := hfault }

end Action

namespace Action.Follows

variable {w : World}

/-- A submission of anything but a deployment. -/
theorem submit {e : LogEntry} (he : e.isDeployment = false) :
    (Action.submit e).Follows w [e] (fun _ => True) := by
  unfold Action.submit
  refine get_bind ?_
  cases hs : w.chain.submit? e with
  | none => exact throw _
  | some chain =>
      obtain ⟨fault, hfault, rfl⟩ := Chain.submit?_eq_some hs
      refine ⟨?_, trivial⟩
      exact
        { log := rfl
          contracts := by simp [he]
          addressOf := rfl
          roleId? := rfl
          callData := rfl
          files := rfl
          unfaulted := hfault }

/-- A deployment gets the next address of the chain. -/
theorem submitDeployment {e : LogEntry} (he : e.isDeployment = true) :
    (Action.submitDeployment e).Follows w [e]
      (fun address => address = w.chain.addressOf w.chain.contracts) := by
  unfold Follows
  rcases submitDeployment_cases he w with hr | ⟨w', hr, hacc, -⟩
  · rw [hr]
    exact ⟨[], List.nil_prefix, .refl w⟩
  · rw [hr]
    exact ⟨hacc, rfl⟩

/-! ## Lists of actions -/

/-- Actions taken for each item of a list. What is planned for an item does not depend on what the
chain has accepted in the meantime. -/
theorem forM {α : Type} {f : α → Action PUnit} {plan : α → List LogEntry} :
    ∀ (xs : List α) (w : World),
      (∀ x ∈ xs, ∀ done w', w.Accepts done w' → (f x).Follows w' (plan x) (fun _ => True)) →
      (xs.forM f).Follows w (xs.flatMap plan) (fun _ => True) := by
  intro xs
  induction xs with
  | nil =>
      intro w _
      exact pure trivial
  | cons x xs ih =>
      intro w h
      rw [List.flatMap_cons]
      refine bind (h x List.mem_cons_self [] w (.refl w)) fun _ w' hw' _ => ?_
      refine ih w' fun y hy done w'' hw'' => ?_
      exact h y (List.mem_cons_of_mem x hy) _ w'' (hw'.trans hw'')

/-- The same for actions with a result that is known beforehand. -/
theorem mapM {α β : Type} {f : α → Action β} {plan : α → List LogEntry} {result : α → β} :
    ∀ (xs : List α) (w : World),
      (∀ x ∈ xs, ∀ done w', w.Accepts done w' →
        (f x).Follows w' (plan x) (fun y => y = result x)) →
      (xs.mapM f).Follows w (xs.flatMap plan) (fun ys => ys = xs.map result) := by
  intro xs
  induction xs with
  | nil =>
      intro w _
      exact pure rfl
  | cons x xs ih =>
      intro w h
      rw [List.mapM_cons, List.flatMap_cons]
      refine bind (h x List.mem_cons_self [] w (.refl w)) fun y w' hw' hy => ?_
      have hxs : ∀ z ∈ xs, ∀ done w'', w'.Accepts done w'' →
          (f z).Follows w'' (plan z) (fun y => y = result z) := by
        intro z hz done w'' hw''
        exact h z (List.mem_cons_of_mem x hz) _ w'' (hw'.trans hw'')
      refine bind_quiet (ih w' hxs) fun ys _ _ hys => pure ?_
      rw [hy, hys, List.map_cons]

end Action.Follows

end Rollout

import Rollout.Proofs.Action.Effect

/-!
# Why an action can fail

`Action.FailsOnly a w E` bounds the failures of an action from above: whatever
`a` fails with in the world `w` is among `E`. With nothing in `E` the action
returns.

The bound is put together like the plan of an action (`Action.Follows`), and
along with it: what comes second starts in a world that has accepted the first
plan, so the rule for joined actions hands on what the plan says of that world.

## Main results

* `Action.FailsOnly.bind`, `Action.FailsOnly.forM`, `Action.FailsOnly.mapM`:
  joined actions fail only as their parts do.
* `Action.FailsOnly.submit`, `Action.FailsOnly.ask`: the chain and the operator.
* `Action.FailsOnly.exists_ok`: an action that cannot fail returns.
-/

namespace Rollout

/-- A chain without a fault takes every entry. -/
theorem Chain.submit?_of_unfaulted {c : Chain} (h : c.fault = none) (e : LogEntry) :
    c.submit? e = some { c with log := c.log ++ [e] } := by
  simp [submit?, passFault?, h]

namespace Action

variable {α β : Type}

/-- Every failure of the action in the world is one of those. -/
def FailsOnly (a : Action α) (w : World) (E : Failure → Prop) : Prop :=
  ∀ f, (a.perform w).1 = .error f → E f

namespace FailsOnly

variable {w : World} {E : Failure → Prop} {es : List LogEntry} {Q : α → Prop}

/-- An action that cannot fail returns. -/
theorem exists_ok {a : Action α} (h : a.FailsOnly w fun _ => False) :
    ∃ x w', a.perform w = (.ok x, w') := by
  rcases hr : a.perform w with ⟨r, w'⟩
  cases r with
  | ok x => exact ⟨x, w', rfl⟩
  | error f => exact (h f (by rw [hr])).elim

theorem pure (x : α) : (Pure.pure x : Action α).FailsOnly w E :=
  fun _ h => by cases h

theorem throw {f : Failure} (hf : E f) : (throw f : Action α).FailsOnly w E :=
  fun _ h => by
    cases h
    exact hf

theorem say (n : Notice) : (say n).FailsOnly w E :=
  fun _ h => by cases h

theorem ofExcept {r : Except Failure α} (hr : ∀ f, r = .error f → E f) :
    (ofExcept r).FailsOnly w E := by
  cases r with
  | ok x => exact pure x
  | error f => exact throw (hr f rfl)

theorem get_bind {g : World → Action β} (h : (g w).FailsOnly w E) :
    (get >>= g : Action β).FailsOnly w E := h

/-- Joined actions fail as one of them does. -/
theorem bind_of_ok {a : Action α} {g : α → Action β} (ha : a.FailsOnly w E)
    (hg : ∀ x w', a.perform w = (.ok x, w') → (g x).FailsOnly w' E) :
    (a >>= g).FailsOnly w E := by
  intro f hf
  rw [perform_bind] at hf
  rcases hr : a.perform w with ⟨r, w₁⟩
  rw [hr] at hf
  cases r with
  | error e =>
      cases hf
      exact ha f (by rw [hr])
  | ok x => exact hg x w₁ hr f hf

/-- The same along a plan: the second action starts in a world that has accepted the plan of the
first. -/
theorem bind {a : Action α} {g : α → Action β} (ha : a.FailsOnly w E)
    (hplan : a.Follows w es Q)
    (hg : ∀ x w', w.Accepts es w' → Q x → (g x).FailsOnly w' E) :
    (a >>= g).FailsOnly w E := by
  refine bind_of_ok ha fun x w' hr => ?_
  obtain ⟨hacc, hx⟩ := hplan.of_ok hr
  exact hg x w' hacc hx

/-- What is done with a result may be no action at all. -/
theorem bind_pure {a : Action α} {g : α → β} (ha : a.FailsOnly w E) :
    (a >>= fun x => Pure.pure (g x) : Action β).FailsOnly w E :=
  bind_of_ok ha fun _ _ _ => pure _

/-! ## The operator -/

theorem ask (text : String) (hstop : E .aborted) (hend : E .inputEnded) :
    (ask text).FailsOnly w E := by
  unfold Action.ask
  refine bind (say _) (.say _) fun _ w₁ _ _ => get_bind ?_
  cases hl : nextLine? w₁.input with
  | none => exact throw hend
  | some line =>
      obtain ⟨answer, rest⟩ := line
      intro f hf
      -- Whatever the answer, what fails is the refusal.
      dsimp only at hf
      split at hf
      · cases hf
        exact hstop
      · cases hf

theorem askDeployment (contract : String) (args : NamedArgs) (hstop : E .aborted)
    (hend : E .inputEnded) : (askDeployment contract args).FailsOnly w E := by
  unfold Action.askDeployment
  split
  · exact bind (say _) (.say _) fun _ _ _ _ => ask _ hstop hend
  · refine bind (say _) (.say _) fun _ _ _ _ => ?_
    refine bind (ask _ hstop hend) (.ask _) fun _ _ _ _ => ?_
    split
    · exact ask _ hstop hend
    · exact pure _

/-- A question that is only asked under a condition, and what comes after it. -/
theorem askIf_bind {b : Bool} {a : Action PUnit} {g : PUnit → Action β}
    (ha : b = true → a.FailsOnly w E) (hplan : a.Follows w [] (fun _ => True))
    (hg : ∀ w', w.Accepts [] w' → (g ⟨⟩).FailsOnly w' E) :
    (if b then a >>= g else g ⟨⟩).FailsOnly w E := by
  split
  · exact bind (ha ‹_›) hplan fun _ w' hw' _ => hg w' hw'
  · exact hg w (.refl w)

/-! ## The chain -/

theorem submit {e : LogEntry}
    (hchain : w.chain.fault = none ∨ E (.reverted e.kind e.contract e.name)) :
    (Action.submit e).FailsOnly w E := by
  unfold Action.submit
  refine get_bind ?_
  cases hs : w.chain.submit? e with
  | some chain => exact fun _ h => by cases h
  | none =>
      rcases hchain with hnone | hE
      · rw [Chain.submit?_of_unfaulted hnone] at hs
        cases hs
      · exact throw hE

theorem submitDeployment {e : LogEntry}
    (hchain : w.chain.fault = none ∨ E (.reverted e.kind e.contract e.name)) :
    (Action.submitDeployment e).FailsOnly w E := by
  unfold Action.submitDeployment
  refine get_bind ?_
  cases hs : w.chain.deploy? e with
  | some made => exact fun _ h => by cases h
  | none =>
      rcases hchain with hnone | hE
      · rw [Chain.deploy?, Chain.submit?_of_unfaulted hnone] at hs
        cases hs
      · exact throw hE

/-! ## Lists of actions -/

theorem forM {f : α → Action PUnit} :
    ∀ (xs : List α) (w : World),
      (∀ x ∈ xs, ∀ done w', w.Accepts done w' → ∃ es Q, (f x).Follows w' es Q) →
      (∀ x ∈ xs, ∀ done w', w.Accepts done w' → (f x).FailsOnly w' E) →
      (xs.forM f).FailsOnly w E := by
  intro xs
  induction xs with
  | nil => exact fun w _ _ => pure _
  | cons x xs ih =>
      intro w hplan hfail
      obtain ⟨es, Q, hx⟩ := hplan x List.mem_cons_self [] w (.refl w)
      refine bind (hfail x List.mem_cons_self [] w (.refl w)) hx fun _ w' hw' _ => ih w' ?_ ?_
      · exact fun y hy done w'' h => hplan y (List.mem_cons_of_mem x hy) _ w'' (hw'.trans h)
      · exact fun y hy done w'' h => hfail y (List.mem_cons_of_mem x hy) _ w'' (hw'.trans h)

theorem mapM {f : α → Action β} :
    ∀ (xs : List α) (w : World),
      (∀ x ∈ xs, ∀ done w', w.Accepts done w' → ∃ es Q, (f x).Follows w' es Q) →
      (∀ x ∈ xs, ∀ done w', w.Accepts done w' → (f x).FailsOnly w' E) →
      (xs.mapM f).FailsOnly w E := by
  intro xs
  induction xs with
  | nil => exact fun w _ _ => pure _
  | cons x xs ih =>
      intro w hplan hfail
      rw [List.mapM_cons]
      obtain ⟨es, Q, hx⟩ := hplan x List.mem_cons_self [] w (.refl w)
      refine bind (hfail x List.mem_cons_self [] w (.refl w)) hx fun _ w' hw' _ =>
        bind_pure (ih w' ?_ ?_)
      · exact fun y hy done w'' h => hplan y (List.mem_cons_of_mem x hy) _ w'' (hw'.trans h)
      · exact fun y hy done w'' h => hfail y (List.mem_cons_of_mem x hy) _ w'' (hw'.trans h)

end FailsOnly

end Action

end Rollout

import Rollout.Proofs.Action.Answers
import Rollout.Proofs.Action.Interruption

/-!
# When an action returns

Two things can stop an action of which everything fits. The operator refuses a
question or has typed nothing more, and the chain refuses an entry. Both are
settled by the world in which the action starts: what has been typed decides
about as many questions as one likes (`Action.LetsPass`), and the fault of the
chain about as many entries (`Fault.Fires`). `World.Grants` is both together.

`Action.Needs a w C n es` says what the action `a` needs in the world `w`. It
returns exactly if the condition `C` holds and the world grants `n` questions
and the entries `es`, and it leaves to a later action what is granted beyond
that.

## Main results

* `Action.Needs.returns_iff`: exactly when an action returns.
* `Action.Needs.bind`, `Action.Needs.forM`, `Action.Needs.mapM`: what actions need
  one after the other.
* `Action.Puts.needs`, `Action.Needs.submit`, `Action.Needs.submitDeployment`: a
  question needs a line, and a submission its entry.
-/

namespace Rollout

/-! ## Lines -/

namespace Action

/-- As many lines have been typed, and none of them is a refusal. -/
def LetsPass : List Char → Nat → Prop
  | _, 0 => True
  | input, n + 1 =>
      ∃ line, nextLine? input = some line ∧ ¬Refuses line.1 ∧ LetsPass line.2 n

/-- Questions that are let pass take a line each, and leave the lines after these. -/
theorem letsPass_add_iff (qs : List String) (n : Nat) (input : List Char) :
    LetsPass input (qs.length + n) ↔
      (hear input qs).stop? = none ∧ LetsPass (hear input qs).left n := by
  induction qs generalizing input with
  | nil => simp [hear]
  | cons q qs ih =>
      rw [List.length_cons, Nat.add_right_comm, LetsPass]
      cases hline : nextLine? input with
      | none => simp [hear, hline]
      | some line =>
          by_cases hno : Refuses line.1
          · simp [hear, hline, hno]
          · simp [hear, hline, hno, ih line.2]

theorem hear_stop?_eq_none_iff (qs : List String) (input : List Char) :
    (hear input qs).stop? = none ↔ LetsPass input qs.length := by
  have h := letsPass_add_iff qs 0 input
  rw [Nat.add_zero] at h
  simp [h, LetsPass]

theorem LetsPass.of_add {input : List Char} {n n' : Nat} (h : LetsPass input (n + n')) :
    LetsPass input n := by
  have hlen : (List.replicate n "").length = n := List.length_replicate
  rw [← hlen] at h ⊢
  exact (hear_stop?_eq_none_iff _ input).mp ((letsPass_add_iff _ n' input).mp h).1

/-- Questions that are let pass are all asked. -/
theorem hear_asked {qs : List String} {input : List Char}
    (h : (hear input qs).stop? = none) : (hear input qs).asked = qs := by
  induction qs generalizing input with
  | nil => rfl
  | cons q qs ih =>
      cases hline : nextLine? input with
      | none => simp [hear, hline] at h
      | some line =>
          by_cases hno : Refuses line.1
          · simp [hear, hline, hno] at h
          · simp only [hear, hline, hno, if_false] at h ⊢
            rw [ih h]

end Action

/-! ## Entries -/

/-- The chain refuses none of the entries when they are submitted one after the other. -/
def Chain.LetsPass (c : Chain) (es : List LogEntry) : Prop :=
  ∀ f, c.fault = some f → ¬f.Fires es

namespace Chain.LetsPass

variable {c c' : Chain} {e : LogEntry} {es es' : List LogEntry}

theorem of_append (h : c.LetsPass (es ++ es')) : c.LetsPass es := by
  intro f hf hfires
  refine h f hf ?_
  unfold Fault.Fires at hfires ⊢
  rw [List.countP_append]
  omega

theorem nil (c : Chain) : c.LetsPass [] := fun f _ => f.not_fires_nil

/-- An entry goes through exactly if it is let pass, and then the chain lets pass what it would have
let pass after it. -/
theorem submit?_eq_some_iff : c.LetsPass [e] ↔ ∃ c', c.submit? e = some c' := by
  unfold LetsPass
  cases hc : c.fault with
  | none => simp [Chain.submit?_of_unfaulted hc]
  | some f =>
      by_cases hfires : f.Fires [e]
      · simp [Chain.submit?_of_fires hc hfires, hfires]
      · simp [Chain.submit?_of_not_fires hc hfires, hfires]

theorem cons_iff (h : c.submit? e = some c') : c.LetsPass (e :: es) ↔ c'.LetsPass es := by
  unfold LetsPass
  cases hc : c.fault with
  | none =>
      rw [Chain.submit?_of_unfaulted hc] at h
      cases h
      simp [hc]
  | some f =>
      by_cases hfires : f.Fires [e]
      · rw [Chain.submit?_of_fires hc hfires] at h
        cases h
      · rw [Chain.submit?_of_not_fires hc hfires] at h
        cases h
        simp [← Fault.fires_append_iff hfires es]

end Chain.LetsPass

/-- The operator lets as many questions pass, and the chain the entries. -/
structure World.Grants (w : World) (n : Nat) (es : List LogEntry) : Prop where
  operator : Action.LetsPass w.input n
  chain : w.chain.LetsPass es

namespace World.Grants

variable {w : World} {n n' : Nat} {es es' : List LogEntry}

theorem nothing (w : World) : w.Grants 0 [] := ⟨trivial, .nil w.chain⟩

theorem of_add (h : w.Grants (n + n') (es ++ es')) : w.Grants n es :=
  ⟨h.operator.of_add, h.chain.of_append⟩

end World.Grants

/-! ## What an action needs -/

namespace Action

variable {α β : Type}

/-- The action returns exactly if the condition holds and the world grants as many questions and
the entries. What is granted beyond that is left. -/
structure Needs (a : Action α) (w : World) (C : Prop) (n : Nat) (es : List LogEntry) : Prop where
  returns : C → w.Grants n es → ∃ x w', a.perform w = (.ok x, w')
  holds : ∀ x w', a.perform w = (.ok x, w') → C
  leaves : ∀ x w', a.perform w = (.ok x, w') →
    ∀ n' es', w.Grants (n + n') (es ++ es') ↔ w'.Grants n' es'

namespace Needs

variable {a : Action α} {w : World} {C C' : Prop} {n n' : Nat} {es es' : List LogEntry}

theorem returns_iff (h : a.Needs w C n es) :
    (∃ x w', a.perform w = (.ok x, w')) ↔ C ∧ w.Grants n es := by
  constructor
  · rintro ⟨x, w', hr⟩
    have hgrants : w.Grants (n + 0) (es ++ []) := (h.leaves x w' hr 0 []).mpr (.nothing w')
    exact ⟨h.holds x w' hr, hgrants.of_add⟩
  · rintro ⟨hC, hgrants⟩
    exact h.returns hC hgrants

theorem congr (h : a.Needs w C n es) (hC : C ↔ C') : a.Needs w C' n es where
  returns hC' := h.returns (hC.mpr hC')
  holds x w' hx := hC.mp (h.holds x w' hx)
  leaves := h.leaves

/-! ### Steps that need nothing of the world -/

theorem pure (x : α) : (Pure.pure x : Action α).Needs w True 0 [] where
  returns _ _ := ⟨x, w, rfl⟩
  holds _ _ _ := trivial
  leaves _ _ h n' es' := by
    cases h
    rw [Nat.zero_add, List.nil_append]

theorem throw (f : Failure) : (throw f : Action α).Needs w False n es where
  returns h _ := h.elim
  holds _ _ h := by cases h
  leaves _ _ h := by cases h

theorem ofExcept (r : Except Failure α) :
    (ofExcept r).Needs w (∃ x, r = .ok x) 0 [] := by
  cases r with
  | ok x => exact (pure x).congr (by simp)
  | error f => exact (throw f).congr (by simp)

theorem say (t : Notice) : (say t).Needs w True 0 [] where
  returns _ _ := ⟨⟨⟩, _, rfl⟩
  holds _ _ _ := trivial
  leaves _ _ h n' es' := by
    cases h
    rw [Nat.zero_add, List.nil_append]
    exact ⟨fun h => ⟨h.operator, h.chain⟩, fun h => ⟨h.operator, h.chain⟩⟩

theorem get_bind {f : World → Action β} (h : (f w).Needs w C n es) :
    (get >>= f : Action β).Needs w C n es :=
  ⟨h.returns, h.holds, h.leaves⟩

/-! ### One after the other -/

/-- Joined actions need what the first needs and then what the second needs. -/
theorem bind {f : α → Action β} (ha : a.Needs w C n es)
    (hf : ∀ x w', a.perform w = (.ok x, w') → (f x).Needs w' C' n' es') :
    (a >>= f).Needs w (C ∧ C') (n + n') (es ++ es') where
  returns := by
    rintro ⟨hC, hC'⟩ hgrants
    obtain ⟨x, w₁, hx⟩ := ha.returns hC hgrants.of_add
    have hrest : w₁.Grants n' es' := (ha.leaves x w₁ hx n' es').mp hgrants
    obtain ⟨y, w₂, hy⟩ := (hf x w₁ hx).returns hC' hrest
    exact ⟨y, w₂, perform_bind_eq_ok.mpr ⟨x, w₁, hx, hy⟩⟩
  holds y w₂ h := by
    obtain ⟨x, w₁, hx, hy⟩ := perform_bind_eq_ok.mp h
    exact ⟨ha.holds x w₁ hx, (hf x w₁ hx).holds y w₂ hy⟩
  leaves y w₂ h n'' es'' := by
    obtain ⟨x, w₁, hx, hy⟩ := perform_bind_eq_ok.mp h
    rw [Nat.add_assoc, List.append_assoc, ha.leaves x w₁ hx]
    exact (hf x w₁ hx).leaves y w₂ hy n'' es''

theorem quiet_bind {f : α → Action β} (ha : a.Needs w C 0 [])
    (hf : ∀ x w', a.perform w = (.ok x, w') → (f x).Needs w' C' n' es') :
    (a >>= f).Needs w (C ∧ C') n' es' := by
  have h := ha.bind hf
  rwa [Nat.zero_add, List.nil_append] at h

theorem bind_pure {g : α → β} (ha : a.Needs w C n es) :
    (a >>= fun x => Pure.pure (g x) : Action β).Needs w C n es := by
  have h := ha.bind (f := fun x => Pure.pure (g x)) fun x w' _ => pure (g x)
  rw [Nat.add_zero, List.append_nil] at h
  exact h.congr (and_iff_left trivial)

/-- A question that is only asked under a condition, and what comes after it. -/
theorem askIf_bind {b : Bool} {a : Action PUnit} {f : PUnit → Action β}
    (ha : a.Needs w True 1 []) (hf : ∀ w', (f ⟨⟩).Needs w' C n es) :
    (if b then a >>= f else f ⟨⟩).Needs w C ((if b then 1 else 0) + n) es := by
  cases b with
  | false =>
      rw [if_neg Bool.false_ne_true, if_neg Bool.false_ne_true, Nat.zero_add]
      exact hf w
  | true => exact (ha.bind fun _ w' _ => hf w').congr (and_iff_right trivial)

/-! ### Submissions -/

/-- A step that does nothing but submit an entry needs that the entry is let pass. -/
theorem of_submission {a : Action α} {e : LogEntry}
    (hrefused : w.chain.submit? e = none → ∃ f, a.perform w = (.error f, w))
    (hsent : ∀ c, w.chain.submit? e = some c → ∃ x w', a.perform w = (.ok x, w') ∧
      w'.input = w.input ∧ w'.chain.fault = c.fault) : a.Needs w True 0 [e] := by
  cases hc : w.chain.submit? e with
  | none =>
      obtain ⟨f, hf⟩ := hrefused hc
      have hno : ¬∃ x w', a.perform w = (.ok x, w') := by
        rintro ⟨x, w', hx⟩
        rw [hf] at hx
        cases hx
      refine ⟨fun _ hgrants => ?_, fun _ _ _ => trivial, fun x w' hx => (hno ⟨x, w', hx⟩).elim⟩
      obtain ⟨c, hsome⟩ := Chain.LetsPass.submit?_eq_some_iff.mp hgrants.chain
      rw [hc] at hsome
      cases hsome
  | some c =>
      obtain ⟨x, w₁, hx, hinput, hfault⟩ := hsent c hc
      refine ⟨fun _ _ => ⟨x, w₁, hx⟩, fun _ _ _ => trivial, fun y w₂ hy n' es' => ?_⟩
      obtain rfl : w₁ = w₂ := congrArg Prod.snd (hx.symm.trans hy)
      have hchain : w₁.chain.LetsPass es' ↔ c.LetsPass es' := by
        unfold Chain.LetsPass
        rw [hfault]
      rw [Nat.zero_add, List.singleton_append]
      constructor
      · rintro ⟨hoperator, hentries⟩
        exact ⟨hinput ▸ hoperator, hchain.mpr ((Chain.LetsPass.cons_iff hc).mp hentries)⟩
      · rintro ⟨hoperator, hentries⟩
        exact ⟨hinput ▸ hoperator, (Chain.LetsPass.cons_iff hc).mpr (hchain.mp hentries)⟩

theorem submit (e : LogEntry) : (submit e).Needs w True 0 [e] := by
  apply of_submission
  · intro hnone
    refine ⟨.reverted e.kind e.contract e.name, ?_⟩
    rw [Action.submit, perform_get_bind, hnone]
    rfl
  · intro c hc
    refine ⟨⟨⟩, { w with chain := c }, ?_, rfl, rfl⟩
    rw [Action.submit, perform_get_bind, hc]
    rfl

theorem submitDeployment (e : LogEntry) : (submitDeployment e).Needs w True 0 [e] := by
  apply of_submission
  · intro hnone
    refine ⟨.reverted e.kind e.contract e.name, ?_⟩
    rw [Action.submitDeployment, perform_get_bind, Chain.deploy?, hnone]
    rfl
  · intro c hc
    refine ⟨c.addressOf c.contracts,
      { w with chain := { c with contracts := c.contracts + 1 } }, ?_, rfl, rfl⟩
    rw [Action.submitDeployment, perform_get_bind, Chain.deploy?, hc]
    rfl

/-! ### Lists of actions -/

/-- Actions that need the same number of questions each. What they need does not depend on what the
chain has accepted in the meantime. -/
theorem mapM {f : α → Action β} {C : α → Prop} {n : Nat} {plan : α → List LogEntry} :
    ∀ (xs : List α) (w : World),
      (∀ x ∈ xs, ∀ done w', w.Accepts done w' → ∃ Q, (f x).Follows w' (plan x) Q) →
      (∀ x ∈ xs, ∀ done w', w.Accepts done w' → (f x).Needs w' (C x) n (plan x)) →
      (xs.mapM f).Needs w (∀ x ∈ xs, C x) (xs.length * n) (xs.flatMap plan) := by
  intro xs
  induction xs with
  | nil =>
      intro w _ _
      rw [List.length_nil, Nat.zero_mul]
      exact (pure _).congr (by simp)
  | cons x xs ih =>
      intro w hplan hneeds
      obtain ⟨Q, hx⟩ := hplan x List.mem_cons_self [] w (.refl w)
      rw [List.length_cons, Nat.succ_mul, Nat.add_comm, List.flatMap_cons, List.mapM_cons]
      refine ((hneeds x List.mem_cons_self [] w (.refl w)).bind fun _ w' hr => ?_).congr
        List.forall_mem_cons.symm
      have hw' := (hx.of_ok hr).1
      apply bind_pure
      apply ih w'
      · exact fun y hy done w'' h => hplan y (List.mem_cons_of_mem x hy) _ w'' (hw'.trans h)
      · exact fun y hy done w'' h => hneeds y (List.mem_cons_of_mem x hy) _ w'' (hw'.trans h)

/-- The same for actions without a result. -/
theorem forM {f : α → Action PUnit} {C : α → Prop} {n : Nat} {plan : α → List LogEntry}
    (xs : List α) (w : World)
    (hplan : ∀ x ∈ xs, ∀ done w', w.Accepts done w' → ∃ Q, (f x).Follows w' (plan x) Q)
    (hneeds : ∀ x ∈ xs, ∀ done w', w.Accepts done w' → (f x).Needs w' (C x) n (plan x)) :
    (xs.forM f).Needs w (∀ x ∈ xs, C x) (xs.length * n) (xs.flatMap plan) := by
  have heq : ∀ xs : List α, xs.forM f = xs.mapM f >>= fun _ => Pure.pure ⟨⟩ := by
    intro xs
    induction xs with
    | nil => rfl
    | cons x xs ih =>
        rw [List.mapM_cons]
        show (f x >>= fun _ => xs.forM f) = _
        simp [ih]
  rw [heq]
  exact (mapM xs w hplan hneeds).bind_pure

end Needs

/-! ## Questions -/

/-- Questions need a line each that is no refusal. -/
theorem Puts.needs {a : Action PUnit} {qs : List String} (ha : a.Puts qs) (w : World) :
    a.Needs w True qs.length [] := by
  have hheard := ha w
  rcases hr : a.perform w with ⟨r, w₁⟩
  rw [hr] at hheard
  have hresult : r = (hear w.input qs).verdict := hheard.result
  unfold Hearing.verdict at hresult
  cases hstop : (hear w.input qs).stop? with
  | some f =>
      have hno : ∀ x w', a.perform w ≠ (.ok x, w') := by
        intro x w' hx
        rw [hr, hresult, hstop] at hx
        cases hx
      refine ⟨fun _ hgrants => ?_, fun _ _ _ => trivial, fun x w' hx => (hno x w' hx).elim⟩
      rw [(hear_stop?_eq_none_iff qs w.input).mpr hgrants.operator] at hstop
      cases hstop
  | none =>
      rw [hstop] at hresult
      subst hresult
      refine ⟨fun _ _ => ⟨⟨⟩, w₁, hr⟩, fun _ _ _ => trivial, fun x w' hx n' es' => ?_⟩
      obtain rfl : w₁ = w' := congrArg Prod.snd (hr.symm.trans hx)
      have hinput : w₁.input = (hear w.input qs).left := hheard.told.input
      have hchain : w₁.chain = w.chain := hheard.alike.chain
      have hoperator : LetsPass w.input (qs.length + n') ↔ LetsPass w₁.input n' := by
        rw [letsPass_add_iff, hinput]
        exact and_iff_right hstop
      rw [List.nil_append]
      constructor
      · intro h
        exact ⟨hoperator.mp h.operator, hchain ▸ h.chain⟩
      · intro h
        exact ⟨hoperator.mpr h.operator, hchain ▸ h.chain⟩

end Action

end Rollout

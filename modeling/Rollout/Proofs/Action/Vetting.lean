import Rollout.Proofs.Abi.Overloads
import Rollout.Proofs.Action.Failing

/-!
# Submissions that fit their interface

An entry of the log names its contract, but what a contract takes is known only
of its type. A `Submission` is an entry together with the type that it is for,
and `Submission.Fits` says that the type takes it: a constructor has as many
inputs as there are arguments and each argument can be encoded, and a method has
an overload of which the same holds. The getter of a role is called without
arguments and without a look at its overloads, so all that can be said of it is
that the type has the method.

`Action.Vets admits a w subs` is the contract of an action that looks before it
submits. In the world `w` the action `a` submits a part of the list `subs` from
its beginning, all of it if it returns, and everything it submits fits. If it
fails because arguments do not match, then the next submission of the list is
one that does not fit, and it was not made.

## Main results

* `Action.Vets.bind`, `Action.Vets.forM`: joined actions join their lists.
* `Action.Vets.check_bind`: arguments are matched, and then something is submitted
  with them. This is the only step that can find a mismatch.
* `Action.Vets.of_keeps`, `Action.Vets.of_follows`: actions that match nothing.
-/

namespace Rollout

/-! ## Submissions -/

/-- What is submitted, with the type of the contract that it is for. -/
inductive Submission where
  | deploy (type : ContractType) (args : List Value)
  | transact (type : ContractType) (method : String) (args : List Value)
  | encode (type : ContractType) (method : String) (args : List Value)
  /-- A method that is called as the getter of a role. -/
  | getter (type : ContractType) (method : String)

/-- A contract type has a method with an overload for the arguments. -/
def ContractType.HasOverload (t : ContractType) (admits : Admission) (method : String)
    (args : List Value) : Prop :=
  ∃ overloads, t.method? method = some overloads ∧
    ∃ o ∈ overloads, o.inputs.length = args.length ∧
      Arguments.AllAdmitted admits o.inputs args

namespace Submission

/-- The entry that a submission leaves. -/
def entry : Submission → LogEntry
  | deploy type args => .deploy type.name args
  | transact type method args => .transact type.name method args
  | encode type method args => .encode type.name method args
  | getter type method => .transact type.name method []

/-- The type takes the submission. -/
def Fits (admits : Admission) : Submission → Prop
  | deploy type args =>
      args.length = type.constructor.length ∧
        Arguments.AllAdmitted admits type.constructor args
  | transact type method args => type.HasOverload admits method args
  | encode type method args => type.HasOverload admits method args
  | getter type method => (type.method? method).isSome = true

end Submission

/-! ## Mismatches -/

/-- The operation failed because arguments do not match an interface. -/
def Failure.IsMismatch : Failure → Prop
  | .arguments f => f.IsMismatch
  | _ => False

/-- These are the failures with the title of invalid arguments. -/
theorem Failure.isMismatch_iff {f : Failure} :
    f.IsMismatch ↔ f.title? = some "InvalidArguments" := by
  cases f with
  | arguments f => cases f <;> simp [IsMismatch, ArgumentFault.IsMismatch, title?]
  | configuration f => cases f <;> simp [IsMismatch, title?]
  | _ => simp [IsMismatch, title?]

namespace Action

variable {α β : Type}

/-- The action submits a part of a list from its beginning, all of it if it returns. What it submits
fits, and a mismatch is about the next submission of the list. -/
def Vets (admits : Admission) (a : Action α) (w : World) (subs : List Submission) : Prop :=
  ∃ done, done <+: subs ∧
    (a.perform w).2.chain.log = w.chain.log ++ done.map Submission.entry ∧
    (∀ s ∈ done, s.Fits admits) ∧
    (∀ x, (a.perform w).1 = .ok x → done = subs) ∧
    ∀ f, (a.perform w).1 = .error f → f.IsMismatch →
      ∃ s, done ++ [s] <+: subs ∧ ¬s.Fits admits

namespace Vets

variable {admits : Admission} {w : World} {subs subs' : List Submission}

/-- An action that submits what fits, and finds no mismatch. -/
theorem of_follows {a : Action α} {Q : α → Prop}
    (hplan : a.Follows w (subs.map Submission.entry) Q) (hfits : ∀ s ∈ subs, s.Fits admits)
    (hfail : a.FailsOnly w fun f => ¬f.IsMismatch) : a.Vets admits w subs := by
  obtain ⟨es, hes, hacc, hall⟩ := hplan.exists_part
  obtain ⟨done, hdone, rfl⟩ := List.prefix_map_iff.mp hes
  refine ⟨done, hdone, hacc.log, fun s hs => hfits s (hdone.subset hs), fun x hx => ?_, ?_⟩
  · have hlen : done.length = subs.length := by
      simpa only [List.length_map] using congrArg List.length (hall x hx)
    exact hdone.eq_of_length hlen
  · exact fun f hf hmismatch => absurd hmismatch (hfail f hf)

/-- An action that leaves the chain alone, and finds no mismatch. -/
theorem of_keeps {a : Action α} (hkeeps : a.Keeps World.chain w)
    (hfail : a.FailsOnly w fun f => ¬f.IsMismatch) : a.Vets admits w [] := by
  refine ⟨[], List.prefix_refl [], ?_, nofun, fun _ _ => rfl, ?_⟩
  · rw [show (a.perform w).2.chain = w.chain from hkeeps]
    exact (List.append_nil _).symm
  · exact fun f hf hmismatch => absurd hmismatch (hfail f hf)

theorem pure (x : α) : (Pure.pure x : Action α).Vets admits w [] :=
  .of_keeps (.pure x) (.pure x)

/-- An action that fails at once may have any list. -/
theorem throw {f : Failure} (hf : ¬f.IsMismatch) : (throw f : Action α).Vets admits w subs := by
  refine ⟨[], List.nil_prefix, (List.append_nil _).symm, nofun, nofun, ?_⟩
  rintro _ ⟨⟩ hmismatch
  exact absurd hmismatch hf

/-- Joined actions join their lists. The second starts in a world that the first has left. -/
theorem bind_of_ok {a : Action α} {g : α → Action β} (ha : a.Vets admits w subs)
    (hg : ∀ x w', a.perform w = (.ok x, w') → (g x).Vets admits w' subs') :
    (a >>= g).Vets admits w (subs ++ subs') := by
  obtain ⟨done, hdone, hlog, hfits, hall, hnext⟩ := ha
  unfold Vets
  rw [perform_bind]
  rcases hr : a.perform w with ⟨r, w₁⟩
  rw [hr] at hlog hall hnext
  cases r with
  | error f =>
      refine ⟨done, hdone.trans (List.prefix_append subs subs'), hlog, hfits, nofun, ?_⟩
      rintro _ ⟨⟩ hmismatch
      obtain ⟨s, hs, hmisfit⟩ := hnext f rfl hmismatch
      exact ⟨s, hs.trans (List.prefix_append subs subs'), hmisfit⟩
  | ok x =>
      obtain rfl := hall x rfl
      obtain ⟨more, hmore, hlog', hfits', hall', hnext'⟩ := hg x w₁ hr
      refine ⟨done ++ more, (List.prefix_append_right_inj done).mpr hmore, ?_, ?_, ?_, ?_⟩
      · rw [hlog', hlog, List.map_append, List.append_assoc]
      · exact List.forall_mem_append.mpr ⟨hfits, hfits'⟩
      · exact fun y hy => congrArg (done ++ ·) (hall' y hy)
      · intro f hf hmismatch
        obtain ⟨s, hs, hmisfit⟩ := hnext' f hf hmismatch
        refine ⟨s, ?_, hmisfit⟩
        rw [List.append_assoc]
        exact (List.prefix_append_right_inj done).mpr hs

/-- The same along a plan of the first action. -/
theorem bind {a : Action α} {g : α → Action β} {es : List LogEntry} {Q : α → Prop}
    (ha : a.Vets admits w subs) (hplan : a.Follows w es Q)
    (hg : ∀ x w', w.Accepts es w' → Q x → (g x).Vets admits w' subs') :
    (a >>= g).Vets admits w (subs ++ subs') := by
  refine bind_of_ok ha fun x w' hr => ?_
  obtain ⟨hacc, hx⟩ := hplan.of_ok hr
  exact hg x w' hacc hx

/-- The first of two actions may submit nothing. -/
theorem quiet_bind {a : Action α} {g : α → Action β} (ha : a.Vets admits w [])
    (hg : ∀ x w', a.perform w = (.ok x, w') → (g x).Vets admits w' subs) :
    (a >>= g).Vets admits w subs :=
  bind_of_ok ha hg

/-- The second of two actions may submit nothing. -/
theorem bind_quiet {a : Action α} {g : α → Action β} (ha : a.Vets admits w subs)
    (hg : ∀ x w', a.perform w = (.ok x, w') → (g x).Vets admits w' []) :
    (a >>= g).Vets admits w subs := by
  have h := ha.bind_of_ok hg
  rwa [List.append_nil] at h

theorem map {a : Action α} (f : α → β) (ha : a.Vets admits w subs) :
    (f <$> a).Vets admits w subs := by
  rw [map_eq_pure_bind]
  exact bind_quiet ha fun _ _ _ => pure _

theorem get_bind {g : World → Action β} (h : (g w).Vets admits w subs) :
    (get >>= g : Action β).Vets admits w subs := h

/-! ## Steps that match nothing -/

theorem say (n : Notice) : (say n).Vets admits w [] :=
  .of_keeps rfl (.say n)

theorem ask (text : String) : (ask text).Vets admits w [] :=
  .of_follows (.ask text) nofun (.ask text id id)

theorem askDeployment (contract : String) (args : NamedArgs) :
    (askDeployment contract args).Vets admits w [] :=
  .of_follows (.askDeployment contract args) nofun (.askDeployment contract args id id)

theorem ofExcept {r : Except Failure α} (hr : ∀ f, r = .error f → ¬f.IsMismatch) :
    (ofExcept r).Vets admits w [] :=
  .of_keeps (.ofExcept r) (.ofExcept hr)

/-- A question that is only asked under a condition, and what comes after it. -/
theorem askIf_bind {b : Bool} {a : Action PUnit} {g : PUnit → Action β}
    (ha : a.Vets admits w []) (hg : ∀ w', (g ⟨⟩).Vets admits w' subs) :
    (if b then a >>= g else g ⟨⟩).Vets admits w subs := by
  split
  · exact quiet_bind ha fun _ w' _ => hg w'
  · exact hg w

/-! ## Submissions -/

theorem submit {s : Submission} (hs : s.entry.isDeployment = false) (hfits : s.Fits admits) :
    (Action.submit s.entry).Vets admits w [s] :=
  .of_follows (.submit hs) (List.forall_mem_singleton.mpr hfits) (.submit (.inr id))

theorem submitDeployment {s : Submission} (hs : s.entry.isDeployment = true)
    (hfits : s.Fits admits) : (Action.submitDeployment s.entry).Vets admits w [s] :=
  .of_follows (.submitDeployment hs) (List.forall_mem_singleton.mpr hfits)
    (.submitDeployment (.inr id))

/-- Arguments are matched before anything is submitted with them. Where they do not match, the first
submission does not fit. -/
theorem check_bind {r : Except ArgumentFault NamedArgs} {g : NamedArgs → Action β}
    {s : Submission} (hok : ∀ named, r = .ok named → (g named).Vets admits w (s :: subs))
    (herror : ∀ f, r = .error f → f.IsMismatch → ¬s.Fits admits) :
    (Action.ofExcept (r.mapError Failure.arguments) >>= g).Vets admits w (s :: subs) := by
  cases r with
  | ok named => exact hok named rfl
  | error f =>
      refine ⟨[], List.nil_prefix, (List.append_nil _).symm, nofun, nofun, ?_⟩
      rintro _ ⟨⟩ hmismatch
      exact ⟨s, List.prefix_append [s] subs, herror f rfl hmismatch⟩

/-! ## Lists of actions -/

/-- Actions taken for each item of a list. What is to be submitted for an item does not depend on
what the chain has accepted in the meantime. -/
theorem forM {f : α → Action PUnit} {plan : α → List Submission} :
    ∀ (xs : List α) (w : World),
      (∀ x ∈ xs, ∀ done w', w.Accepts done w' → ∃ es Q, (f x).Follows w' es Q) →
      (∀ x ∈ xs, ∀ done w', w.Accepts done w' → (f x).Vets admits w' (plan x)) →
      (xs.forM f).Vets admits w (xs.flatMap plan) := by
  intro xs
  induction xs with
  | nil => exact fun w _ _ => pure _
  | cons x xs ih =>
      intro w hplan hvets
      obtain ⟨es, Q, hx⟩ := hplan x List.mem_cons_self [] w (.refl w)
      rw [List.flatMap_cons]
      refine bind (hvets x List.mem_cons_self [] w (.refl w)) hx fun _ w' hw' _ => ih w' ?_ ?_
      · exact fun y hy done w'' h => hplan y (List.mem_cons_of_mem x hy) _ w'' (hw'.trans h)
      · exact fun y hy done w'' h => hvets y (List.mem_cons_of_mem x hy) _ w'' (hw'.trans h)

theorem mapM {f : α → Action β} {plan : α → List Submission} :
    ∀ (xs : List α) (w : World),
      (∀ x ∈ xs, ∀ done w', w.Accepts done w' → ∃ es Q, (f x).Follows w' es Q) →
      (∀ x ∈ xs, ∀ done w', w.Accepts done w' → (f x).Vets admits w' (plan x)) →
      (xs.mapM f).Vets admits w (xs.flatMap plan) := by
  intro xs
  induction xs with
  | nil => exact fun w _ _ => pure _
  | cons x xs ih =>
      intro w hplan hvets
      rw [List.mapM_cons, List.flatMap_cons]
      obtain ⟨es, Q, hx⟩ := hplan x List.mem_cons_self [] w (.refl w)
      refine bind (hvets x List.mem_cons_self [] w (.refl w)) hx fun _ w' hw' _ =>
        bind_quiet (ih w' ?_ ?_) fun _ _ _ => pure _
      · exact fun y hy done w'' h => hplan y (List.mem_cons_of_mem x hy) _ w'' (hw'.trans h)
      · exact fun y hy done w'' h => hvets y (List.mem_cons_of_mem x hy) _ w'' (hw'.trans h)

end Vets

end Action

end Rollout

import Rollout.Proofs.Action.Effect

/-!
# What can be seen of an action

Notices carry more than they show: the one about the settings has all of them in
it, and its wording leaves the credentials out. Who stands outside sees the
wording. Two worlds look alike if they are equal but for notices with the same
text (`World.LooksLike`), and two actions look alike if nobody who sees the
worlds can tell which was taken (`Action.LooksLike`): from worlds that look alike
they have the same result or the same failure and lead to worlds that look alike.

An action that looks like itself does not look into notices that have been told.

## Main results

* `Action.LooksLike.bind`, `Action.LooksLike.forM`, `Action.LooksLike.mapM`: what
  is put together of actions that look alike.
* `Action.LooksLike.say`: notices with the same text.
* `Action.LooksLike.submit`, `Action.LooksLike.submitDeployment`,
  `Action.LooksLike.ask`, `Action.LooksLike.of_files`: the chain, the operator and
  the files.
-/

namespace Rollout

/-- Worlds that are equal but for what stands behind the text of the notices. -/
structure World.LooksLike (w w' : World) : Prop where
  chain : w'.chain = w.chain
  files : w'.files = w.files
  keystore : w'.keystore = w.keystore
  input : w'.input = w.input
  connections : w'.connections = w.connections
  told : transcript w'.notices = transcript w.notices

theorem World.LooksLike.refl (w : World) : w.LooksLike w := ⟨rfl, rfl, rfl, rfl, rfl, rfl⟩

theorem transcript_append (ns ns' : List Notice) :
    transcript (ns ++ ns') = transcript ns ++ transcript ns' := by
  rw [transcript, List.map_append, String.join_append]
  rfl

/-- Notices with the same text can be told. -/
theorem World.LooksLike.tell {w w' : World} (h : w.LooksLike w') {n n' : Notice}
    (htext : n'.text = n.text) :
    World.LooksLike { w with notices := w.notices ++ [n] }
      { w' with notices := w'.notices ++ [n'] } := by
  have hsame : transcript [n'] = transcript [n] := by
    rw [transcript, transcript, List.map_singleton, List.map_singleton, htext]
  refine { h with told := ?_ }
  rw [transcript_append, transcript_append, h.told, hsame]

namespace Action

variable {α β : Type}

/-- Two ends of a run that look alike. -/
structure SameEnd (p q : Except Failure α × World) : Prop where
  result : q.1 = p.1
  world : p.2.LooksLike q.2

/-- From worlds that look alike, the actions have ends that look alike. -/
def LooksLike (a b : Action α) : Prop :=
  ∀ w w' : World, w.LooksLike w' → SameEnd (a.perform w) (b.perform w')

namespace LooksLike

theorem pure (x : α) : LooksLike (Pure.pure x : Action α) (Pure.pure x) :=
  fun _ _ h => ⟨rfl, h⟩

theorem throw (f : Failure) : LooksLike (throw f : Action α) (throw f) :=
  fun _ _ h => ⟨rfl, h⟩

theorem ofExcept (r : Except Failure α) : LooksLike (ofExcept r) (ofExcept r) := by
  cases r with
  | ok x => exact pure x
  | error f => exact throw f

/-- Only the text of a notice is seen. -/
theorem say {n n' : Notice} (htext : n'.text = n.text) : LooksLike (say n) (say n') :=
  fun _ _ h => ⟨rfl, h.tell htext⟩

theorem bind {a b : Action α} {f g : α → Action β} (ha : LooksLike a b)
    (hf : ∀ x, LooksLike (f x) (g x)) : LooksLike (a >>= f) (b >>= g) := by
  intro w w' h
  obtain ⟨hresult, hworld⟩ := ha w w' h
  rw [perform_bind, perform_bind]
  generalize a.perform w = p at hresult hworld ⊢
  generalize b.perform w' = q at hresult hworld ⊢
  obtain ⟨r, u⟩ := p
  obtain ⟨r', u'⟩ := q
  obtain rfl : r' = r := hresult
  cases r' with
  | ok x => exact hf x u u' hworld
  | error e => exact ⟨rfl, hworld⟩

/-- An action that looks at the world first. -/
theorem get_bind {f g : World → Action β}
    (h : ∀ w w', w.LooksLike w' → SameEnd ((f w).perform w) ((g w').perform w')) :
    LooksLike (get >>= f : Action β) (get >>= g) := h

/-- An action that only uses what looks the same. -/
theorem get_bind_of_eq {f : World → Action β} (heq : ∀ w w', w.LooksLike w' → f w' = f w)
    (h : ∀ w, LooksLike (f w) (f w)) : LooksLike (get >>= f : Action β) (get >>= f) := by
  refine get_bind fun w w' hw => ?_
  rw [heq w w' hw]
  exact h w w w' hw

/-- An action that works on the files alone. -/
theorem of_files {a : Action α} (r : Store → Except Failure α) (next : Store → Store)
    (h : ∀ w : World, a.perform w = (r w.files, { w with files := next w.files })) :
    LooksLike a a := by
  intro w w' hw
  rw [h, h, hw.files]
  exact ⟨rfl, { hw with files := rfl }⟩

/-! ## The operator -/

theorem ask (text : String) : LooksLike (ask text) (ask text) := by
  unfold Action.ask
  refine bind (say rfl) fun _ => get_bind fun w w' hw => ?_
  rw [hw.input]
  cases nextLine? w.input with
  | none => exact ⟨rfl, hw⟩
  | some line =>
      obtain ⟨answer, rest⟩ := line
      have hrest : World.LooksLike { w with input := rest } { w' with input := rest } :=
        { hw with input := rfl }
      have hend : LooksLike
          (if isRefusal answer = true then do
            Action.say .aborting
            MonadExcept.throw Failure.aborted
          else Pure.pure ⟨⟩ : Action Unit)
          (if isRefusal answer = true then do
            Action.say .aborting
            MonadExcept.throw Failure.aborted
          else Pure.pure ⟨⟩) := by
        split
        · exact bind (say rfl) fun _ => throw _
        · exact pure _
      exact hend _ _ hrest

theorem askDeployment (contract : String) (args : NamedArgs) :
    LooksLike (askDeployment contract args) (askDeployment contract args) := by
  unfold Action.askDeployment
  split
  · exact bind (say rfl) fun _ => ask _
  · refine bind (say rfl) fun _ => bind (ask _) fun _ => ?_
    split
    · exact ask _
    · exact pure _

/-- A question that is only asked under a condition, and what comes after it. -/
theorem askIf_bind {b : Bool} {a : Action PUnit} {f g : PUnit → Action β} (ha : LooksLike a a)
    (hf : LooksLike (f ⟨⟩) (g ⟨⟩)) :
    LooksLike (if b then a >>= f else f ⟨⟩) (if b then a >>= g else g ⟨⟩) := by
  split
  · exact bind ha fun _ => hf
  · exact hf

/-! ## The chain -/

theorem submit (e : LogEntry) : LooksLike (submit e) (submit e) := by
  unfold Action.submit
  refine get_bind fun w w' hw => ?_
  rw [hw.chain]
  cases w.chain.submit? e with
  | none => exact ⟨rfl, hw⟩
  | some chain => exact ⟨rfl, { hw with chain := rfl }⟩

theorem submitDeployment (e : LogEntry) :
    LooksLike (submitDeployment e) (submitDeployment e) := by
  unfold Action.submitDeployment
  refine get_bind fun w w' hw => ?_
  rw [hw.chain]
  cases w.chain.deploy? e with
  | none => exact ⟨rfl, hw⟩
  | some made => exact ⟨rfl, { hw with chain := rfl }⟩

/-! ## Lists of actions -/

theorem forM {f g : α → Action PUnit} (xs : List α) (h : ∀ x ∈ xs, LooksLike (f x) (g x)) :
    LooksLike (xs.forM f) (xs.forM g) := by
  induction xs with
  | nil => exact pure _
  | cons x xs ih =>
      exact bind (h x List.mem_cons_self) fun _ =>
        ih fun y hy => h y (List.mem_cons_of_mem x hy)

theorem mapM {f g : α → Action β} (xs : List α) (h : ∀ x ∈ xs, LooksLike (f x) (g x)) :
    LooksLike (xs.mapM f) (xs.mapM g) := by
  induction xs with
  | nil => exact pure _
  | cons x xs ih =>
      rw [List.mapM_cons, List.mapM_cons]
      refine bind (h x List.mem_cons_self) fun _ => ?_
      exact bind (ih fun y hy => h y (List.mem_cons_of_mem x hy)) fun _ => pure _

end LooksLike

end Action

end Rollout

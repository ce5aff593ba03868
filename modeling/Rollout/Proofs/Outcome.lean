/-!
# Results that may be errors

What is known of a computation that returned: each of its steps returned, and
renaming errors changes nothing. And what is known of one that may fail: its
errors are those of its steps (`Outcome.FailsOnly`).
-/

namespace Rollout.Outcome

variable {ε ε' α β : Type}

/-- Two steps return exactly if both return, one after the other. -/
theorem bind_eq_ok {x : Except ε α} {f : α → Except ε β} {b : β} :
    (x >>= f) = .ok b ↔ ∃ a, x = .ok a ∧ f a = .ok b := by
  cases x with
  | ok a =>
      constructor
      · intro h
        exact ⟨a, rfl, h⟩
      · rintro ⟨a', ha, h⟩
        cases ha
        exact h
  | error e =>
      constructor
      · intro h
        cases h
      · rintro ⟨_, ha, _⟩
        cases ha

/-- What is done with the result of two steps is done with that of the second. -/
theorem map_bind {γ : Type} (x : Except ε α) (g : α → Except ε β) (f : β → γ) :
    (x >>= g).map f = x >>= fun a => (g a).map f := by
  cases x <;> rfl

/-- Renaming the errors of two steps renames those of each. -/
theorem mapError_bind (x : Except ε α) (g : α → Except ε β) (f : ε → ε') :
    (x >>= g).mapError f = x.mapError f >>= fun a => (g a).mapError f := by
  cases x <;> rfl

theorem mapError_eq_ok {x : Except ε α} {f : ε → ε'} {a : α} :
    x.mapError f = .ok a ↔ x = .ok a := by
  cases x with
  | ok b =>
      show (.ok b : Except ε' α) = .ok a ↔ _
      rw [Except.ok.injEq, Except.ok.injEq]
  | error e => exact ⟨nofun, nofun⟩

theorem map_eq_ok {x : Except ε α} {f : α → β} {b : β} :
    x.map f = .ok b ↔ ∃ a, x = .ok a ∧ f a = b := by
  cases x with
  | ok a =>
      show (.ok (f a) : Except ε β) = .ok b ↔ _
      simp
  | error e => exact ⟨nofun, fun ⟨_, ha, _⟩ => by cases ha⟩

theorem map_eq_error {x : Except ε α} {f : α → β} {e : ε} : x.map f = .error e ↔ x = .error e := by
  cases x with
  | ok a => exact ⟨nofun, nofun⟩
  | error e' =>
      show (.error e' : Except ε β) = .error e ↔ _
      simp

theorem exists_eq_ok {x : Except ε α} (h : x.isOk = true) : ∃ a, x = .ok a := by
  cases x with
  | ok a => exact ⟨a, rfl⟩
  | error e => cases h

theorem eq_ok_of_toOption {x : Except ε α} {a : α} (h : x.toOption = some a) : x = .ok a := by
  cases x with
  | ok b => rw [Option.some.inj h]
  | error e => cases h

/-! ## Errors -/

/-- The error of a result, if it is one. -/
def error? : Except ε α → Option ε
  | .ok _ => none
  | .error e => some e

/-- A result whose error passes a check is an error. -/
theorem exists_eq_error {x : Except ε α} {check : ε → Bool} (h : (error? x).any check = true) :
    ∃ e, x = .error e ∧ check e = true := by
  cases x with
  | ok a => cases h
  | error e => exact ⟨e, rfl, h⟩

/-- Every error of the result is one of those. -/
def FailsOnly (x : Except ε α) (E : ε → Prop) : Prop := ∀ e, x = .error e → E e

namespace FailsOnly

variable {E : ε → Prop} {E' : ε' → Prop}

theorem ok (a : α) : FailsOnly (.ok a) E := nofun

theorem error {e : ε} (h : E e) : FailsOnly (.error e : Except ε α) E := by
  rintro _ ⟨⟩
  exact h

theorem mapError {x : Except ε α} {f : ε → ε'} (h : ∀ e, x = .error e → E' (f e)) :
    FailsOnly (x.mapError f) E' := by
  cases x with
  | ok a => exact ok a
  | error e => exact error (h e rfl)

theorem map {x : Except ε α} (h : FailsOnly x E) (f : α → β) : FailsOnly (x.map f) E := by
  cases x with
  | ok a => exact ok (f a)
  | error e => exact error (h e rfl)

theorem bind {x : Except ε α} {f : α → Except ε β} (h : FailsOnly x E)
    (hf : ∀ a, FailsOnly (f a) E) : FailsOnly (x >>= f) E := by
  cases x with
  | ok a => exact hf a
  | error e => exact error (h e rfl)

theorem forM {f : α → Except ε PUnit} (hf : ∀ a, FailsOnly (f a) E) :
    ∀ xs : List α, FailsOnly (xs.forM f) E
  | [] => ok _
  | x :: xs => bind (hf x) fun _ => forM hf xs

end FailsOnly

end Rollout.Outcome

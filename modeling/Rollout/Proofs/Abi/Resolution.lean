import Rollout.Proofs.Action.Vetting

/-!
# Which overload is taken

Of a method's overloads the first is taken that accepts the arguments: it has as
many inputs, and every argument can be encoded at the type of its input
(`Overload.IsFirst`). An overload before it that accepts only some of the
arguments leaves no trace.

Whether a value can be encoded may be left open, and then it is open which
overload is the first. Under a predicate (`Admission.ofPredicate`) it never is,
and resolution is exact: it gives the arguments by the names of the first
overload that accepts them, or else finds that they do not match.

A constructor is matched in another way, but with the same outcome.

## Main results

* `Arguments.exists_isFirst_of_forMethod`: arguments that were matched have the
  names of the first overload that accepts them.
* `Arguments.resolution_exact`: resolution under a predicate.
-/

namespace Rollout

/-- What can be encoded at a type, where a predicate settles it. -/
def Admission.ofPredicate (p : String → Value → Bool) : Admission := fun type v => .ok (p type v)

/-- It is never left open. -/
theorem ArgumentFault.not_leftOpenBy_ofPredicate (p : String → Value → Bool)
    (f : ArgumentFault) : ¬f.LeftOpenBy (.ofPredicate p) := by
  cases f with
  | undecided e =>
      rintro ⟨type, v, h⟩
      cases h
  | _ => exact id

/-! ## Overloads and arguments -/

namespace Overload

variable {admits : Admission} {overloads : List Overload} {args : List Value} {o o' : Overload}

/-- The overload has as many inputs as there are arguments, and each argument can be encoded at the
type of its input. -/
def Accepts (admits : Admission) (o : Overload) (args : List Value) : Prop :=
  o.inputs.length = args.length ∧ Arguments.AllAdmitted admits o.inputs args

/-- The first of some overloads that accepts the arguments. -/
structure IsFirst (admits : Admission) (overloads : List Overload) (args : List Value)
    (o : Overload) : Prop where
  accepts : o.Accepts admits args
  split : ∃ before after, overloads = before ++ o :: after ∧
    ∀ o' ∈ before, ¬o'.Accepts admits args

theorem IsFirst.cons (h : IsFirst admits overloads args o) (ho' : ¬o'.Accepts admits args) :
    IsFirst admits (o' :: overloads) args o := by
  obtain ⟨before, after, rfl, hbefore⟩ := h.split
  exact ⟨h.accepts, o' :: before, after, rfl, List.forall_mem_cons.mpr ⟨ho', hbefore⟩⟩

/-- There is only one. -/
theorem IsFirst.eq (h : IsFirst admits overloads args o) (h' : IsFirst admits overloads args o') :
    o = o' := by
  classical
  have hfind : ∀ {o}, IsFirst admits overloads args o →
      overloads.find? (fun o => decide (o.Accepts admits args)) = some o := by
    intro o ho
    obtain ⟨before, after, hsplit, hbefore⟩ := ho.split
    rw [List.find?_eq_some_iff_append]
    exact ⟨decide_eq_true ho.accepts, before, after, hsplit, by simpa using hbefore⟩
  have hsome : some o = some o' := (hfind h).symm.trans (hfind h')
  exact Option.some.inj hsome

/-- The inputs have names, and different ones. -/
structure NamesInputs (o : Overload) : Prop where
  nodup : (o.inputs.map Input.name).Nodup
  nonempty : ∀ i ∈ o.inputs, ∃ name, i.name = some name ∧ name ≠ ""

end Overload

/-! ## Methods -/

namespace Arguments

open Overload (IsFirst)

variable {admits : Admission} {overloads : List Overload} {args : List Value}

theorem exists_isFirst_of_firstMatch? {named : NamedArgs}
    (h : firstMatch? admits args overloads = .ok (some named)) :
    ∃ o, IsFirst admits overloads args o ∧ named = o.named args := by
  induction overloads with
  | nil => cases h
  | cons o os ih =>
      obtain ⟨found, ho, h⟩ := Outcome.bind_eq_ok.mp h
      cases found with
      | some found =>
          cases h
          have haccepts : o.Accepts admits args := allAdmitted_of_matchOverload? ho
          exact ⟨o, ⟨haccepts, [], os, rfl, nofun⟩, eq_named_of_matchOverload? ho⟩
      | none =>
          have hnot : ¬o.Accepts admits args := by
            rintro ⟨hlen, hall⟩
            obtain ⟨named', hmatch⟩ := exists_matchOverload? hlen hall
            rw [hmatch] at ho
            cases ho
          obtain ⟨o', hfirst, hnamed⟩ := ih h
          exact ⟨o', hfirst.cons hnot, hnamed⟩

/-- Arguments that were matched have the names of the first overload that accepts them. -/
theorem exists_isFirst_of_forMethod {named : NamedArgs}
    (h : forMethod admits overloads args = .ok named) :
    ∃ o, IsFirst admits overloads args o ∧ named = o.named args := by
  cases overloads with
  | nil => cases h
  | cons o os =>
      obtain ⟨found, hfirst, h⟩ := Outcome.bind_eq_ok.mp h
      cases found with
      | none => cases h
      | some found =>
          cases h
          exact exists_isFirst_of_firstMatch? hfirst

theorem forMethod_failsOnly (overloads : List Overload) (args : List Value) :
    Outcome.FailsOnly (forMethod admits overloads args)
      fun f => f.IsMismatch ∨ f.LeftOpenBy admits := by
  cases overloads with
  | nil => exact .error (.inl trivial)
  | cons o os =>
      refine .bind (fun f hf => .inr (firstMatch?_failsOnly args _ f hf)) fun found => ?_
      cases found with
      | some named => exact .ok named
      | none => exact .error (.inl trivial)

/-! ## Constructors -/

theorem exists_forConstructor_iff {contract : String} {inputs : List Input} :
    (∃ named, forConstructor admits contract inputs args = .ok named) ↔
      inputs.length = args.length ∧ AllAdmitted admits inputs args := by
  constructor
  · rintro ⟨named, h⟩
    obtain ⟨-, hlen, hall⟩ := forConstructor_eq_ok h
    exact ⟨hlen.symm, hall⟩
  · rintro ⟨hlen, hall⟩
    exact exists_forConstructor hlen.symm hall

/-- Inputs that all have a name are shown under it. -/
theorem shownNames_of_nonempty {inputs : List Input}
    (h : ∀ i ∈ inputs, ∃ name, i.name = some name ∧ name ≠ "") :
    (shownNames inputs).map some = inputs.map Input.name := by
  apply List.ext_getElem
  · simp [shownNames]
  · intro position hshown hnames
    rw [List.length_map] at hnames
    obtain ⟨name, hname, hne⟩ := h inputs[position] (List.getElem_mem hnames)
    simp [shownNames, constructorName, hname, hne]

/-- Under the names of their inputs the arguments of a constructor are those of an overload. -/
theorem forConstructor_eq_named {contract : String} {o : Overload} (ho : o.NamesInputs)
    (h : o.Accepts admits args) :
    forConstructor admits contract o.inputs args = .ok (o.named args) := by
  obtain ⟨named, hnamed⟩ := exists_forConstructor_iff.mpr h
  obtain ⟨rfl, -⟩ := forConstructor_eq_ok hnamed
  rw [hnamed, constructorNamed_eq, shownNames_of_nonempty ho.nonempty]
  rfl

/-! ## Exactness -/

section

variable (p : String → Value → Bool)

theorem isMismatch_of_forMethod {f : ArgumentFault}
    (h : forMethod (.ofPredicate p) overloads args = .error f) : f.IsMismatch :=
  (forMethod_failsOnly overloads args f h).resolve_right (f.not_leftOpenBy_ofPredicate p)

theorem exists_forMethod_iff :
    (∃ named, forMethod (.ofPredicate p) overloads args = .ok named) ↔
      ∃ o ∈ overloads, o.Accepts (.ofPredicate p) args := by
  constructor
  · rintro ⟨named, h⟩
    exact exists_of_forMethod h
  · rintro ⟨o, ho, hlen, hall⟩
    cases h : forMethod (.ofPredicate p) overloads args with
    | ok named => exact ⟨named, rfl⟩
    | error f =>
        have hno := not_allAdmitted_of_forMethod h (isMismatch_of_forMethod p h)
        exact absurd hall (hno o ho hlen)

/-- The first overload that accepts the arguments names them. -/
theorem forMethod_of_isFirst {o : Overload} (h : IsFirst (.ofPredicate p) overloads args o) :
    forMethod (.ofPredicate p) overloads args = .ok (o.named args) := by
  obtain ⟨before, after, hsplit, -⟩ := h.split
  have hmem : o ∈ overloads := by
    rw [hsplit]
    exact List.mem_append_right before List.mem_cons_self
  obtain ⟨named, hnamed⟩ := (exists_forMethod_iff p).mpr ⟨o, hmem, h.accepts⟩
  obtain ⟨o', hfirst, rfl⟩ := exists_isFirst_of_forMethod hnamed
  rw [hnamed, h.eq hfirst]

end

/-- Let a predicate settle what can be encoded. Then arguments are matched with a method exactly if
one of its overloads accepts them, and otherwise they are invalid. They are named by the first
overload that accepts them, whatever comes before it. If its inputs have different names, these are
the names of the arguments, and a constructor with the same inputs gives the same. A method with
one overload and a constructor with its inputs take the same arguments. -/
theorem resolution_exact (p : String → Value → Bool) (overloads : List Overload)
    (args : List Value) :
    ((∃ named, forMethod (.ofPredicate p) overloads args = .ok named) ↔
        ∃ o ∈ overloads, o.Accepts (.ofPredicate p) args) ∧
      ((¬∃ o ∈ overloads, o.Accepts (.ofPredicate p) args) →
        ∃ f, forMethod (.ofPredicate p) overloads args = .error f ∧
          (Failure.arguments f).title? = some "InvalidArguments") ∧
      (∀ o, IsFirst (.ofPredicate p) overloads args o →
        forMethod (.ofPredicate p) overloads args = .ok (o.named args) ∧
          (o.NamesInputs →
            forMethod (.ofPredicate p) overloads args =
                .ok ((o.inputs.map Input.name).zip args) ∧
              ∀ contract, forConstructor (.ofPredicate p) contract o.inputs args =
                forMethod (.ofPredicate p) overloads args)) ∧
      ∀ o contract, (∃ named, forMethod (.ofPredicate p) [o] args = .ok named) ↔
        ∃ named, forConstructor (.ofPredicate p) contract o.inputs args = .ok named := by
  refine ⟨exists_forMethod_iff p, fun hnone => ?_, fun o ho => ⟨forMethod_of_isFirst p ho, ?_⟩,
    fun o contract => ?_⟩
  · cases h : forMethod (.ofPredicate p) overloads args with
    | ok named => exact absurd ((exists_forMethod_iff p).mp ⟨named, h⟩) hnone
    | error f =>
        have hmismatch : (Failure.arguments f).IsMismatch := isMismatch_of_forMethod p h
        exact ⟨f, rfl, Failure.isMismatch_iff.mp hmismatch⟩
  · intro hnames
    rw [forMethod_of_isFirst p ho]
    constructor
    · rw [Overload.named_eq_zip ho.accepts.1 hnames.nodup]
    · exact fun contract => forConstructor_eq_named hnames ho.accepts
  · rw [exists_forMethod_iff, exists_forConstructor_iff]
    simp only [List.mem_singleton, exists_eq_left]
    rfl

/-- Texts are addresses, and integers are amounts. -/
def plainPredicate (type : String) : Value → Bool
  | .text _ => type == "address"
  | .int _ => type == "uint256"
  | _ => false

/-- The first overload accepts only the first argument, and the second gives both its names. -/
theorem resolution_exact_partial_match :
    forMethod (.ofPredicate plainPredicate)
        [⟨"move", [⟨some "from", "address"⟩, ⟨some "to", "address"⟩]⟩,
          ⟨"move", [⟨some "owner", "address"⟩, ⟨some "amount", "uint256"⟩]⟩]
        [.text "alice", .int 7] =
      .ok [(some "owner", .text "alice"), (some "amount", .int 7)] := by
  have hfirst : IsFirst (.ofPredicate plainPredicate)
      [⟨"move", [⟨some "from", "address"⟩, ⟨some "to", "address"⟩]⟩,
        ⟨"move", [⟨some "owner", "address"⟩, ⟨some "amount", "uint256"⟩]⟩]
      [.text "alice", .int 7]
      ⟨"move", [⟨some "owner", "address"⟩, ⟨some "amount", "uint256"⟩]⟩ :=
    { accepts := by
        simp [Overload.Accepts, AllAdmitted, Admission.ofPredicate, plainPredicate]
      split := by
        refine ⟨[_], [], rfl, List.forall_mem_singleton.mpr ?_⟩
        rintro ⟨-, hall⟩
        have hto := hall (⟨some "to", "address"⟩, .int 7) (by simp)
        simp [Admission.ofPredicate, plainPredicate] at hto }
  exact (((resolution_exact plainPredicate _ _).2.2.1 _ hfirst).2
    { nodup := by decide
      nonempty := by simp }).1

end Arguments

end Rollout

import Rollout.Proofs.Abi.Naming
import Rollout.Proofs.Outcome

/-!
# Arguments that match

When a method's arguments have been matched with its overloads, one of the
overloads has as many inputs as there are arguments, and each argument can be
encoded at the type of its input. Conversely such arguments are matched with a
method's only overload.

When they have not been matched, either no overload takes them
(`ArgumentFault.IsMismatch`), or it was left open whether one does. The second
can hide an overload further on that takes them, so nothing follows from it.

A constructor has one list of inputs, and matching is an equivalence there. The
names that its arguments get do not depend on what can be encoded
(`Arguments.constructorNamed`).

## Main results

* `Arguments.exists_of_forMethod`, `Arguments.forConstructor_eq_ok`: arguments that
  were matched fit.
* `Arguments.not_allAdmitted_of_forMethod`: arguments that do not match a method fit
  none of its overloads.
* `Arguments.exists_forMethod`, `Arguments.exists_forConstructor`: arguments that
  fit are matched.
-/

namespace Rollout

/-- Arguments were found not to match an interface; it was not left open. -/
def ArgumentFault.IsMismatch : ArgumentFault → Prop
  | .undecided _ => False
  | _ => True

/-- It was left open whether some value can be encoded. -/
def ArgumentFault.LeftOpenBy (admits : Admission) : ArgumentFault → Prop
  | .undecided e => ∃ type v, admits type v = .error e
  | _ => False

theorem ArgumentFault.LeftOpenBy.not_isMismatch {admits : Admission} {f : ArgumentFault}
    (h : f.LeftOpenBy admits) : ¬f.IsMismatch := by
  cases f with
  | undecided e => exact id
  | _ => exact h.elim

/-- Arguments under the names of the inputs of an overload. -/
def Overload.named (o : Overload) (args : List Value) : NamedArgs :=
  .putAll [] ((o.inputs.map Input.name).zip args)

namespace Overload

variable {o : Overload} {args : List Value}

private theorem length_map_name (h : o.inputs.length = args.length) :
    (o.inputs.map Input.name).length = args.length := by
  rw [List.length_map, h]

theorem named_eq_zip (hlen : o.inputs.length = args.length)
    (h : (o.inputs.map Input.name).Nodup) :
    o.named args = (o.inputs.map Input.name).zip args := by
  rw [named, NamedArgs.putAll_eq_self]
  rw [NamedArgs.names_zip (length_map_name hlen)]
  exact h

/-- All arguments are shown, in their order, exactly if the inputs have different names. -/
theorem values_named_iff (hlen : o.inputs.length = args.length) :
    (o.named args).values = args ↔ (o.inputs.map Input.name).Nodup := by
  have h := NamedArgs.values_putAll_iff ((o.inputs.map Input.name).zip args)
  rwa [NamedArgs.names_zip (length_map_name hlen),
    NamedArgs.values_zip (length_map_name hlen)] at h

end Overload

namespace Arguments

variable {admits : Admission}

/-- Each argument can be encoded at the type of its input. -/
def AllAdmitted (admits : Admission) (inputs : List Input) (args : List Value) : Prop :=
  ∀ p ∈ inputs.zip args, admits p.1.type p.2 = .ok true

theorem allAdmitted_nil (inputs : List Input) : AllAdmitted admits inputs [] := by
  intro p hp
  rw [List.zip_nil_right] at hp
  cases hp

theorem allAdmitted_of_nameAll? {args : List Value} :
    ∀ {named : NamedArgs} {inputs : List Input} {found : NamedArgs},
      nameAll? admits named args inputs = .ok (some found) → AllAdmitted admits inputs args := by
  induction args with
  | nil => exact fun {_ _ _} _ => allAdmitted_nil _
  | cons v args ih =>
      intro named inputs found h
      cases inputs with
      | nil =>
          intro p hp
          cases hp
      | cons i inputs =>
          obtain ⟨b, hb, h⟩ := Outcome.bind_eq_ok.mp h
          cases b with
          | false => cases h
          | true =>
              intro p hp
              rcases List.mem_cons.mp hp with rfl | hp
              · exact Outcome.mapError_eq_ok.mp hb
              · exact ih h p hp

theorem allAdmitted_of_matchOverload? {args : List Value} {o : Overload} {found : NamedArgs}
    (h : matchOverload? admits args o = .ok (some found)) :
    o.inputs.length = args.length ∧ AllAdmitted admits o.inputs args := by
  unfold matchOverload? at h
  split at h
  · rename_i hlen
    exact ⟨hlen, allAdmitted_of_nameAll? h⟩
  · cases h

theorem exists_of_firstMatch? {args : List Value} {os : List Overload} {found : NamedArgs}
    (h : firstMatch? admits args os = .ok (some found)) :
    ∃ o ∈ os, matchOverload? admits args o = .ok (some found) := by
  induction os with
  | nil => cases h
  | cons o os ih =>
      obtain ⟨named, ho, h⟩ := Outcome.bind_eq_ok.mp h
      cases named with
      | none =>
          obtain ⟨o', hmem, hmatch⟩ := ih h
          exact ⟨o', List.mem_cons_of_mem o hmem, hmatch⟩
      | some named =>
          cases h
          exact ⟨o, List.mem_cons_self, ho⟩

/-- Arguments that were matched with a method were matched with one of its overloads. -/
theorem exists_matchOverload?_of_forMethod {overloads : List Overload} {args : List Value}
    {named : NamedArgs} (h : forMethod admits overloads args = .ok named) :
    ∃ o ∈ overloads, matchOverload? admits args o = .ok (some named) := by
  cases overloads with
  | nil => cases h
  | cons o os =>
      obtain ⟨found, hfirst, h⟩ := Outcome.bind_eq_ok.mp h
      cases found with
      | none => cases h
      | some found =>
          cases h
          exact exists_of_firstMatch? hfirst

/-- Arguments that were matched with a method's overloads fit one of them. -/
theorem exists_of_forMethod {overloads : List Overload} {args : List Value}
    {named : NamedArgs} (h : forMethod admits overloads args = .ok named) :
    ∃ o ∈ overloads, o.inputs.length = args.length ∧ AllAdmitted admits o.inputs args := by
  obtain ⟨o, ho, hmatch⟩ := exists_matchOverload?_of_forMethod h
  exact ⟨o, ho, allAdmitted_of_matchOverload? hmatch⟩

/-! ## Arguments that are matched -/

theorem exists_nameAll? {args : List Value} :
    ∀ (named : NamedArgs) {inputs : List Input}, AllAdmitted admits inputs args →
      ∃ found, nameAll? admits named args inputs = .ok (some found) := by
  induction args with
  | nil => exact fun _ _ _ => ⟨_, by rw [nameAll?]; nofun⟩
  | cons v args ih =>
      intro named inputs h
      cases inputs with
      | nil => exact ⟨named, by rw [nameAll?]; nofun⟩
      | cons i inputs =>
          obtain ⟨hv, hrest⟩ := List.forall_mem_cons.mp h
          obtain ⟨found, hfound⟩ := ih (named.put i.name v) hrest
          exact ⟨found, Outcome.bind_eq_ok.mpr ⟨true, Outcome.mapError_eq_ok.mpr hv, hfound⟩⟩

/-- Arguments that fit an overload are matched with it. -/
theorem exists_matchOverload? {o : Overload} {args : List Value}
    (hlen : o.inputs.length = args.length) (h : AllAdmitted admits o.inputs args) :
    ∃ named, matchOverload? admits args o = .ok (some named) := by
  rw [matchOverload?, if_pos hlen]
  exact exists_nameAll? [] h

/-- Arguments that fit the only overload of a method are matched with it. -/
theorem exists_forMethod {o : Overload} {args : List Value}
    (hlen : o.inputs.length = args.length) (h : AllAdmitted admits o.inputs args) :
    ∃ named, forMethod admits [o] args = .ok named := by
  obtain ⟨named, hmatch⟩ := exists_matchOverload? hlen h
  have hfirst : firstMatch? admits args [o] = .ok (some named) :=
    Outcome.bind_eq_ok.mpr ⟨some named, hmatch, rfl⟩
  exact ⟨named, Outcome.bind_eq_ok.mpr ⟨some named, hfirst, rfl⟩⟩

/-- Arguments that fit a constructor are matched with it. -/
theorem exists_forConstructor {contract : String} {inputs : List Input} {args : List Value}
    (hlen : args.length = inputs.length) (h : AllAdmitted admits inputs args) :
    ∃ named, forConstructor admits contract inputs args = .ok named := by
  have hname : ∀ (args : List Value) (position : Nat) (named : NamedArgs) (inputs : List Input),
      AllAdmitted admits inputs args →
        ∃ found, nameConstructor admits contract position named args inputs = .ok found := by
    intro args
    induction args with
    | nil => exact fun _ named _ _ => ⟨named, by rw [nameConstructor]; nofun⟩
    | cons v args ih =>
        intro position named inputs h
        cases inputs with
        | nil => exact ⟨named, by rw [nameConstructor]; nofun⟩
        | cons i inputs =>
            obtain ⟨hv, hrest⟩ := List.forall_mem_cons.mp h
            obtain ⟨found, hfound⟩ := ih (position + 1)
              (named.put (some (constructorName i position)) v) inputs hrest
            exact ⟨found, Outcome.bind_eq_ok.mpr ⟨true, Outcome.mapError_eq_ok.mpr hv, hfound⟩⟩
  rw [forConstructor, if_neg (not_not_intro hlen)]
  exact hname args 0 [] inputs h

/-! ## The arguments of a constructor by name -/

/-- The arguments from a position on by the names of a constructor's inputs, whether or not they
can be encoded. -/
def constructorNamed : (position : Nat) → NamedArgs → List Value → List Input → NamedArgs
  | position, named, v :: vs, i :: is =>
      constructorNamed (position + 1) (named.put (some (constructorName i position)) v) vs is
  | _, named, _, _ => named

theorem nameConstructor_eq_ok {contract : String} {args : List Value} :
    ∀ {position : Nat} {named : NamedArgs} {inputs : List Input} {found : NamedArgs},
      nameConstructor admits contract position named args inputs = .ok found →
        found = constructorNamed position named args inputs ∧ AllAdmitted admits inputs args := by
  induction args with
  | nil =>
      intro position named inputs found h
      rw [nameConstructor] at h
      · cases h
        exact ⟨rfl, allAdmitted_nil inputs⟩
      · nofun
  | cons v args ih =>
      intro position named inputs found h
      cases inputs with
      | nil =>
          cases h
          exact ⟨rfl, nofun⟩
      | cons i inputs =>
          obtain ⟨b, hb, h⟩ := Outcome.bind_eq_ok.mp h
          cases b with
          | false => cases h
          | true =>
              obtain ⟨rfl, hrest⟩ := ih h
              exact ⟨rfl, List.forall_mem_cons.mpr ⟨Outcome.mapError_eq_ok.mp hb, hrest⟩⟩

/-- Arguments that were matched with a constructor fit it, and are given its names. -/
theorem forConstructor_eq_ok {contract : String} {inputs : List Input} {args : List Value}
    {found : NamedArgs} (h : forConstructor admits contract inputs args = .ok found) :
    found = constructorNamed 0 [] args inputs ∧
      args.length = inputs.length ∧ AllAdmitted admits inputs args := by
  unfold forConstructor at h
  split at h
  · cases h
  · rename_i hlen
    obtain ⟨hfound, hall⟩ := nameConstructor_eq_ok h
    exact ⟨hfound, Decidable.not_not.mp hlen, hall⟩

/-- The names under which the arguments of a constructor are shown. -/
def shownNames (inputs : List Input) : List String :=
  inputs.mapIdx fun position i => constructorName i position

private theorem constructorNamed_eq_putAll (args : List Value) :
    ∀ (position : Nat) (named : NamedArgs) (inputs : List Input),
      constructorNamed position named args inputs = named.putAll
        ((inputs.mapIdx fun k i => some (constructorName i (position + k))).zip args) := by
  induction args with
  | nil =>
      intro position named inputs
      rw [constructorNamed, List.zip_nil_right]
      · rfl
      · nofun
  | cons v args ih =>
      intro position named inputs
      cases inputs with
      | nil => rfl
      | cons i inputs =>
          have hshift : ∀ k, position + 1 + k = position + (k + 1) := by omega
          rw [constructorNamed, ih, List.mapIdx_cons]
          simp only [hshift]
          rfl

/-- The arguments of a constructor are put under the names of its inputs one by one. -/
theorem constructorNamed_eq (args : List Value) (inputs : List Input) :
    constructorNamed 0 [] args inputs =
      NamedArgs.putAll [] (((shownNames inputs).map some).zip args) := by
  have hnames : (shownNames inputs).map some =
      inputs.mapIdx fun k i => some (constructorName i (0 + k)) := by
    simp only [shownNames, List.mapIdx_eq_zipIdx_map, List.map_map, Nat.zero_add]
    rfl
  rw [constructorNamed_eq_putAll, hnames]

/-- Giving arguments names adds no value. -/
theorem mem_constructorNamed {args : List Value} {inputs : List Input}
    {a : Option String × Value} (h : a ∈ constructorNamed 0 [] args inputs) : a.2 ∈ args := by
  rw [constructorNamed_eq] at h
  exact (List.of_mem_zip (NamedArgs.mem_of_mem_putAll h)).2

/-! ## The arguments of a method by name -/

/-- The arguments are put under the names of the inputs one by one. -/
theorem eq_putAll_of_nameAll? {args : List Value} :
    ∀ {named : NamedArgs} {inputs : List Input} {found : NamedArgs},
      nameAll? admits named args inputs = .ok (some found) →
        found = named.putAll ((inputs.map Input.name).zip args) := by
  induction args with
  | nil =>
      intro named inputs found h
      rw [nameAll?] at h
      · cases h
        rw [List.zip_nil_right]
        rfl
      · nofun
  | cons v args ih =>
      intro named inputs found h
      cases inputs with
      | nil =>
          cases h
          rfl
      | cons i inputs =>
          obtain ⟨b, -, h⟩ := Outcome.bind_eq_ok.mp h
          cases b with
          | false => cases h
          | true => exact ih h

theorem eq_named_of_matchOverload? {args : List Value} {o : Overload} {found : NamedArgs}
    (h : matchOverload? admits args o = .ok (some found)) : found = o.named args := by
  unfold matchOverload? at h
  split at h
  · exact eq_putAll_of_nameAll? h
  · cases h

/-- The arguments of a method with one overload are named after its inputs, if these have different
names. -/
theorem eq_zip_of_forMethod {o : Overload} {args : List Value} {named : NamedArgs}
    (h : forMethod admits [o] args = .ok named) (hnodup : (o.inputs.map Input.name).Nodup) :
    named = (o.inputs.map Input.name).zip args := by
  obtain ⟨o', ho, hmatch⟩ := exists_matchOverload?_of_forMethod h
  obtain rfl := List.mem_singleton.mp ho
  obtain ⟨hlen, -⟩ := allAdmitted_of_matchOverload? hmatch
  rw [eq_named_of_matchOverload? hmatch, Overload.named_eq_zip hlen hnodup]

/-! ## Arguments that do not match -/

/-- Naming arguments fails only where it is left open whether one can be encoded. -/
theorem nameAll?_failsOnly (args : List Value) :
    ∀ (named : NamedArgs) (inputs : List Input),
      Outcome.FailsOnly (nameAll? admits named args inputs) (·.LeftOpenBy admits) := by
  induction args with
  | nil =>
      intro named inputs
      rw [nameAll?]
      · exact .ok _
      · nofun
  | cons v args ih =>
      intro named inputs
      cases inputs with
      | nil => exact .ok _
      | cons i inputs =>
          refine .bind (.mapError fun _ hopen => ⟨_, _, hopen⟩) fun b => ?_
          cases b with
          | false => exact .ok none
          | true => exact ih _ _

theorem firstMatch?_failsOnly (args : List Value) (os : List Overload) :
    Outcome.FailsOnly (firstMatch? admits args os) (·.LeftOpenBy admits) := by
  induction os with
  | nil => exact .ok none
  | cons o os ih =>
      have hmatch : Outcome.FailsOnly (matchOverload? admits args o) (·.LeftOpenBy admits) := by
        unfold matchOverload?
        split
        · exact nameAll?_failsOnly args _ _
        · exact .ok none
      refine .bind hmatch fun found => ?_
      cases found with
      | none => exact ih
      | some named => exact .ok _

/-- Arguments with which no overload was matched fit none. -/
theorem not_allAdmitted_of_firstMatch? {args : List Value} {os : List Overload}
    (h : firstMatch? admits args os = .ok none) :
    ∀ o ∈ os, o.inputs.length = args.length → ¬AllAdmitted admits o.inputs args := by
  induction os with
  | nil => nofun
  | cons o os ih =>
      obtain ⟨found, ho, h⟩ := Outcome.bind_eq_ok.mp h
      cases found with
      | some named => cases h
      | none =>
          refine List.forall_mem_cons.mpr ⟨fun hlen hall => ?_, ih h⟩
          obtain ⟨named, hnamed⟩ := exists_matchOverload? hlen hall
          rw [hnamed] at ho
          cases ho

/-- Arguments that do not match a method fit none of its overloads. -/
theorem not_allAdmitted_of_forMethod {overloads : List Overload} {args : List Value}
    {f : ArgumentFault} (h : forMethod admits overloads args = .error f) (hf : f.IsMismatch) :
    ∀ o ∈ overloads, o.inputs.length = args.length → ¬AllAdmitted admits o.inputs args := by
  cases overloads with
  | nil => nofun
  | cons first os =>
      cases hfirst : firstMatch? admits args (first :: os) with
      | error e =>
          have hundecided : ¬e.IsMismatch := (firstMatch?_failsOnly args _ e hfirst).not_isMismatch
          rw [forMethod, hfirst] at h
          cases h
          exact absurd hf hundecided
      | ok found =>
          cases found with
          | none => exact not_allAdmitted_of_firstMatch? hfirst
          | some named =>
              rw [forMethod, hfirst] at h
              cases h

end Arguments

end Rollout

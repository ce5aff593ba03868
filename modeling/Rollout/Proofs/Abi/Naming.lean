import Mathlib.Data.List.Induction
import Mathlib.Data.List.Perm.Subperm
import Rollout.Abi.Arguments

/-!
# Arguments under names

Arguments are shown by name, but they come by position. `NamedArgs.putAll` puts
them under their names one after the other, and where a name comes a second
time the later argument takes the place of the earlier. So an argument is still
there in the end exactly if it is the last under its name, and nothing is lost
exactly if all names are different.

## Main results

* `NamedArgs.mem_putAll_iff`: an argument is shown exactly if no later one has
  its name.
* `NamedArgs.values_putAll_iff`: all arguments are shown, in their order, exactly
  if their names are different.
-/

namespace Rollout

namespace NamedArgs

def names (named : NamedArgs) : List (Option String) := named.map Prod.fst

def values (named : NamedArgs) : List Value := named.map Prod.snd

/-- Puts arguments under their names, one after the other. -/
def putAll (named given : NamedArgs) : NamedArgs :=
  given.foldl (fun named a => named.put a.1 a.2) named

variable {named given : NamedArgs} {name : Option String} {v : Value} {a : Option String × Value}

theorem names_append (named given : NamedArgs) :
    names (named ++ given) = named.names ++ given.names := List.map_append

theorem names_zip {ns : List (Option String)} {vs : List Value} (h : ns.length = vs.length) :
    names (ns.zip vs) = ns := List.map_fst_zip (Nat.le_of_eq h)

theorem values_zip {ns : List (Option String)} {vs : List Value} (h : ns.length = vs.length) :
    values (ns.zip vs) = vs := List.map_snd_zip (Nat.le_of_eq h.symm)

/-! ## One argument -/

/-- A new name comes last. -/
theorem put_of_not_mem (h : name ∉ named.names) : named.put name v = named ++ [(name, v)] := by
  induction named with
  | nil => rfl
  | cons b named ih =>
      rw [names, List.map_cons, List.mem_cons, not_or] at h
      rw [put, if_neg (Ne.symm h.1), ih h.2, List.cons_append]

/-- A name that is there keeps its place. -/
theorem names_put_of_mem (h : name ∈ named.names) : (named.put name v).names = named.names := by
  induction named with
  | nil => cases h
  | cons b named ih =>
      rw [put]
      by_cases hname : b.1 = name
      · rw [if_pos hname]
        rfl
      · have hrest : name ∈ names named := by
          rw [names, List.map_cons, List.mem_cons] at h
          exact h.resolve_left (Ne.symm hname)
        rw [if_neg hname]
        show b.1 :: names (put named name v) = b.1 :: names named
        rw [ih hrest]

theorem nodup_names_put (h : named.names.Nodup) : (named.put name v).names.Nodup := by
  by_cases hname : name ∈ named.names
  · rw [names_put_of_mem hname]
    exact h
  · have hne : ∀ n ∈ named.names, n ≠ name := fun n hn heq => hname (heq ▸ hn)
    rw [put_of_not_mem hname, names_append, List.nodup_append]
    exact ⟨h, List.pairwise_singleton _ _, by simpa [names] using hne⟩

/-- Putting an argument takes away what was under its name. -/
theorem mem_put_iff (h : named.names.Nodup) :
    a ∈ named.put name v ↔ a = (name, v) ∨ a ∈ named ∧ a.1 ≠ name := by
  induction named with
  | nil => simp [put]
  | cons b named ih =>
      have hb : b.1 ∉ names named := (List.nodup_cons.mp h).1
      rw [put]
      by_cases hname : b.1 = name
      · -- No other argument has this name.
        have hother : ∀ c ∈ named, c.1 ≠ name := by
          rintro c hc rfl
          exact hb (hname ▸ List.mem_map_of_mem hc)
        rw [if_pos hname, hname, List.mem_cons, List.mem_cons]
        constructor
        · rintro (rfl | hmem)
          · exact .inl rfl
          · exact .inr ⟨.inr hmem, hother a hmem⟩
        · rintro (rfl | ⟨rfl | hmem, hne⟩)
          · exact .inl rfl
          · exact absurd hname hne
          · exact .inr hmem
      · rw [if_neg hname, List.mem_cons, List.mem_cons, ih (List.nodup_cons.mp h).2]
        constructor
        · rintro (rfl | rfl | ⟨hmem, hne⟩)
          · exact .inr ⟨.inl rfl, hname⟩
          · exact .inl rfl
          · exact .inr ⟨.inr hmem, hne⟩
        · rintro (rfl | ⟨rfl | hmem, hne⟩)
          · exact .inr (.inl rfl)
          · exact .inl rfl
          · exact .inr (.inr ⟨hmem, hne⟩)

/-! ## One after the other -/

theorem putAll_concat (named given : NamedArgs) (a : Option String × Value) :
    named.putAll (given ++ [a]) = (named.putAll given).put a.1 a.2 :=
  List.foldl_append

theorem nodup_names_putAll (given : NamedArgs) : (putAll [] given).names.Nodup := by
  induction given using List.reverseRecOn with
  | nil => exact List.nodup_nil
  | append_singleton given a ih =>
      rw [putAll_concat]
      exact nodup_names_put ih

/-- An argument is shown exactly if no later one has its name. -/
theorem mem_putAll_iff (given : NamedArgs) (a : Option String × Value) :
    a ∈ putAll [] given ↔
      ∃ i : Nat, given[i]? = some a ∧ ∀ j > i, ∀ b, given[j]? = some b → b.1 ≠ a.1 := by
  induction given using List.reverseRecOn with
  | nil => simp [putAll]
  | append_singleton given c ih =>
      have hlast : (given ++ [c])[given.length]? = some c := List.getElem?_concat_length
      have hrest : ∀ i < given.length, (given ++ [c])[i]? = given[i]? :=
        fun i hi => List.getElem?_append_left hi
      rw [putAll_concat, mem_put_iff (nodup_names_putAll given), ih]
      constructor
      · rintro (rfl | ⟨⟨i, hi, hno⟩, hne⟩)
        · exact ⟨given.length, hlast, fun j hj b hb => by grind⟩
        · exact ⟨i, by grind, fun j hj b hb => by grind⟩
      · rintro ⟨i, hi, hno⟩
        by_cases hlt : i < given.length
        · refine .inr ⟨⟨i, by grind, fun j hj b hb => hno j hj b (by grind)⟩, ?_⟩
          exact (hno given.length hlt c hlast).symm
        · exact .inl (by grind)

theorem mem_of_mem_putAll (h : a ∈ putAll [] given) : a ∈ given := by
  obtain ⟨i, hi, -⟩ := (mem_putAll_iff given a).mp h
  exact List.mem_of_getElem? hi

/-- Under different names the arguments stay as they were given. -/
theorem putAll_eq_self (h : given.names.Nodup) : putAll [] given = given := by
  induction given using List.reverseRecOn with
  | nil => rfl
  | append_singleton given a ih =>
      rw [names_append, List.nodup_append] at h
      have hnew : a.1 ∉ names given := fun hmem => h.2.2 a.1 hmem a.1 List.mem_cons_self rfl
      rw [putAll_concat, ih h.1, put_of_not_mem hnew]

/-- All arguments are shown, in their order, exactly if their names are different. -/
theorem values_putAll_iff (given : NamedArgs) :
    (putAll [] given).values = given.values ↔ given.names.Nodup := by
  constructor
  · intro h
    -- The names that are left are different, and they are as many as were given.
    have hlength : given.names.length ≤ (putAll [] given).names.length := by
      have hvalues : (putAll [] given).values.length = given.values.length := by rw [h]
      simp only [values, names, List.length_map] at hvalues ⊢
      exact Nat.le_of_eq hvalues.symm
    have hsubset : (putAll [] given).names ⊆ given.names :=
      List.map_subset _ fun a ha => mem_of_mem_putAll ha
    have hperm : (putAll [] given).names.Perm given.names :=
      ((nodup_names_putAll given).subperm hsubset).perm_of_length_le hlength
    exact hperm.nodup_iff.mp (nodup_names_putAll given)
  · intro h
    rw [putAll_eq_self h]

end NamedArgs

end Rollout

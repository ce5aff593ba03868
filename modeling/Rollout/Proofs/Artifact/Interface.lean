import Rollout.Artifact.Interface
import Rollout.Proofs.Outcome

/-!
# Interfaces that cannot be read

Before the entries of an interface are weighed, every value in the place of an
input is asked for the older name of the internal type. What has no fields
cannot be asked, and neither can a text or a list in which that name occurs;
then the interface is refused with whatever went wrong, and not as a malformed
artifact. `Unaskable` says which values these are, one case for each way to be
led to one, and `Unreadable` says that an interface has one of them.

The functions that ask follow the values, and so does the proof: each of them
has a specification (`Probed`), by recursion together with the others.

## Main results

* `Interface.probe_spec`: a value is refused exactly if it cannot be asked.
* `Interface.entries?_spec`: an interface is refused exactly if it cannot be read.
-/

namespace Rollout

theorem Value.find?_cons {α : Type} (k : Value) (a : α) (entries : List (Value × α))
    (key : String) :
    find? ((k, a) :: entries) key = if k.isText key then some a else find? entries key := by
  unfold find?
  rw [List.find?_cons]
  cases k.isText key <;> rfl

namespace Interface

/-! ## Values that cannot be asked -/

/-- A value in the place of an input that cannot be asked for the older name of the internal type,
or that leads to one that cannot. -/
inductive Unaskable : Value → Prop
  /-- It is neither a text nor a list nor a mapping. -/
  | plain {v : Value} (text : ∀ s, v ≠ .text s) (list : ∀ items, v ≠ .list items)
      (mapping : ∀ entries, v ≠ .mapping entries) : Unaskable v
  /-- It is a text in which the name occurs. -/
  | text {s : String} (occurs : (s.splitOn "internal_type").length ≠ 1) : Unaskable (.text s)
  /-- It is a list in which the name occurs. -/
  | list {items : List Value} (occurs : .text "internal_type" ∈ items) : Unaskable (.list items)
  /-- Its type is not a text and cannot be asked. -/
  | type {entries : List (Value × Value)} {v : Value}
      (found : Value.find? entries "type" = some v) (untyped : isSomeText v = false)
      (unaskable : Unaskable v) : Unaskable (.mapping entries)
  /-- One of its components cannot be asked. -/
  | component {entries : List (Value × Value)} {items : List Value} {v : Value}
      (found : Value.find? entries "components" = some (.list items)) (mem : v ∈ items)
      (unaskable : Unaskable v) : Unaskable (.mapping entries)

/-- What comes of asking: a refusal where there is something to refuse, and nothing otherwise. -/
inductive Probed (r : Except Failure Unit) (p : Prop) : Prop
  | passes (result : r = .ok ()) (holds : ¬p)
  | refuses {f : Failure} (result : r = .error f) (cause : f = .notAMapping ∨ f = .wrongKind)
      (holds : p)

namespace Probed

variable {r r' : Except Failure Unit} {p q : Prop}

theorem ok (h : ¬p) : Probed (.ok ()) p := .passes rfl h

theorem congr (h : Probed r p) (hpq : p ↔ q) : Probed r q := propext hpq ▸ h

theorem bind (h : Probed r p) (h' : Probed r' q) : Probed (r >>= fun _ => r') (p ∨ q) := by
  cases h with
  | passes hr hp =>
      rw [hr]
      exact h'.congr (or_iff_right hp).symm
  | refuses hr hf hp =>
      rw [hr]
      exact .refuses rfl hf (.inl hp)

theorem forM {α : Type} {f : α → Except Failure PUnit} {p : α → Prop}
    (h : ∀ x, Probed (f x) (p x)) (xs : List α) : Probed (xs.forM f) (∃ x ∈ xs, p x) := by
  induction xs with
  | nil => exact .ok (by simp)
  | cons x xs ih => exact ((h x).bind ih).congr (by simp)

theorem failsOnly {E : Failure → Prop} (h : Probed r p) (hmapping : E .notAMapping)
    (hkind : E .wrongKind) : Outcome.FailsOnly r E := by
  cases h with
  | passes hr _ =>
      rw [hr]
      exact .ok ()
  | refuses hr hf _ =>
      rw [hr]
      rcases hf with rfl | rfl
      · exact .error hmapping
      · exact .error hkind

end Probed

-- The cases are those of the functions, over a value, its entries and its items. A value that has
-- nothing inside it is decided at once.
mutual

theorem probe_spec : ∀ v : Value, Probed (probe v) (Unaskable v)
  | .mapping entries => by
      unfold probe
      refine ((probeType_spec entries).bind (probeComponents_spec entries)).congr ⟨?_, ?_⟩
      · rintro (⟨v, hfound, huntyped, hv⟩ | ⟨items, v, hfound, hmem, hv⟩)
        · exact .type hfound huntyped hv
        · exact .component hfound hmem hv
      · intro h
        cases h with
        | plain _ _ mapping => exact absurd rfl (mapping entries)
        | type found untyped unaskable => exact .inl ⟨_, found, untyped, unaskable⟩
        | component found mem unaskable => exact .inr ⟨_, _, found, mem, unaskable⟩
  | .text s => by
      unfold probe
      split
      · rename_i hone
        refine .ok fun h => ?_
        cases h with
        | plain text _ _ => exact text s rfl
        | text occurs => exact occurs hone
      · rename_i hmore
        exact .refuses rfl (.inl rfl) (.text hmore)
  | .list items => by
      unfold probe
      split
      · rename_i hany
        obtain ⟨v, hmem, hv⟩ := List.any_eq_true.mp hany
        exact .refuses rfl (.inl rfl) (.list ((Value.isText_iff _ _).mp hv ▸ hmem))
      · rename_i hnone
        refine .ok fun h => hnone ?_
        cases h with
        | plain _ list _ => exact absurd rfl (list items)
        | list occurs => exact List.any_eq_true.mpr ⟨_, occurs, beq_self_eq_true _⟩
  | .null | .bool _ | .int _ | .float _ | .bytes _ | .date _ | .moment _ | .tuple _ | .set _
  | .recurrence _ => by
      unfold probe
      exact .refuses rfl (.inr rfl) (.plain nofun nofun nofun)

theorem probeType_spec : ∀ entries : List (Value × Value), Probed (probeType entries)
    (∃ v, Value.find? entries "type" = some v ∧ isSomeText v = false ∧ Unaskable v)
  | [] => by
      unfold probeType
      exact .ok nofun
  | (key, v) :: rest => by
      unfold probeType
      rw [Value.find?_cons]
      split
      · simp only [Option.some.injEq, exists_eq_left']
        cases isSomeText v with
        | true => exact .ok (by simp)
        | false => exact (probe_spec v).congr (by simp)
      · exact probeType_spec rest

theorem probeComponents_spec : ∀ entries : List (Value × Value), Probed (probeComponents entries)
    (∃ items v, Value.find? entries "components" = some (.list items) ∧ v ∈ items ∧ Unaskable v)
  | [] => by
      unfold probeComponents
      exact .ok nofun
  | (key, v) :: rest => by
      unfold probeComponents
      rw [Value.find?_cons]
      split
      · simp only [Option.some.injEq]
        exact probeItems_spec v
      · exact probeComponents_spec rest

theorem probeItems_spec : ∀ v : Value, Probed (probeItems v)
    (∃ items u, v = .list items ∧ u ∈ items ∧ Unaskable u)
  | .list items => by
      unfold probeItems
      exact (probeAll_spec items).congr (by simp)
  | .null | .bool _ | .int _ | .float _ | .text _ | .bytes _ | .date _ | .moment _ | .tuple _
  | .set _ | .mapping _ | .recurrence _ => by
      unfold probeItems
      exact .ok nofun

theorem probeAll_spec : ∀ vs : List Value, Probed (probeAll vs) (∃ v ∈ vs, Unaskable v)
  | [] => by
      unfold probeAll
      exact .ok (by simp)
  | v :: vs => by
      unfold probeAll
      exact ((probe_spec v).bind (probeAll_spec vs)).congr (by simp)

end

/-! ## Interfaces -/

/-- The entry of an interface lists, in the place of an input, a value that cannot be asked. -/
def Unreadable (entry : Value) : Prop :=
  ∃ entries key items v, entry = .mapping entries ∧ key ∈ ["inputs", "outputs", "members"] ∧
    Value.find? entries key = some (.list items) ∧ v ∈ items ∧ Unaskable v

theorem probeEntry_spec (entry : Value) : Probed (probeEntry entry) (Unreadable entry) := by
  unfold probeEntry
  split
  · rename_i entries
    refine (Probed.forM (p := fun key => ∃ items v,
      Value.find? entries key = some (.list items) ∧ v ∈ items ∧ Unaskable v)
      (fun key => ?_) _).congr ⟨?_, ?_⟩
    · cases Value.find? entries key with
      | none => exact .ok (by simp)
      | some v =>
          simp only [Option.some.injEq]
          exact probeItems_spec v
    · rintro ⟨key, hkey, items, v, h⟩
      exact ⟨entries, key, items, v, rfl, hkey, h⟩
    · rintro ⟨_, key, items, v, ⟨⟩, hkey, h⟩
      exact ⟨key, hkey, items, v, h⟩
  · rename_i hkind
    refine .ok ?_
    rintro ⟨entries, _, _, _, rfl, _⟩
    exact hkind entries rfl

/-- An interface is refused exactly if one of its entries cannot be read. -/
theorem probeEntries_spec (items : List Value) :
    Probed (items.forM probeEntry) (∃ entry ∈ items, Unreadable entry) :=
  .forM probeEntry_spec items

/-- Where no entry is refused, there is an interface or an entry of no kind. -/
theorem entries?_eq (items : List Value) :
    entries? items = items.forM probeEntry >>= fun _ => .ok (items.mapM entry?) := rfl

theorem entries?_failsOnly {E : Failure → Prop} (hmapping : E .notAMapping) (hkind : E .wrongKind)
    (items : List Value) : Outcome.FailsOnly (entries? items) E :=
  .bind ((probeEntries_spec items).failsOnly hmapping hkind) fun _ => .ok _

end Interface

end Rollout

import Mathlib.Data.List.Forall2
import Rollout.Proofs.Settings.Constants

/-!
# Parameters before and after their constants are canonical

A parameter file may say anything anywhere, and its collections may be shared
and lie inside themselves. What loading does to it is small all the same: where
a constant is an address, the address is spelled in another way. `Respells` says
so of two documents, collection by collection. It is an equivalence, so that a
run over the constants is one step after the other, and documents that are
related look the same wherever no constant is looked up: what entries there are,
what is empty, and what can be shown.

From this comes which documents have their constants refused, and how. A
constant that is no address is refused with its value, which cannot be shown if
an integer in it is too long; `HidesConstant` says that the first constant to be
refused is such a one, of the document as it was before.

## Main results

* `Yaml.Document.Respells.entry?_eq`, `isEmpty_eq`, `isWritable_value`: what
  documents of other spelling have in common.
* `Params.respells_of_canonical`: loading only changes spellings.
* `Params.canonical_failsOnly_iff`: every refusal is told, unless the document hides
  the constant.
-/

namespace Rollout

/-! ## Values -/

namespace Value

theorem areWritable_eq_all (vs : List Value) : areWritable vs = vs.all isWritable := by
  induction vs with
  | nil => rfl
  | cons v vs ih => rw [areWritable, ih, List.all_cons]

theorem areWritableEntries_eq_all (es : List (Value × Value)) :
    areWritableEntries es = es.all fun e => e.1.isWritable && e.2.isWritable := by
  induction es with
  | nil => rfl
  | cons e es ih => rw [areWritableEntries, ih, List.all_cons]

end Value

variable [Address.CaseRule]

/-- A value that is the placeholder or an address in any spelling that is taken. -/
def Value.IsAddressOrPlaceholder (v : Value) : Prop :=
  isUnresolved v = true ∨ v.IsTaken Address.CaseRule.takes

namespace Value

theorem IsKnownOrPlaceholder.isAddressOrPlaceholder {v : Value} (h : v.IsKnownOrPlaceholder) :
    v.IsAddressOrPlaceholder := h.imp_right IsCanonical.isTaken

theorem IsAddressOrPlaceholder.exists_text {v : Value} (h : v.IsAddressOrPlaceholder) :
    ∃ s, v = .text s := by
  rcases h with hunresolved | ⟨s, rfl, -⟩
  · exact ⟨_, (isText_iff _ _).mp hunresolved⟩
  · exact ⟨s, rfl⟩

end Value

namespace Yaml

namespace Item

/-- An item that is the placeholder or an address. -/
def IsAddressOrPlaceholder (item : Item) : Prop := ∃ v, item = .leaf v ∧ v.IsAddressOrPlaceholder

end Item

namespace Document

/-! ## Documents of other spelling -/

/-- Entries with the same key and the same item, except that the item of a constant may be an
address in one and in the other. -/
def RespellsEntry (e e' : Value × Item) : Prop :=
  e'.1 = e.1 ∧ (e'.2 = e.2 ∨ (∃ dep : Dependency, e.1 = .text dep.constant) ∧
    e.2.IsAddressOrPlaceholder ∧ e'.2.IsAddressOrPlaceholder)

/-- Collections that are the same, but for the addresses among the entries of a mapping. -/
def RespellsCollection (c c' : Option Collection) : Prop :=
  c' = c ∨ ∃ es es', c = some (.mapping es) ∧ c' = some (.mapping es') ∧
    List.Forall₂ RespellsEntry es es'

/-- Documents that are the same, but for the spelling of addresses among constants. -/
structure Respells (d d' : Document) : Prop where
  root : d'.root = d.root
  size : d'.collections.size = d.collections.size
  collection : ∀ id, RespellsCollection (d.collection? id) (d'.collection? id)

theorem RespellsEntry.refl (e : Value × Item) : RespellsEntry e e := ⟨rfl, .inl rfl⟩

theorem RespellsEntry.symm {e e' : Value × Item} (h : RespellsEntry e e') :
    RespellsEntry e' e := by
  obtain ⟨hkey, hitem | ⟨hdep, hold, hnew⟩⟩ := h
  · exact ⟨hkey.symm, .inl hitem.symm⟩
  · exact ⟨hkey.symm, .inr ⟨hkey ▸ hdep, hnew, hold⟩⟩

theorem RespellsEntry.trans {e e' e'' : Value × Item} (h : RespellsEntry e e')
    (h' : RespellsEntry e' e'') : RespellsEntry e e'' := by
  obtain ⟨hkey, hitem⟩ := h
  obtain ⟨hkey', hitem'⟩ := h'
  refine ⟨hkey'.trans hkey, ?_⟩
  rcases hitem with hsame | ⟨hdep, hold, hnew⟩
  · rw [← hsame, ← hkey]
    exact hitem'
  · rcases hitem' with hsame' | ⟨-, -, hnew'⟩
    · exact .inr ⟨hdep, hold, hsame' ▸ hnew⟩
    · exact .inr ⟨hdep, hold, hnew'⟩

/-- A mapping in which an address is put in the place of another one. -/
theorem respellsEntries_put {es : List (Value × Item)} {dep : Dependency} {item item' : Item}
    (hfound : Value.find? es dep.constant = some item) (hitem : item.IsAddressOrPlaceholder)
    (hitem' : item'.IsAddressOrPlaceholder) :
    List.Forall₂ RespellsEntry es (Value.put es (.text dep.constant) item') := by
  induction es with
  | nil => cases hfound
  | cons e es ih =>
      obtain ⟨k, i⟩ := e
      rw [Value.put, Value.sameKey_text]
      unfold Value.find? at hfound ih
      rw [List.find?_cons] at hfound
      cases hk : k.isText dep.constant with
      | true =>
          rw [hk] at hfound
          cases hfound
          exact .cons ⟨rfl, .inr ⟨⟨dep, (Value.isText_iff _ _).mp hk⟩, hitem, hitem'⟩⟩
            (List.forall₂_same.mpr fun e _ => .refl e)
      | false =>
          rw [hk] at hfound
          exact .cons (.refl _) (ih hfound)

theorem respellsEntries_trans {es es' es'' : List (Value × Item)}
    (h : List.Forall₂ RespellsEntry es es') (h' : List.Forall₂ RespellsEntry es' es'') :
    List.Forall₂ RespellsEntry es es'' := by
  induction h generalizing es'' with
  | nil => exact h'
  | cons he _ ih =>
      cases h' with
      | cons he' hrest' => exact .cons (he.trans he') (ih hrest')

/-- An entry whose key is no constant is the same in both. -/
theorem find?_eq_of_respells {es es' : List (Value × Item)} {key : String}
    (h : List.Forall₂ RespellsEntry es es')
    (hkey : key ∉ Dependency.constants.map Dependency.constant) :
    Value.find? es' key = Value.find? es key := by
  unfold Value.find?
  induction h with
  | nil => rfl
  | @cons e e' es es' he _ ih =>
      obtain ⟨hsame, hitem⟩ := he
      rw [List.find?_cons, List.find?_cons, hsame]
      cases hk : e.1.isText key with
      | false => exact ih
      | true =>
          rcases hitem with hitem | ⟨⟨dep, hdep⟩, -, -⟩
          · exact congrArg some hitem
          · rw [hdep, Value.isText_text, beq_iff_eq] at hk
            refine absurd (List.mem_map.mpr ⟨dep, ?_, hk⟩) hkey
            cases dep <;> decide

/-- Under any key there is the same item or an address in both. -/
theorem find?_of_respells {es es' : List (Value × Item)} {key : String} {item : Item}
    (h : List.Forall₂ RespellsEntry es es') (hfound : Value.find? es key = some item) :
    ∃ item', Value.find? es' key = some item' ∧
      (item' = item ∨ item.IsAddressOrPlaceholder ∧ item'.IsAddressOrPlaceholder) := by
  unfold Value.find? at hfound ⊢
  induction h with
  | nil => cases hfound
  | @cons e e' es es' he _ ih =>
      obtain ⟨hsame, hitem⟩ := he
      rw [List.find?_cons] at hfound ⊢
      rw [hsame]
      cases hk : e.1.isText key with
      | false =>
          rw [hk] at hfound
          exact ih hfound
      | true =>
          rw [hk] at hfound
          cases hfound
          exact ⟨_, rfl, hitem.imp_right And.right⟩

theorem RespellsCollection.symm {c c' : Option Collection} (h : RespellsCollection c c') :
    RespellsCollection c' c := by
  rcases h with hsame | ⟨es, es', hold, hnew, hes⟩
  · exact .inl hsame.symm
  · exact .inr ⟨es', es, hnew, hold, .flip (hes.imp fun _ _ => RespellsEntry.symm)⟩

theorem RespellsCollection.trans {c c' c'' : Option Collection} (h : RespellsCollection c c')
    (h' : RespellsCollection c' c'') : RespellsCollection c c'' := by
  rcases h with rfl | ⟨es, es', hold, hnew, hes⟩
  · exact h'
  · rcases h' with rfl | ⟨es₁, es'', hold', hnew', hes'⟩
    · exact .inr ⟨es, es', hold, hnew, hes⟩
    · rw [hnew] at hold'
      cases hold'
      exact .inr ⟨es, es'', hold, hnew', respellsEntries_trans hes hes'⟩

namespace Respells

variable {d d' d'' : Document}

theorem refl (d : Document) : Respells d d := ⟨rfl, rfl, fun _ => .inl rfl⟩

theorem symm (h : Respells d d') : Respells d' d :=
  ⟨h.root.symm, h.size.symm, fun id => (h.collection id).symm⟩

theorem trans (h : Respells d d') (h' : Respells d' d'') : Respells d d'' :=
  ⟨h'.root.trans h.root, h'.size.trans h.size,
    fun id => (h.collection id).trans (h'.collection id)⟩

/-- One address is put in the place of another, where a constant is. -/
theorem put {id : Nat} {es : List (Value × Item)} {dep : Dependency} {item item' : Item}
    (hentries : d.entries? (.shared id) = some es)
    (hfound : Value.find? es dep.constant = some item) (hitem : item.IsAddressOrPlaceholder)
    (hitem' : item'.IsAddressOrPlaceholder) :
    Respells d (d.put id (.mapping (Value.put es (.text dep.constant) item'))) := by
  refine ⟨rfl, Array.size_setIfInBounds, fun other => ?_⟩
  by_cases hsame : other = id
  · subst hsame
    rw [collection?_eq_of_entries? hentries, collection?_put_self hentries]
    exact .inr ⟨es, _, rfl, rfl, respellsEntries_put hfound hitem hitem'⟩
  · exact .inl (collection?_put_of_ne hsame)

/-! ## What is the same in both -/

/-- The entries of an item are related one by one. -/
theorem entries? (h : Respells d d') (item : Item) :
    d'.entries? item = d.entries? item ∨ ∃ es es', d.entries? item = some es ∧
      d'.entries? item = some es' ∧ List.Forall₂ RespellsEntry es es' := by
  cases item with
  | leaf v => exact .inl (entries?_leaf _ _ v)
  | shared id =>
      unfold Document.entries?
      dsimp only
      rcases h.collection id with hsame | ⟨es, es', hold, hnew, hes⟩
      · rw [hsame]
        exact .inl rfl
      · rw [hold, hnew]
        exact .inr ⟨es, es', rfl, rfl, hes⟩

theorem entry?_eq (h : Respells d d') (item : Item) {key : String}
    (hkey : key ∉ Dependency.constants.map Dependency.constant) :
    d'.entry? item key = d.entry? item key := by
  unfold entry?
  rcases h.entries? item with hsame | ⟨es, es', hold, hnew, hes⟩
  · rw [hsame]
  · rw [hold, hnew]
    exact find?_eq_of_respells hes hkey

theorem exists_entry? (h : Respells d d') {item found : Item} {key : String}
    (hfound : d.entry? item key = some found) :
    ∃ found', d'.entry? item key = some found' ∧
      (found' = found ∨ found.IsAddressOrPlaceholder ∧ found'.IsAddressOrPlaceholder) := by
  unfold entry? at hfound ⊢
  rcases h.entries? item with hsame | ⟨es, es', hold, hnew, hes⟩
  · rw [hsame]
    exact ⟨found, hfound, .inl rfl⟩
  · rw [hold] at hfound
    rw [hnew]
    exact find?_of_respells hes hfound

theorem isMapping_eq (h : Respells d d') (item : Item) :
    Params.isMapping d' item = Params.isMapping d item := by
  unfold Params.isMapping
  rcases h.entries? item with hsame | ⟨es, es', hold, hnew, -⟩
  · rw [hsame]
  · rw [hold, hnew]
    rfl

theorem isEmpty_eq (h : Respells d d') (item : Item) : d'.isEmpty item = d.isEmpty item := by
  cases item with
  | leaf v => rfl
  | shared id =>
      unfold isEmpty
      dsimp only
      rcases h.collection id with hsame | ⟨es, es', hold, hnew, hes⟩
      · rw [hsame]
      · rw [hold, hnew]
        cases hes <;> rfl

/-- Addresses can be shown, in any spelling. -/
theorem areWritableEntries_of_respells {f f' : Item → Value} (hleaf : ∀ v, f (.leaf v) = v)
    (hsame : ∀ item, (f' item).isWritable = (f item).isWritable) {es es' : List (Value × Item)}
    (h : List.Forall₂ RespellsEntry es es') :
    Value.areWritableEntries (es'.map fun e => (e.1, f' e.2)) =
      Value.areWritableEntries (es.map fun e => (e.1, f e.2)) := by
  have haddress : ∀ {item : Item}, item.IsAddressOrPlaceholder → (f item).isWritable = true := by
    rintro item ⟨v, rfl, hv⟩
    obtain ⟨s, rfl⟩ := hv.exists_text
    rw [hleaf]
    rfl
  induction h with
  | nil => rfl
  | @cons e e' es es' he _ ih =>
      obtain ⟨hkey, hitem⟩ := he
      have hvalue : (f' e'.2).isWritable = (f e.2).isWritable := by
        rw [hsame]
        rcases hitem with hitem | ⟨-, hold, hnew⟩
        · rw [hitem]
        · rw [haddress hold, haddress hnew]
      rw [List.map_cons, List.map_cons, Value.areWritableEntries, Value.areWritableEntries, hkey,
        hvalue, ih]

/-- Whether an item can be shown does not depend on the spelling of addresses. -/
theorem isWritable_valueWithin (h : Respells d d') (fuel : Nat) (path : List Nat) (item : Item) :
    (d'.valueWithin fuel path item).isWritable = (d.valueWithin fuel path item).isWritable := by
  induction fuel generalizing path item with
  | zero => cases item <;> rfl
  | succ fuel ih =>
      cases item with
      | leaf v => rfl
      | shared id =>
          rw [valueWithin, valueWithin]
          rcases h.collection id with hsame | ⟨es, es', hold, hnew, hes⟩
          · rw [hsame]
            cases d.collection? id with
            | none => rfl
            | some c =>
                dsimp only
                split
                · rfl
                · cases c with
                  | list items =>
                      simp only [Value.isWritable, Value.areWritable_eq_all, List.all_map,
                        Function.comp_def, ih]
                  | pairs entries =>
                      simp only [Value.isWritable, Value.areWritable_eq_all, List.all_map,
                        Function.comp_def, List.all_cons, ih]
                  | set members => rfl
                  | mapping entries =>
                      simp only [Value.isWritable, Value.areWritableEntries_eq_all, List.all_map,
                        Function.comp_def, ih]
          · rw [hold, hnew]
            dsimp only
            split
            · rfl
            -- Only here may items differ, and those that do are addresses.
            · refine areWritableEntries_of_respells (fun v => ?_) (fun item => ih _ item) hes
              rw [valueWithin]

theorem isWritable_value (h : Respells d d') (item : Item) :
    (d'.value item).isWritable = (d.value item).isWritable := by
  unfold value
  rw [h.size]
  exact h.isWritable_valueWithin _ _ _

end Respells

end Document

end Yaml

/-! ## The run over the constants -/

namespace Params

open Yaml (Document Item)
open Outcome (FailsOnly)

/-- A fault that is told; one that is a number too long to be shown is not. -/
def IsTold (f : ConfigFault) : Prop := (Failure.configuration f).isForeseen = true

/-- A value that is not taken is refused, which is told if the value can be shown. -/
theorem checksum_of_not_isTaken {v : Value} (name : String)
    (h : ¬v.IsTaken Address.CaseRule.takes) :
    ∃ f, checksum v name = .error f ∧ (IsTold f ↔ v.isWritable = true) := by
  refine ⟨_, checksumWith_eq_error h name, ?_⟩
  cases v.isWritable with
  | true => exact iff_of_true rfl rfl
  | false => exact iff_of_false Bool.false_ne_true Bool.false_ne_true

/-- A constant that is no address is refused in the same way. -/
theorem canonicalConstant_eq_error {v : Value} (name : String)
    (h : ¬v.IsAddressOrPlaceholder) :
    ∃ f, canonicalConstant v name = .error f ∧ (IsTold f ↔ v.isWritable = true) := by
  obtain ⟨hresolved, hrefused⟩ := not_or.mp h
  unfold canonicalConstant
  rw [if_neg hresolved]
  split
  · exact ⟨_, rfl, iff_of_true rfl rfl⟩
  · obtain ⟨f, hf, htold⟩ := checksum_of_not_isTaken name hrefused
    rw [hf]
    exact ⟨f, rfl, htold⟩

/-- An address is taken for a constant. -/
theorem exists_canonicalConstant {v : Value} (name : String) (h : v.IsAddressOrPlaceholder) :
    ∃ v', canonicalConstant v name = .ok v' := by
  unfold canonicalConstant
  rcases h with hunresolved | htaken
  · rw [if_pos hunresolved]
    exact ⟨v, rfl⟩
  · obtain ⟨address, hread⟩ := exists_checksumWith Keccak.digest htaken name
    have hchecksum : checksum v name = .ok address := hread
    obtain ⟨s, rfl, hs⟩ := htaken.isAddress
    rw [isUnresolved_of_isAddress hs]
    dsimp only
    rw [if_neg Bool.false_ne_true, hchecksum]
    exact ⟨_, rfl⟩

omit [Address.CaseRule] in
/-- Only a text has a text for its value: a collection has another one. -/
theorem value_eq_text_iff {d : Document} {item : Item} {s : String} :
    d.value item = .text s ↔ item = .leaf (.text s) := by
  cases item with
  | leaf v => rw [Document.value, Document.valueWithin, Item.leaf.injEq]
  | shared id =>
      refine iff_of_false (fun h => ?_) nofun
      rw [Document.value, Document.valueWithin] at h
      split at h
      · cases h
      · rename_i c _
        split at h
        · cases c <;> cases h
        · cases c <;> cases h

theorem isAddressOrPlaceholder_value_iff {d : Document} {item : Item} :
    (d.value item).IsAddressOrPlaceholder ↔ item.IsAddressOrPlaceholder := by
  constructor
  · intro h
    obtain ⟨s, hs⟩ := h.exists_text
    exact ⟨_, value_eq_text_iff.mp hs, hs ▸ h⟩
  · rintro ⟨v, rfl, hv⟩
    rwa [Document.value, Document.valueWithin]

omit [Address.CaseRule] in
/-- What has an entry is a mapping. -/
theorem isMapping_of_entry? {d : Document} {item found : Item} {key : String}
    (h : d.entry? item key = some found) : isMapping d item = true := by
  obtain ⟨entries, hentries, -⟩ := Option.bind_eq_some_iff.mp h
  rw [isMapping, hentries]
  rfl

/-- The first of some constants to be refused has a value that cannot be shown. -/
inductive HidesConstant (d : Document) (constants : Item) : List Dependency → Prop
  | here {dep : Dependency} {deps : List Dependency} {item : Item}
      (found : d.entry? constants dep.constant = some item)
      (unwritable : (d.value item).isWritable = false) : HidesConstant d constants (dep :: deps)
  | later {dep : Dependency} {deps : List Dependency} {item : Item}
      (found : d.entry? constants dep.constant = some item)
      (taken : item.IsAddressOrPlaceholder) (rest : HidesConstant d constants deps) :
      HidesConstant d constants (dep :: deps)

theorem isWritable_of_isAddressOrPlaceholder {d : Document} {item : Item}
    (h : item.IsAddressOrPlaceholder) : (d.value item).isWritable = true := by
  obtain ⟨s, hs⟩ := (isAddressOrPlaceholder_value_iff (d := d).mpr h).exists_text
  rw [hs]
  rfl

/-- Documents of other spelling hide the same constants. -/
theorem HidesConstant.respelt {d d' : Document} {constants : Item} {deps : List Dependency}
    (h : HidesConstant d constants deps) (hd : d.Respells d') :
    HidesConstant d' constants deps := by
  induction h with
  | here found unwritable =>
      obtain ⟨item', hfound', rfl | ⟨haddress, -⟩⟩ := hd.exists_entry? found
      · exact .here hfound' (by rw [hd.isWritable_value, unwritable])
      · rw [isWritable_of_isAddressOrPlaceholder haddress] at unwritable
        cases unwritable
  | later found taken _ ih =>
      obtain ⟨item', hfound', rfl | ⟨-, haddress⟩⟩ := hd.exists_entry? found
      · exact .later hfound' taken ih
      · exact .later hfound' haddress ih

/-- A constant that is an address gets another spelling, and every other one is refused, which is
told if its value can be shown. -/
theorem canonicalEntry_cases (id : Nat) (d : Document) (dep : Dependency) :
    (∃ item d', d.entry? (.shared id) dep.constant = some item ∧ item.IsAddressOrPlaceholder ∧
      canonicalEntry id d dep = .ok d' ∧ d.Respells d') ∨
    ∃ f, canonicalEntry id d dep = .error f ∧
      (∀ item, d.entry? (.shared id) dep.constant = some item → ¬item.IsAddressOrPlaceholder) ∧
      (IsTold f ↔ ∀ item, d.entry? (.shared id) dep.constant = some item →
        (d.value item).isWritable = true) := by
  unfold canonicalEntry Document.entry?
  dsimp only
  cases hentries : d.entries? (.shared id) with
  | none => exact .inr ⟨_, rfl, nofun, iff_of_true rfl nofun⟩
  | some entries =>
      rw [Option.getD_some, Option.bind_some]
      cases hfound : Value.find? entries dep.constant with
      | none => exact .inr ⟨_, rfl, nofun, iff_of_true rfl nofun⟩
      | some item =>
          dsimp only
          by_cases htaken : (d.value item).IsAddressOrPlaceholder
          · obtain ⟨v', hv'⟩ := exists_canonicalConstant dep.constant htaken
            have hitem := isAddressOrPlaceholder_value_iff.mp htaken
            have hitem' : (Item.leaf v').IsAddressOrPlaceholder :=
              ⟨v', rfl, (canonicalConstant_eq_ok hv').isAddressOrPlaceholder⟩
            refine .inl ⟨item, _, rfl, hitem, ?_, .put hentries hfound hitem hitem'⟩
            rw [hv']
            rfl
          · obtain ⟨f, hf, htold⟩ := canonicalConstant_eq_error dep.constant htaken
            rw [hf]
            refine .inr ⟨f, rfl, ?_, htold.trans ⟨?_, fun h => h item rfl⟩⟩
            · rintro _ ⟨⟩ hitem
              exact htaken (isAddressOrPlaceholder_value_iff.mpr hitem)
            · rintro h _ ⟨⟩
              exact h

/-- The run over some constants only changes spellings. -/
theorem respells_of_foldlM {id : Nat} {d d' : Document} {deps : List Dependency}
    (h : deps.foldlM (canonicalEntry id) d = .ok d') : d.Respells d' := by
  induction deps generalizing d with
  | nil =>
      cases h
      exact .refl _
  | cons dep deps ih =>
      rw [List.foldlM_cons] at h
      obtain ⟨d₁, hstep, hrun⟩ := Outcome.bind_eq_ok.mp h
      rcases canonicalEntry_cases id d dep with ⟨_, _, _, _, hok, hrespells⟩ | ⟨_, herror, _⟩
      · rw [hok] at hstep
        cases hstep
        exact hrespells.trans (ih hrun)
      · rw [herror] at hstep
        cases hstep

/-- The run is told why it is refused, unless one of the constants is hidden. -/
theorem foldlM_failsOnly_iff (id : Nat) (d : Document) (deps : List Dependency) :
    FailsOnly (deps.foldlM (canonicalEntry id) d) IsTold ↔ ¬HidesConstant d (.shared id) deps := by
  -- The other constants are looked at in a document of other spelling, which hides the same ones.
  induction deps generalizing d with
  | nil => exact iff_of_true (.ok d) nofun
  | cons dep deps ih =>
      rw [List.foldlM_cons]
      rcases canonicalEntry_cases id d dep with
        ⟨item, d', hfound, htaken, hok, hrespells⟩ | ⟨f, herror, hrefused, htold⟩
      · rw [hok]
        refine (ih d').trans (not_congr ⟨fun h => ?_, fun h => ?_⟩)
        · exact .later hfound htaken (h.respelt hrespells.symm)
        · cases h with
          | here found unwritable =>
              rw [hfound] at found
              cases found
              rw [isWritable_of_isAddressOrPlaceholder htaken] at unwritable
              cases unwritable
          | later _ _ rest => exact rest.respelt hrespells
      · rw [herror]
        have herror_iff : FailsOnly (.error f : Except ConfigFault Document) IsTold ↔ IsTold f :=
          ⟨fun h => h f rfl, .error⟩
        refine herror_iff.trans (htold.trans ⟨fun hwritable h => ?_, fun h item hfound => ?_⟩)
        · cases h with
          | here found unwritable =>
              rw [hwritable _ found] at unwritable
              cases unwritable
          | later found taken _ => exact hrefused _ found taken
        · by_contra hunwritable
          exact h (.here hfound (Bool.not_eq_true _ ▸ hunwritable))

/-- Loading only changes the spelling of addresses. -/
theorem respells_of_canonical {d d' : Document} (h : canonical d = .ok d') : d.Respells d' := by
  unfold canonical at h
  split at h
  · exact respells_of_foldlM h
  · cases h

/-- A document whose constants hide one that cannot be shown. -/
def HidesConstants (d : Document) : Prop :=
  ∃ id, d.entry? d.root "constants" = some (.shared id) ∧
    HidesConstant d (.shared id) Dependency.constants

/-- Every refusal of constants is told, unless they hide one. -/
theorem canonical_failsOnly_iff (d : Document) :
    FailsOnly (canonical d) IsTold ↔ ¬HidesConstants d := by
  unfold canonical
  split
  · rename_i id hpart
    obtain ⟨hentry, -⟩ := Option.filter_eq_some_iff.mp hpart
    refine (foldlM_failsOnly_iff id d _).trans (not_congr ⟨fun h => ⟨id, hentry, h⟩, ?_⟩)
    rintro ⟨id', hentry', h⟩
    rw [hentry] at hentry'
    cases hentry'
    exact h
  · rename_i hnone
    refine iff_of_true (.error rfl) ?_
    rintro ⟨id, hentry, h⟩
    have hmapping : isMapping d (.shared id) = true := by
      cases h with
      | here found _ => exact isMapping_of_entry? found
      | later found _ _ => exact isMapping_of_entry? found
    exact hnone id (Option.filter_eq_some_iff.mpr ⟨hentry, hmapping⟩)

end Params

end Rollout

import Rollout.Proofs.Settings.Recipients

/-!
# The constants of a parameter file

Loading parameters brings the addresses among the constants to their canonical
spelling, one after the other, and each change is made where the constants are
kept: in the collection of a number. A change of one constant leaves the others
and everything else in the document alone, even where the constants lie inside
themselves. So in parameters that were loaded every constant is the placeholder
or an address, and so are the external contracts in settings made from them.

The external contracts need the step twice: `canonicalEntry` makes one constant
canonical and keeps those that are, and the run over all constants is an
induction on their list.

## Main results

* `Value.find?_put`: what is found after an entry was put.
* `Params.canonical_spec`: the constants of parameters that were loaded.
* `Settings.isKnown_of_madeOf`: the external contracts of settings.
-/

namespace Rollout

/-! ## Mappings and documents -/

namespace Value

theorem sameKey_text (k : Value) (key : String) : sameKey k (.text key) = k.isText key := by
  cases k <;> rfl

theorem isText_of_ne {k : Value} {key other : String} (h : k.isText key = true)
    (hne : key ≠ other) : k.isText other = false := by
  rw [(isText_iff k key).mp h, isText_text]
  exact beq_false_of_ne hne

/-- What was put is found, and everything else is found as before. -/
theorem find?_put {α : Type} (entries : List (Value × α)) (key other : String) (a : α) :
    find? (put entries (.text key) a) other =
      if key = other then some a else find? entries other := by
  induction entries with
  | nil =>
      by_cases h : key = other
      · simp [put, find?, h]
      · simp [put, find?, h]
  | cons e entries ih =>
      obtain ⟨k, b⟩ := e
      unfold find? at ih ⊢
      rw [put, sameKey_text]
      cases hk : k.isText key with
      | true =>
          by_cases h : key = other
          · subst h
            simp [hk]
          · have hother : k.isText other = false := isText_of_ne hk h
            simp [hother, h]
      | false =>
          have hne : k.isText other = true → key ≠ other := by
            rintro hother rfl
            rw [hk] at hother
            cases hother
          cases hother : k.isText other with
          | true => simp [hother, hne hother]
          | false => simpa [hother] using ih

end Value

namespace Yaml.Document

/-- A value has the same entries in every document. -/
theorem entries?_leaf (d d' : Document) (v : Value) :
    d.entries? (.leaf v) = d'.entries? (.leaf v) := by
  cases v <;> rfl

/-- A number that has entries is that of a mapping. -/
theorem collection?_eq_of_entries? {d : Document} {id : Nat} {entries : List (Value × Item)}
    (h : d.entries? (.shared id) = some entries) : d.collection? id = some (.mapping entries) := by
  unfold entries? at h
  dsimp only at h
  split at h
  · rename_i hfound
    cases h
    exact hfound
  · cases h

/-- The collection that was put. -/
theorem collection?_put_self {d : Document} {id : Nat} {c : Collection}
    {old : List (Value × Item)} (h : d.entries? (.shared id) = some old) :
    (d.put id c).collection? id = some c := by
  have hbound : id < d.collections.size := by
    refine Nat.lt_of_not_le fun hout => ?_
    have hnone : d.collection? id = none := by
      rw [collection?, Array.getElem?_eq_none hout]
      rfl
    rw [collection?_eq_of_entries? h] at hnone
    cases hnone
  unfold collection? put
  rw [Array.getElem?_setIfInBounds_self_of_lt hbound]
  rfl

/-- Other collections are as before. -/
theorem collection?_put_of_ne {d : Document} {id other : Nat} {c : Collection} (h : other ≠ id) :
    (d.put id c).collection? other = d.collection? other := by
  unfold collection? put
  rw [Array.getElem?_setIfInBounds_ne h.symm]

theorem entries?_put_self {d : Document} {id : Nat} {entries old : List (Value × Item)}
    (h : d.entries? (.shared id) = some old) :
    (d.put id (.mapping entries)).entries? (.shared id) = some entries := by
  rw [entries?, collection?_put_self h]

theorem entries?_put_of_ne {d : Document} {id other : Nat} {c : Collection} (h : other ≠ id) :
    (d.put id c).entries? (.shared other) = d.entries? (.shared other) := by
  rw [entries?, entries?, collection?_put_of_ne h]

end Yaml.Document

/-! ## Constants -/

/-- A value that is the placeholder or an address in its canonical spelling. -/
def Value.IsKnownOrPlaceholder [Address.CaseRule] (v : Value) : Prop :=
  isUnresolved v = true ∨ v.IsCanonical

namespace Params

open Yaml (Document Item)

theorem canonicalConstant_eq_ok [Address.CaseRule] {v v' : Value} {name : String}
    (h : canonicalConstant v name = .ok v') : v'.IsKnownOrPlaceholder := by
  unfold canonicalConstant at h
  split at h
  · rename_i hunresolved
    cases h
    exact .inl hunresolved
  · split at h
    · cases h
    · obtain ⟨address, hchecksum, h⟩ := Outcome.bind_eq_ok.mp h
      cases h
      exact .inr (isCanonical_of_checksum hchecksum)

/-- What the entries of a document's constants are as long as some of them have been made canonical:
the entry of each of those is a known address or the placeholder, and under every other name is what
was there before. -/
structure Canonical [Address.CaseRule] (before after : List (Value × Item))
    (done : List Dependency) : Prop where
  known : ∀ dep ∈ done, ∃ v, Value.find? after dep.constant = some (.leaf v) ∧
    v.IsKnownOrPlaceholder
  others : ∀ key, (∀ dep : Dependency, dep.constant ≠ key) →
    Value.find? after key = Value.find? before key

/-- One constant is made canonical where the constants are, and nothing else is changed. -/
theorem canonicalEntry_eq_ok [Address.CaseRule] {id : Nat} {d d' : Document} {dep : Dependency}
    (h : canonicalEntry id d dep = .ok d') :
    ∃ entries v, d.entries? (.shared id) = some entries ∧ v.IsKnownOrPlaceholder ∧
      d' = d.put id (.mapping (Value.put entries (.text dep.constant) (.leaf v))) := by
  unfold canonicalEntry at h
  dsimp only at h
  split at h
  · cases h
  · rename_i item hitem
    obtain ⟨v, hv, h⟩ := Outcome.bind_eq_ok.mp h
    cases h
    cases hentries : d.entries? (.shared id) with
    | none =>
        rw [hentries] at hitem
        cases hitem
    | some entries => exact ⟨entries, v, rfl, canonicalConstant_eq_ok hv, rfl⟩

/-- A document whose constants, the collection of a number, are canonical as far as some of them go;
the rest of it is as in another document. -/
structure Progress [Address.CaseRule] (id : Nat) (before : Document) (entries : List (Value × Item))
    (done : List Dependency) (after : Document) : Prop where
  root : after.root = before.root
  constants : ∃ now, after.entries? (.shared id) = some now ∧ Canonical entries now done
  elsewhere : ∀ other ≠ id, after.entries? (.shared other) = before.entries? (.shared other)

theorem Progress.step [Address.CaseRule] {id : Nat} {before d d' : Document}
    {entries : List (Value × Item)} {done : List Dependency} {dep : Dependency}
    (h : Progress id before entries done d) (hstep : canonicalEntry id d dep = .ok d') :
    Progress id before entries (dep :: done) d' := by
  obtain ⟨now, v, hnow, hv, rfl⟩ := canonicalEntry_eq_ok hstep
  obtain ⟨now', hnow', hcanonical⟩ := h.constants
  rw [hnow] at hnow'
  cases hnow'
  refine
    { root := h.root
      constants := ⟨_, Document.entries?_put_self hnow, ?_, ?_⟩
      elsewhere := fun other hne => ?_ }
  · intro dep' hdep'
    rw [Value.find?_put]
    by_cases hsame : dep.constant = dep'.constant
    · exact ⟨v, if_pos hsame, hv⟩
    · rw [if_neg hsame]
      refine hcanonical.known dep' ((List.mem_cons.mp hdep').resolve_left ?_)
      rintro rfl
      exact hsame rfl
  · intro key hkey
    rw [Value.find?_put, if_neg (hkey dep)]
    exact hcanonical.others key hkey
  · rw [Document.entries?_put_of_ne hne]
    exact h.elsewhere other hne

/-- The run over all constants. -/
theorem Progress.run [Address.CaseRule] {id : Nat} {before : Document}
    {entries : List (Value × Item)} :
    ∀ (deps : List Dependency) {done : List Dependency} {d d' : Document},
      Progress id before entries done d → deps.foldlM (canonicalEntry id) d = .ok d' →
      Progress id before entries (deps.reverse ++ done) d' := by
  intro deps
  induction deps with
  | nil =>
      intro done d d' h hrun
      cases hrun
      exact h
  | cons dep deps ih =>
      intro done d d' h hrun
      rw [List.foldlM_cons] at hrun
      obtain ⟨d₁, hstep, hrun⟩ := Outcome.bind_eq_ok.mp hrun
      rw [List.reverse_cons, List.append_assoc]
      exact ih (h.step hstep) hrun

/-- The constants of canonical parameters are found, and each of them is a known address or the
placeholder. -/
theorem canonical_spec [Address.CaseRule] {d d' : Document} (h : canonical d = .ok d') :
    ∃ id, Settings.lookUp d' d'.root "constants" = .ok (.shared id) ∧
      ∀ dep : Dependency, ∃ v,
        Settings.lookUp d' (.shared id) dep.constant = .ok (.leaf v) ∧ v.IsKnownOrPlaceholder := by
  unfold canonical at h
  split at h
  · rename_i id hpart
    obtain ⟨hentry, hmapping⟩ := Option.filter_eq_some_iff.mp hpart
    obtain ⟨above, habove, hfound⟩ := Option.bind_eq_some_iff.mp hentry
    obtain ⟨entries, hentries⟩ := Option.isSome_iff_exists.mp hmapping
    have hstart : Progress id d entries [] d :=
      { root := rfl
        constants := ⟨entries, hentries, nofun, fun _ _ => rfl⟩
        elsewhere := fun _ _ => rfl }
    have hend := hstart.run _ h
    obtain ⟨now, hnow, hcanonical⟩ := hend.constants
    refine ⟨id, ?_, fun dep => ?_⟩
    · -- The constants may lie inside themselves: then they have an entry that is no constant.
      have hothers : ∀ dep : Dependency, dep.constant ≠ "constants" := by
        intro dep
        cases dep <;> decide
      have hfound' : ∃ above', d'.entries? d'.root = some above' ∧
          Value.find? above' "constants" = some (.shared id) := by
        rw [hend.root]
        cases hroot : d.root with
        | leaf v =>
            rw [hroot] at habove
            exact ⟨above, (Document.entries?_leaf d' d v).trans habove, hfound⟩
        | shared r =>
            rw [hroot] at habove
            by_cases hsame : r = id
            · subst hsame
              rw [habove] at hentries
              cases hentries
              exact ⟨now, hnow, (hcanonical.others _ hothers).trans hfound⟩
            · exact ⟨above, (hend.elsewhere r hsame).trans habove, hfound⟩
      obtain ⟨above', habove', hfound'⟩ := hfound'
      rw [Settings.lookUp, habove']
      simp only [hfound']
    · have hdone : dep ∈ Dependency.constants.reverse ++ [] := by
        cases dep <;> decide
      obtain ⟨v, hv, hknown⟩ := hcanonical.known dep hdone
      refine ⟨v, ?_, hknown⟩
      rw [Settings.lookUp, hnow]
      simp only [hv]
  · cases h

/-- Parameters that were loaded are canonical. -/
theorem canonical_of_load [Address.CaseRule] {source : Source} {params : Document} {w w' : World}
    (h : (load source).perform w = (.ok params, w')) : ∃ d, canonical d = .ok params := by
  unfold load at h
  obtain ⟨_, _, _, h⟩ := Action.perform_bind_eq_ok.mp h
  obtain ⟨cs, w₁, _, h⟩ := Action.perform_bind_eq_ok.mp h
  split at h
  · cases (Prod.mk.inj h).1
  · rename_i d _
    have hdocument := Outcome.mapError_eq_ok.mp (Action.eq_ok_of_perform_ofExcept h)
    unfold ofDocument at hdocument
    dsimp only at hdocument
    split at hdocument
    · cases hdocument
    · obtain ⟨_, _, hcanonical⟩ := Outcome.bind_eq_ok.mp hdocument
      exact ⟨d, hcanonical⟩

end Params

namespace Settings

/-- Each external contract comes from its constant; only the verifier may come from the environment
instead. -/
theorem dependenciesOf_eq_ok [Address.CaseRule] {env : Environ} {d : Yaml.Document}
    {constants : Yaml.Item} {deps : Dependencies} (h : dependenciesOf env d constants = .ok deps)
    (dep : Dependency) :
    (lookUp d constants dep.constant).map d.value = .ok (deps.get dep) ∨
      (deps.get dep).IsCanonical := by
  unfold dependenciesOf at h
  obtain ⟨verifier, hverifier, h⟩ := Outcome.bind_eq_ok.mp h
  obtain ⟨override, hoverride, h⟩ := Outcome.bind_eq_ok.mp h
  obtain ⟨spokePool, hspokePool, h⟩ := Outcome.bind_eq_ok.mp h
  obtain ⟨usdt, husdt, h⟩ := Outcome.bind_eq_ok.mp h
  obtain ⟨router, hrouter, h⟩ := Outcome.bind_eq_ok.mp h
  cases h
  cases dep with
  | spokePool => exact .inl hspokePool
  | usdt => exact .inl husdt
  | aggregationRouter => exact .inl hrouter
  | sp1Verifier =>
      cases override with
      | none => exact .inl hverifier
      | some address =>
          exact .inr (isCanonical_of_optionalAddress (Outcome.mapError_eq_ok.mp hoverride))

/-- The external contracts in settings that were made from loaded parameters are known addresses or
placeholders. -/
theorem isKnown_of_madeOf [Address.CaseRule] {s : Settings} {flags : Flags} {env : Environ}
    {key : String} {params : Yaml.Document} {source : Params.Source} {w w' : World}
    (hload : (Params.load source).perform w = (.ok params, w'))
    (h : s.MadeOf flags env key params) (dep : Dependency) :
    (s.defaults.get dep).IsKnownOrPlaceholder := by
  obtain ⟨d, hd⟩ := Params.canonical_of_load hload
  obtain ⟨id, hid, hknown⟩ := Params.canonical_spec hd
  obtain ⟨constants, hconstants, hdefaults⟩ := h.defaults
  rw [hid] at hconstants
  cases hconstants
  rcases dependenciesOf_eq_ok hdefaults dep with hconstant | hcanonical
  · obtain ⟨v, hv, hvknown⟩ := hknown dep
    rw [hv] at hconstant
    have hvalue : v = s.defaults.get dep := Except.ok.inj hconstant
    rwa [← hvalue]
  · exact .inr hcanonical

/-- A verification key has 32 bytes. -/
theorem length_of_verificationKeyOf {v : Option String} {key : Bytes}
    (h : verificationKeyOf v = .ok key) : key.length = 32 := by
  unfold verificationKeyOf at h
  split at h
  · cases h
    rfl
  split at h
  · cases h
    rfl
  split at h
  · cases h
  split at h
  · cases h
    assumption
  · cases h

end Settings

end Rollout

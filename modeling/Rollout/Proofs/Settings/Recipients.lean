import Rollout.Proofs.Address.Canonical
import Rollout.Proofs.Settings.Resolved
import Rollout.Roles
import Rollout.Settings.Resolve

/-!
# Recipients in settings

A recipient comes from the environment, where it may be absent or empty. In the
settings it is an address in its canonical spelling or nothing, so a recipient
that counts as absent is nothing at all, and none is a placeholder.

## Main results

* `Settings.isCanonicalOrNull_of_recipientsOf`: the recipients of an environment.
* `Settings.IsResolved.recipient`: the recipients of settings that were put
  together.
-/

namespace Rollout

/-- A value that is nothing or an address. -/
def Value.IsAddressOrNull (v : Value) : Prop := v = .null ∨ v.IsAddress

/-- A value that is nothing or an address in its canonical spelling. -/
def Value.IsCanonicalOrNull [Address.CaseRule] (v : Value) : Prop := v = .null ∨ v.IsCanonical

theorem Value.IsCanonicalOrNull.isAddressOrNull [Address.CaseRule] {v : Value}
    (h : v.IsCanonicalOrNull) :
    v.IsAddressOrNull := h.imp_right Value.IsCanonical.isAddress

theorem isCanonicalOrNull_of_optionalAddress [Address.CaseRule] {s : Option String} {name : String}
    {found : Option String} (h : optionalAddress s name = .ok found) :
    (Value.ofOption found).IsCanonicalOrNull := by
  cases found with
  | none => exact .inl rfl
  | some address => exact .inr (isCanonical_of_optionalAddress h)

/-- Such a value is no placeholder. -/
theorem Value.IsAddressOrNull.isUnresolved {v : Value} (h : v.IsAddressOrNull) :
    isUnresolved v = false := by
  rcases h with rfl | ⟨s, rfl, hs⟩
  · rfl
  · exact isUnresolved_of_isAddress hs

/-- A value that is nothing or a text that is not empty. -/
def Value.IsSetOrNull (v : Value) : Prop := v = .null ∨ ∃ s, v = .text s ∧ s.isEmpty = false

theorem Value.IsAddressOrNull.isSetOrNull {v : Value} (h : v.IsAddressOrNull) :
    v.IsSetOrNull := by
  rcases h with rfl | ⟨s, rfl, hs⟩
  · exact .inl rfl
  · refine .inr ⟨s, rfl, ?_⟩
    rw [← Bool.not_eq_true, String.isEmpty_iff]
    rintro rfl
    cases hs

/-- Such a value counts as absent only if it is nothing. -/
theorem Value.IsSetOrNull.isEmpty_iff {v : Value} (h : v.IsSetOrNull) :
    v.isEmpty = true ↔ v = .null := by
  rcases h with rfl | ⟨s, rfl, hs⟩
  · exact iff_of_true rfl rfl
  · refine iff_of_false ?_ (by simp)
    rw [Value.isEmpty, hs]
    exact Bool.false_ne_true

namespace Settings

/-- A recipient that is read from the environment is nothing or an address in its canonical
spelling. -/
theorem isCanonicalOrNull_of_recipientsOf [Address.CaseRule] {env : Environ} {r : Recipients}
    (h : recipientsOf env = .ok r) : ∀ p ∈ Role.withRecipients r, p.2.IsCanonicalOrNull := by
  obtain ⟨admin, hadmin, h⟩ := Outcome.bind_eq_ok.mp h
  obtain ⟨creator, hcreator, h⟩ := Outcome.bind_eq_ok.mp h
  obtain ⟨registrar, hregistrar, h⟩ := Outcome.bind_eq_ok.mp h
  cases h
  simp only [Role.withRecipients, List.forall_mem_cons, List.not_mem_nil]
  exact ⟨isCanonicalOrNull_of_optionalAddress hadmin,
    isCanonicalOrNull_of_optionalAddress hcreator,
    isCanonicalOrNull_of_optionalAddress hregistrar, by simp⟩

theorem isAddressOrNull_of_recipientsOf [Address.CaseRule] {env : Environ} {r : Recipients}
    (h : recipientsOf env = .ok r) : ∀ p ∈ Role.withRecipients r, p.2.IsAddressOrNull :=
  fun p hp => (isCanonicalOrNull_of_recipientsOf h p hp).isAddressOrNull

/-- Settings that were put together from flags, environment and parameters. -/
def IsResolved [Address.CaseRule] (s : Settings) : Prop :=
  ∃ flags env params source w w', (resolve flags env params source).perform w = (.ok s, w')

/-- Such settings are made of the parameters, wherever these come from. -/
theorem IsResolved.exists_ofParams [Address.CaseRule] {s : Settings} (h : s.IsResolved) :
    ∃ flags env key document, ofParams flags env key document = .ok s := by
  obtain ⟨flags, env, params, source, w, w', h⟩ := h
  obtain ⟨key, document, _, _, hparams⟩ := resolve_eq_ok h
  exact ⟨flags, env, key, document, hparams⟩

/-- The recipients of such settings are addresses or nothing. -/
theorem IsResolved.isAddressOrNull [Address.CaseRule] {s : Settings} (h : s.IsResolved) :
    ∀ p ∈ Role.withRecipients s.recipients, p.2.IsAddressOrNull := by
  obtain ⟨flags, env, key, document, hparams⟩ := h.exists_ofParams
  exact isAddressOrNull_of_recipientsOf (ofParams_eq_ok hparams).recipients

theorem IsResolved.recipient [Address.CaseRule] {s : Settings} (h : s.IsResolved) :
    ∀ p ∈ Role.withRecipients s.recipients, p.2.IsSetOrNull :=
  fun p hp => (h.isAddressOrNull p hp).isSetOrNull

end Settings

end Rollout

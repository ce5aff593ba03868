import Rollout.Proofs.Settings.Reported

/-!
# Blanks in the environment

Addresses and the verification key come from variables of the environment, whose
values are trimmed before they are read. But whether a variable is set at all is
asked before that, and a variable of blanks alone is set. So blanks around a
value never matter, except where they are all there is: an empty value counts as
absent, and a blank one is refused.

Both kinds of variables are read in this way, and `ReadsTrimmed` says so once for
both. What is made of an environment is then compared step by step: where two
environments differ in blanks only, every step gives the same in both or is
refused in one of them (`Diverges`).

## Main results

* `Settings.ReadsTrimmed.same_surrounded_iff`: blanks around a value matter exactly
  if there is nothing but blanks.
* `Settings.blanks_matter_iff`: the same of addresses, of the key and of whole
  environments.
-/

namespace Rollout

open Yaml (Document Item)

/-! ## Classes of failures -/

/-- What a fault of the configuration is called. -/
def ConfigFault.title? (f : ConfigFault) : Option String := (Failure.configuration f).title?

/-- Two results are the same value, or failures of the same class. -/
inductive Outcome.Same {ε α : Type} (title? : ε → Option String) : Except ε α → Except ε α → Prop
  | value (a : α) : Same title? (.ok a) (.ok a)
  | failure {f f' : ε} (title : title? f = title? f') : Same title? (.error f) (.error f')

namespace Outcome.Same

variable {ε α : Type} {title? : ε → Option String} {x y : Except ε α}

theorem refl (x : Except ε α) : Same title? x x := by
  cases x with
  | ok a => exact .value a
  | error f => exact .failure rfl

theorem isOk_eq (h : Same title? x y) : x.isOk = y.isOk := by
  cases h <;> rfl

end Outcome.Same

/-- A variable is there and not empty. -/
def IsSet (v : Option String) : Prop := v.getD "" ≠ ""

instance : DecidablePred IsSet := fun v => inferInstanceAs (Decidable (v.getD "" ≠ ""))

theorem IsSet.eq_some {v : Option String} (h : IsSet v) : ∃ s, v = some s ∧ ¬s.isEmpty = true := by
  cases v with
  | none => exact absurd rfl h
  | some s => exact ⟨s, rfl, by rwa [String.isEmpty_iff]⟩

/-- What there is in a variable besides blanks. -/
def contents (v : Option String) : String := Text.trim (v.getD "")

theorem contents_of_not_isSet {v : Option String} (h : ¬IsSet v) : contents v = "" := by
  unfold contents
  rw [Classical.not_not.mp h]
  rfl

/-- Blanks around a text are not part of its contents. -/
theorem contents_surrounded {before after : String} (s : String)
    (hbefore : Text.AreBlanks before.toList) (hafter : Text.AreBlanks after.toList) :
    contents (some (before ++ s ++ after)) = contents (some s) := by
  show String.ofList (Text.trimChars (before ++ s ++ after).toList) =
    String.ofList (Text.trimChars s.toList)
  rw [String.toList_append, Text.trimChars_append_blanks _ hafter, String.toList_append,
    Text.trimChars_blanks_append _ _ hbefore]

/-- They make a variable set that was not exactly if it was empty and there are some. -/
theorem isSet_surrounded_iff {before s after : String} :
    (IsSet (some (before ++ s ++ after)) ↔ IsSet (some s)) ↔ (s = "" → before ++ after = "") := by
  have hset : ∀ t, IsSet (some t) ↔ t ≠ "" := fun _ => Iff.rfl
  have happend : ∀ t u : String, t ++ u = "" ↔ t = "" ∧ u = "" := by
    intro t u
    rw [← String.toList_eq_nil_iff, String.toList_append, List.append_eq_nil_iff,
      String.toList_eq_nil_iff, String.toList_eq_nil_iff]
  rw [hset, hset, not_iff_not, happend, happend, happend]
  constructor
  · intro h hs
    exact ⟨(h.mpr hs).1.1, (h.mpr hs).2⟩
  · intro h
    exact ⟨fun hs => hs.1.2, fun hs => ⟨⟨(h hs).1, hs⟩, (h hs).2⟩⟩

/-! ## Values that are trimmed -/

namespace Settings

/-- A refusal of the configuration, with the title that most of them have. -/
def Refused {α : Type} (r : Except Failure α) : Prop :=
  ∃ f, r = .error (.configuration f) ∧ f.title? = some "ConfigurationError"

/-- A variable is read by its contents alone, once it is known whether it is set; where it is set and
blank it is refused. -/
structure ReadsTrimmed {α : Type} (read : Option String → Except ConfigFault α) : Prop where
  unset : ∃ a, ∀ v, ¬IsSet v → read v = .ok a
  set : ∃ readContents : String → Except ConfigFault α,
    (∀ v, IsSet v → read v = readContents (contents v)) ∧
    ∃ f, readContents "" = .error f ∧ f.title? = some "ConfigurationError"

namespace ReadsTrimmed

variable {α : Type} {read : Option String → Except ConfigFault α} {v v' : Option String}

/-- Variables with the same contents are read alike if both or neither are set. -/
theorem eq_of_iff (h : ReadsTrimmed read) (hcontents : contents v = contents v')
    (hset : IsSet v ↔ IsSet v') : read v = read v' := by
  by_cases hv : IsSet v
  · obtain ⟨readContents, hread, -⟩ := h.set
    rw [hread v hv, hread v' (hset.mp hv), hcontents]
  · obtain ⟨a, hread⟩ := h.unset
    rw [hread v hv, hread v' fun hv' => hv (hset.mpr hv')]

/-- A set variable is refused if one that is not has the same contents. -/
theorem refused_of_isSet (h : ReadsTrimmed read) (hcontents : contents v = contents v')
    (hv : IsSet v) (hv' : ¬IsSet v') :
    ∃ f a, read v = .error f ∧ f.title? = some "ConfigurationError" ∧ read v' = .ok a := by
  obtain ⟨readContents, hread, f, hblank, htitle⟩ := h.set
  obtain ⟨a, hunset⟩ := h.unset
  refine ⟨f, a, ?_, htitle, hunset v' hv'⟩
  rw [hread v hv, hcontents, contents_of_not_isSet hv', hblank]

/-- Variables with the same contents are read alike, or one of them is not set and the other is set
and refused. -/
theorem compare (h : ReadsTrimmed read) (hcontents : contents v = contents v') :
    ((IsSet v ↔ IsSet v') ∧ read v = read v') ∨ ¬(IsSet v ↔ IsSet v') ∧
      ∃ f a, f.title? = some "ConfigurationError" ∧
        (read v = .error f ∧ read v' = .ok a ∨ read v = .ok a ∧ read v' = .error f) := by
  by_cases hv : IsSet v <;> by_cases hv' : IsSet v'
  · have hset := iff_of_true hv hv'
    exact .inl ⟨hset, h.eq_of_iff hcontents hset⟩
  · obtain ⟨f, a, hf, htitle, ha⟩ := h.refused_of_isSet hcontents hv hv'
    exact .inr ⟨fun hset => hv' (hset.mp hv), f, a, htitle, .inl ⟨hf, ha⟩⟩
  · obtain ⟨f, a, hf, htitle, ha⟩ := h.refused_of_isSet hcontents.symm hv' hv
    exact .inr ⟨fun hset => hv (hset.mpr hv'), f, a, htitle, .inr ⟨ha, hf⟩⟩
  · have hset := iff_of_false hv hv'
    exact .inl ⟨hset, h.eq_of_iff hcontents hset⟩

/-- Variables with the same contents are read with the same outcome exactly if both or neither are
set. -/
theorem same_iff (h : ReadsTrimmed read) (hcontents : contents v = contents v') :
    Outcome.Same ConfigFault.title? (read v) (read v') ↔ (IsSet v ↔ IsSet v') := by
  rcases h.compare hcontents with ⟨hset, heq⟩ | ⟨hset, f, a, -, ⟨hv, hv'⟩ | ⟨hv, hv'⟩⟩
  · rw [heq]
    exact iff_of_true (.refl _) hset
  · rw [hv, hv']
    exact iff_of_false nofun hset
  · rw [hv, hv']
    exact iff_of_false nofun hset

/-- Blanks around a text matter exactly if there is nothing but blanks. -/
theorem same_surrounded_iff (h : ReadsTrimmed read) {before s after : String}
    (hbefore : Text.AreBlanks before.toList) (hafter : Text.AreBlanks after.toList) :
    Outcome.Same ConfigFault.title? (read (some (before ++ s ++ after))) (read (some s)) ↔
      (s = "" → before ++ after = "") := by
  rw [h.same_iff (contents_surrounded s hbefore hafter), isSet_surrounded_iff]

end ReadsTrimmed

theorem isEmpty_of_not_isSet {s : String} (h : ¬IsSet (some s)) : s.isEmpty = true :=
  String.isEmpty_iff.mpr (Classical.not_not.mp h)

/-- An empty text is no address. -/
theorem checksum_empty [Address.CaseRule] (name : String) :
    checksum (.text "") name = .error (.invalidAddress name (.text "")) := by
  refine checksumWith_eq_error (fun h => ?_) name
  obtain ⟨_, ⟨⟩, hs⟩ := h.isAddress
  cases hs

/-- An address that may be absent is read by its contents. -/
theorem readsTrimmed_optionalAddress [Address.CaseRule] (name : String) :
    ReadsTrimmed fun v => optionalAddress v name := by
  refine ⟨⟨none, fun v hv => ?_⟩, fun t => (checksum (.text t) name).map some, ?_,
    .invalidAddress name (.text ""), ?_, rfl⟩
  · cases v with
    | none => rfl
    | some s => exact if_pos (isEmpty_of_not_isSet hv)
  · intro v hv
    obtain ⟨s, rfl, hsome⟩ := hv.eq_some
    unfold optionalAddress
    dsimp only
    rw [if_neg hsome]
    show _ = Except.map some (checksum (.text (Text.trim s)) name)
    cases checksum (.text (Text.trim s)) name <;> rfl
  · dsimp only
    rw [checksum_empty]
    rfl

/-- So is the verification key. -/
theorem readsTrimmed_verificationKeyOf : ReadsTrimmed verificationKeyOf := by
  refine ⟨⟨List.replicate 32 0, fun v hv => ?_⟩, fun t =>
    (Hex.read? t).elim (.error .invalidKeyDigits) fun key =>
      if key.length = 32 then .ok key else .error (.keyLength key.length),
    ?_, .keyLength 0, rfl, rfl⟩
  · cases v with
    | none => rfl
    | some s => exact if_pos (isEmpty_of_not_isSet hv)
  · intro v hv
    obtain ⟨s, rfl, hsome⟩ := hv.eq_some
    have hcontents : contents (some s) = Text.trim s := rfl
    unfold verificationKeyOf
    dsimp only
    rw [hcontents]
    cases Hex.read? (Text.trim s) with
    | none => exact if_neg hsome
    | some key => exact if_neg hsome

end Settings

/-! ## Environments -/

/-- The variables that are trimmed. -/
def Environ.trimmedNames : List String := "SP1_VKEY" :: addressNames

/-- Environments that differ at most in the blanks of these variables. -/
structure Environ.SameButBlanks (env env' : Environ) : Prop where
  trimmed : ∀ name ∈ trimmedNames, contents (env name) = contents (env' name)
  others : ∀ name, name ∉ trimmedNames → env name = env' name

/-- Environments in which the same of these variables are set. -/
def Environ.SetsSame (env env' : Environ) : Prop :=
  ∀ name ∈ trimmedNames, IsSet (env name) ↔ IsSet (env' name)

namespace Settings

/-- What is read of one variable in two environments: the same, or a refusal in one of them. -/
def Diverges {α : Type} (x y : Except Failure α) : Prop := x = y ∨ Refused x ∨ Refused y

namespace Diverges

variable {α β : Type}

theorem refl (x : Except Failure α) : Diverges x x := .inl rfl

theorem bind {x y : Except Failure α} {f g : α → Except Failure β} (h : Diverges x y)
    (hf : ∀ a, Diverges (f a) (g a)) : Diverges (x >>= f) (y >>= g) := by
  have hrefused : ∀ {z : Except Failure α} {k : α → Except Failure β}, Refused z →
      Refused (z >>= k) := by
    rintro _ _ ⟨fault, rfl, htitle⟩
    exact ⟨fault, rfl, htitle⟩
  rcases h with rfl | hx | hy
  · cases x with
    | ok a => exact hf a
    | error e => exact .inl rfl
  · exact .inr (.inl (hrefused hx))
  · exact .inr (.inr (hrefused hy))

end Diverges

theorem ReadsTrimmed.diverges {α : Type} {read : Option String → Except ConfigFault α}
    {v v' : Option String} (h : ReadsTrimmed read) (hcontents : contents v = contents v') :
    Diverges ((read v).mapError Failure.configuration)
      ((read v').mapError Failure.configuration) := by
  rcases h.compare hcontents with ⟨-, heq⟩ | ⟨-, f, a, htitle, ⟨hv, hv'⟩ | ⟨hv, hv'⟩⟩
  · rw [heq]
    exact .refl _
  · exact .inr (.inl ⟨f, by rw [hv]; rfl, htitle⟩)
  · exact .inr (.inr ⟨f, by rw [hv']; rfl, htitle⟩)

/-- The addresses of an environment that settings are made of could be read. -/
theorem MadeOf.addressesRead [Address.CaseRule] {s : Settings} {flags : Flags} {env : Environ}
    {key : String} {params : Document} (h : s.MadeOf flags env key params) : env.AddressesRead := by
  obtain ⟨constants, -, hdefaults⟩ := h.defaults
  obtain ⟨verifier, -, hdefaults⟩ := Outcome.bind_eq_ok.mp hdefaults
  obtain ⟨override, hoverride, -⟩ := Outcome.bind_eq_ok.mp hdefaults
  refine List.forall_mem_cons.mpr ⟨⟨override, Outcome.mapError_eq_ok.mp hoverride⟩, ?_⟩
  exact (exists_recipientsOf_iff env).mp ⟨_, h.recipients⟩

section

variable {env env' : Environ} (henv : env.SameButBlanks env')

include henv

/-- What is made of the environment where the same variables are set in both. -/
theorem ofParams_of_setsSame [Address.CaseRule] (hset : env.SetsSame env') (flags : Flags)
    (key : String) (params : Document) :
    ofParams flags env key params = ofParams flags env' key params := by
  have haddress : ∀ name ∈ Environ.addressNames,
      optionalAddress (env name) name = optionalAddress (env' name) name := by
    intro name hname
    have hmem : name ∈ Environ.trimmedNames := List.mem_cons_of_mem _ hname
    exact (readsTrimmed_optionalAddress name).eq_of_iff (henv.trimmed name hmem) (hset name hmem)
  have hkey := readsTrimmed_verificationKeyOf.eq_of_iff
    (henv.trimmed "SP1_VKEY" List.mem_cons_self) (hset "SP1_VKEY" List.mem_cons_self)
  have hdependencies : ∀ constants,
      dependenciesOf env params constants = dependenciesOf env' params constants := by
    intro constants
    rw [dependenciesOf, dependenciesOf, haddress _ (by decide)]
  have hrecipients : recipientsOf env = recipientsOf env' := by
    rw [recipientsOf, recipientsOf, haddress "ADMIN_ADDRESS" (by decide),
      haddress "UNLIMITED_CREATOR_ADDRESS" (by decide), haddress "REGISTRAR_ADDRESS" (by decide)]
  unfold ofParams Environ.nonempty?
  simp only [hdependencies, hrecipients, hkey, henv.others "DEPLOYER_PASSPHRASE" (by decide)]

theorem diverges_dependenciesOf [Address.CaseRule] (params : Document) (constants : Item) :
    Diverges (dependenciesOf env params constants) (dependenciesOf env' params constants) := by
  unfold dependenciesOf
  refine .bind (.refl _) fun _ => ?_
  refine .bind ((readsTrimmed_optionalAddress _).diverges (henv.trimmed _ (by decide))) fun _ => ?_
  exact .refl _

theorem diverges_recipientsOf [Address.CaseRule] :
    Diverges ((recipientsOf env).mapError Failure.configuration)
      ((recipientsOf env').mapError Failure.configuration) := by
  have haddress : ∀ name ∈ Environ.addressNames,
      Diverges ((optionalAddress (env name) name).mapError Failure.configuration)
        ((optionalAddress (env' name) name).mapError Failure.configuration) := fun name hname =>
    (readsTrimmed_optionalAddress name).diverges (henv.trimmed name (List.mem_cons_of_mem _ hname))
  unfold recipientsOf
  simp only [Outcome.mapError_bind]
  refine .bind (haddress _ (by decide)) fun _ => ?_
  refine .bind (haddress _ (by decide)) fun _ => ?_
  exact .bind (haddress _ (by decide)) fun _ => .refl _

/-- The settings of both environments are the same, or one of them is refused. -/
theorem diverges_ofParams [Address.CaseRule] (flags : Flags) (key : String) (params : Document) :
    Diverges (ofParams flags env key params) (ofParams flags env' key params) := by
  have hpassphrase : env.nonempty? "DEPLOYER_PASSPHRASE" = env'.nonempty? "DEPLOYER_PASSPHRASE" :=
    congrArg (Option.filter _) (henv.others _ (by decide))
  unfold ofParams
  rw [hpassphrase]
  refine .bind (.refl _) fun _ => .bind (.refl _) fun _ => .bind (.refl _) fun _ => ?_
  refine .bind (diverges_dependenciesOf henv params _) fun _ => ?_
  refine .bind (diverges_recipientsOf henv) fun _ => ?_
  refine .bind (.refl _) fun _ => .bind (.refl _) fun _ => .bind (.refl _) fun _ => ?_
  refine .bind ?_ fun _ => .refl _
  exact readsTrimmed_verificationKeyOf.diverges (henv.trimmed _ List.mem_cons_self)

/-- Variables that can be read in two environments are set in both or in neither. -/
theorem setsSame_of_ofParams [Address.CaseRule] {flags : Flags} {key : String} {params : Document}
    {s s' : Settings} (hs : ofParams flags env key params = .ok s)
    (hs' : ofParams flags env' key params = .ok s') :
    env.SetsSame env' := by
  have hread : ∀ {α : Type} {read : Option String → Except ConfigFault α} {v v' : Option String}
      {a a' : α}, ReadsTrimmed read → contents v = contents v' → read v = .ok a →
      read v' = .ok a' → (IsSet v ↔ IsSet v') := by
    intro α read v v' a a' hreads hcontents hv hv'
    rcases hreads.compare hcontents with ⟨hset, -⟩ | ⟨-, f, b, -, ⟨hf, -⟩ | ⟨-, hf⟩⟩
    · exact hset
    · rw [hv] at hf
      cases hf
    · rw [hv'] at hf
      cases hf
  have hmade := ofParams_eq_ok hs
  have hmade' := ofParams_eq_ok hs'
  have haddresses : env.AddressesRead := hmade.addressesRead
  have haddresses' : env'.AddressesRead := hmade'.addressesRead
  refine List.forall_mem_cons.mpr ⟨?_, fun name hname => ?_⟩
  · exact hread readsTrimmed_verificationKeyOf (henv.trimmed _ List.mem_cons_self)
      hmade.verificationKey hmade'.verificationKey
  · obtain ⟨address, haddress⟩ := haddresses name hname
    obtain ⟨address', haddress'⟩ := haddresses' name hname
    exact hread (readsTrimmed_optionalAddress name)
      (henv.trimmed name (List.mem_cons_of_mem _ hname)) haddress haddress'

/-- What is resolved in two environments is made of the same parameters, unless these fail. -/
theorem resolve_results [Address.CaseRule] (flags : Flags) (params : Option Value)
    (source : Params.Source) (w : World) :
    (∃ f, ((resolve flags env params source).perform w).1 = .error f ∧
        ((resolve flags env' params source).perform w).1 = .error f) ∨
      ∃ key d, ((resolve flags env params source).perform w).1 = ofParams flags env key d ∧
        ((resolve flags env' params source).perform w).1 = ofParams flags env' key d := by
  have hkey : env.nonempty? "PRIVATE_KEY" = env'.nonempty? "PRIVATE_KEY" :=
    congrArg (Option.filter _) (henv.others _ (by decide))
  unfold resolve
  rw [hkey]
  cases env'.nonempty? "PRIVATE_KEY" with
  | none => exact .inl ⟨_, rfl, rfl⟩
  | some key =>
      dsimp only
      cases params with
      | some v =>
          refine .inr ⟨key, .ofValue v, ?_, ?_⟩
          · exact congrArg Prod.fst (Action.perform_ofExcept _ w)
          · exact congrArg Prod.fst (Action.perform_ofExcept _ w)
      | none =>
          dsimp only
          rw [Action.perform_bind, Action.perform_bind]
          rcases (Params.load source).perform w with ⟨found, w'⟩
          cases found with
          | error f => exact .inl ⟨f, rfl, rfl⟩
          | ok d =>
              refine .inr ⟨key, d, ?_, ?_⟩
              · exact congrArg Prod.fst (Action.perform_ofExcept _ w')
              · exact congrArg Prod.fst (Action.perform_ofExcept _ w')

end

/-- Blanks around an address or a key matter exactly if there is nothing but blanks. In environments
that differ in these blanks only, nothing differs if the same variables are set; one of two different
results is a refusal; and if settings can be put together in one of them, then in the other exactly if
the same variables are set. -/
theorem blanks_matter_iff [Address.CaseRule] {before after : String}
    (hbefore : Text.AreBlanks before.toList) (hafter : Text.AreBlanks after.toList)
    {env env' : Environ} (henv : env.SameButBlanks env') (flags : Flags) (params : Option Value)
    (source : Params.Source) (w : World) :
    (∀ name s,
      Outcome.Same ConfigFault.title? (optionalAddress (some (before ++ s ++ after)) name)
        (optionalAddress (some s) name) ↔ (s = "" → before ++ after = "")) ∧
    (∀ s,
      Outcome.Same ConfigFault.title? (verificationKeyOf (some (before ++ s ++ after)))
        (verificationKeyOf (some s)) ↔ (s = "" → before ++ after = "")) ∧
    (env.SetsSame env' → (resolve flags env params source).perform w =
      (resolve flags env' params source).perform w) ∧
    Diverges ((resolve flags env params source).perform w).1
      ((resolve flags env' params source).perform w).1 ∧
    ∀ s, ((resolve flags env params source).perform w).1 = .ok s →
      (Outcome.Same Failure.title? (.ok s) ((resolve flags env' params source).perform w).1 ↔
        env.SetsSame env') := by
  have hsame : env.SetsSame env' → (resolve flags env params source).perform w =
      (resolve flags env' params source).perform w := by
    intro hset
    have hkey : env.nonempty? "PRIVATE_KEY" = env'.nonempty? "PRIVATE_KEY" :=
      congrArg (Option.filter _) (henv.others _ (by decide))
    unfold resolve
    simp only [hkey, ofParams_of_setsSame henv hset]
  refine ⟨fun name s => (readsTrimmed_optionalAddress name).same_surrounded_iff hbefore hafter,
    fun s => readsTrimmed_verificationKeyOf.same_surrounded_iff hbefore hafter,
    hsame, ?_, fun s hs => ⟨fun hother => ?_, fun hset => ?_⟩⟩
  · rcases resolve_results henv flags params source w with ⟨f, hf, hf'⟩ | ⟨key, d, hd, hd'⟩
    · rw [hf, hf']
      exact .refl _
    · rw [hd, hd']
      exact diverges_ofParams henv flags key d
  · rcases resolve_results henv flags params source w with ⟨f, hf, -⟩ | ⟨key, d, hd, hd'⟩
    · rw [hs] at hf
      cases hf
    · obtain ⟨s', hs'⟩ := Outcome.exists_eq_ok (hother.isOk_eq ▸ rfl :
        ((resolve flags env' params source).perform w).1.isOk = true)
      exact setsSame_of_ofParams henv (hd ▸ hs) (hd' ▸ hs')
  · rw [← hsame hset, hs]
    exact .value s

/-- The standard environment with blanks around its addresses, and with an empty key. -/
def paddedEnviron : Environ :=
  .ofList
    [("PRIVATE_KEY", "key"), ("ADMIN_ADDRESS", "\t" ++ Deployer.otherAddress ++ "\n"),
     ("REGISTRAR_ADDRESS", " " ++ Deployer.otherAddress ++ ""), ("SP1_VKEY", "")]

/-- The same settings are put together in both. -/
theorem blanks_around_addresses :
    Environ.standard.SameButBlanks paddedEnviron ∧ Environ.standard.SetsSame paddedEnviron ∧
    optionalAddress (some ("\t" ++ Deployer.otherAddress ++ "\n")) "ADMIN_ADDRESS" =
      .ok (some Deployer.otherAddress) ∧
    (resolve ⟨false, false⟩ paddedEnviron (some Params.standard) .packaged).perform .fresh =
      (.ok .standard, .fresh) := by
  have hsame : Environ.standard.SameButBlanks paddedEnviron := by
    refine ⟨by decide +kernel, fun name hname => ?_⟩
    simp only [Environ.trimmedNames, Environ.addressNames, List.mem_cons, List.not_mem_nil,
      or_false, not_or] at hname
    obtain ⟨hkey, -, hadmin, -, hregistrar⟩ := hname
    simp [Environ.standard, paddedEnviron, Environ.ofList, List.find?_cons, Ne.symm hkey,
      Ne.symm hadmin, Ne.symm hregistrar]
  have hset : Environ.standard.SetsSame paddedEnviron := by
    unfold Environ.SetsSame
    decide +kernel
  have htab : Text.AreBlanks "\t".toList := by decide
  have hend : Text.AreBlanks "\n".toList := by decide
  obtain ⟨haddresses, -, hresolve, -⟩ := blanks_matter_iff htab hend hsame ⟨false, false⟩
    (some Params.standard) .packaged .fresh
  refine ⟨hsame, hset, ?_, ?_⟩
  · have haddress := (haddresses "ADMIN_ADDRESS" Deployer.otherAddress).mpr (by decide)
    rw [optionalAddress_otherAddress] at haddress
    generalize optionalAddress _ _ = padded at haddress ⊢
    cases haddress
    rfl
  · rw [← hresolve hset, resolve_standard]

/-- A blank address and a blank key are refused, where empty ones count as absent. -/
theorem blanks_refused :
    Text.AreBlanks " ".toList ∧
    optionalAddress (some "") "ADMIN_ADDRESS" = .ok none ∧
    optionalAddress (some (" " ++ "" ++ "")) "ADMIN_ADDRESS" =
      .error (.invalidAddress "ADMIN_ADDRESS" (.text "")) ∧
    ¬Outcome.Same ConfigFault.title? (optionalAddress (some (" " ++ "" ++ "")) "ADMIN_ADDRESS")
      (optionalAddress (some "") "ADMIN_ADDRESS") ∧
    verificationKeyOf (some "") = .ok (List.replicate 32 0) ∧
    verificationKeyOf (some (" " ++ "" ++ "")) = .error (.keyLength 0) ∧
    ¬Outcome.Same ConfigFault.title? (verificationKeyOf (some (" " ++ "" ++ "")))
      (verificationKeyOf (some "")) := by
  have hblank : Text.AreBlanks " ".toList := by decide
  have hnone : Text.AreBlanks "".toList := by decide
  have haddress : optionalAddress (some (" " ++ "" ++ "")) "ADMIN_ADDRESS" =
      .error (.invalidAddress "ADMIN_ADDRESS" (.text "")) := by
    have hsome : ¬(" " ++ "" ++ "" : String).isEmpty = true := by decide
    have htrim : Text.trim (" " ++ "" ++ "") = "" := by decide +kernel
    unfold optionalAddress
    dsimp only
    rw [if_neg hsome, htrim, checksum_empty]
    rfl
  refine ⟨hblank, rfl, haddress, ?_, rfl, rfl, ?_⟩
  · rw [(readsTrimmed_optionalAddress _).same_surrounded_iff hblank hnone]
    exact fun h => absurd (h rfl) (by decide)
  · rw [readsTrimmed_verificationKeyOf.same_surrounded_iff hblank hnone]
    exact fun h => absurd (h rfl) (by decide)

end Settings

end Rollout

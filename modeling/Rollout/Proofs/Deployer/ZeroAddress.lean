import Rollout.Deployer
import Rollout.Proofs.Abi.Overloads
import Rollout.Proofs.Action.Passage
import Rollout.Proofs.Deployer.Plan
import Rollout.Proofs.Standard

/-!
# Deployments that are confirmed twice

Before a deployment the operator is asked whether to deploy, and asked again if
an address of zeros is shown among the arguments. What matters is what is shown:
arguments are shown by name, and an input without a name is shown as `arg0`,
`arg1` and so on, which may be the name of another input. Then the later argument
takes the place of the earlier, and an address of zeros that is hidden so has no
question of its own.

## Main results

* `Deployer.logged_of_deploy`: what has been asked and answered when a deployment
  is logged.
* `Deployer.confirmsTwice_iff`: a deployment is confirmed twice exactly if an
  address of zeros is shown.
-/

namespace Rollout

/-- The address of zeros. -/
def zeroAddress : String := "0x" ++ String.ofList (List.replicate 40 '0')

theorem Action.hasZeroAddress_iff {named : NamedArgs} :
    hasZeroAddress named = true ↔ ∃ name, (name, .text zeroAddress) ∈ named := by
  unfold hasZeroAddress
  rw [List.any_eq_true]
  constructor
  · rintro ⟨⟨name, v⟩, hmem, htext⟩
    have hv : v = .text zeroAddress := (Value.isText_iff v _).mp htext
    exact ⟨name, hv ▸ hmem⟩
  · rintro ⟨name, hmem⟩
    exact ⟨_, hmem, (Value.isText_iff _ _).mpr rfl⟩

/-- The address of zeros is at a position of which the name is taken by no later one. -/
def Arguments.ShowsZeroAddress (inputs : List Input) (args : List Value) : Prop :=
  ∃ i : Nat, args[i]? = some (.text zeroAddress) ∧
    ∀ j > i, (shownNames inputs)[j]? ≠ (shownNames inputs)[i]?

/-- The operator is asked about an address of zeros exactly if it is shown. -/
theorem Arguments.hasZeroAddress_constructorNamed_iff {inputs : List Input} {args : List Value}
    (hlen : args.length = inputs.length) :
    Action.hasZeroAddress (constructorNamed 0 [] args inputs) = true ↔
      ShowsZeroAddress inputs args := by
  have hnames : (shownNames inputs).length = args.length := by
    rw [shownNames, List.length_mapIdx, hlen]
  have hzip : ∀ (i : Nat) (a : Option String × Value),
      (((shownNames inputs).map some).zip args)[i]? = some a ↔
        (∃ s, (shownNames inputs)[i]? = some s ∧ a.1 = some s) ∧ args[i]? = some a.2 := by
    rintro i ⟨name, v⟩
    rw [List.getElem?_zip_eq_some, List.getElem?_map, Option.map_eq_some_iff]
    simp only [eq_comm]
  rw [Action.hasZeroAddress_iff]
  simp only [constructorNamed_eq, NamedArgs.mem_putAll_iff, hzip]
  constructor
  · rintro ⟨name, i, ⟨⟨s, hs, rfl⟩, hzero⟩, hlast⟩
    refine ⟨i, hzero, fun j hj hsame => ?_⟩
    rw [hs] at hsame
    -- A later position with the same name would have an argument under it.
    have hlt : j < args.length := by
      rw [← hnames]
      exact (List.getElem?_eq_some_iff.mp hsame).1
    exact hlast j hj (some s, args[j]) ⟨⟨s, hsame, rfl⟩, List.getElem?_eq_getElem hlt⟩ rfl
  · rintro ⟨i, hzero, hlast⟩
    have hlt : i < (shownNames inputs).length := by
      rw [hnames]
      exact (List.getElem?_eq_some_iff.mp hzero).1
    have hs := List.getElem?_eq_getElem hlt
    refine ⟨some (shownNames inputs)[i], i, ⟨⟨_, hs, rfl⟩, hzero⟩, ?_⟩
    rintro j hj ⟨name, v⟩ ⟨⟨s, hsj, rfl⟩, -⟩ hsame
    refine hlast j hj ?_
    rw [hs, hsj]
    exact hsame

/-! ## One line -/

namespace World

/-- A fresh world where one line has been typed, which is no refusal. -/
def oneLine : World := { fresh with input := ['y', '\n'] }

theorem letsPass_oneLine : Action.LetsPass oneLine.input 1 :=
  ⟨(['y'], []), rfl, by decide, trivial⟩

theorem not_letsPass_oneLine : ¬Action.LetsPass oneLine.input 2 := by
  rintro ⟨line, hline, -, line', hline', -⟩
  cases hline
  cases hline'

end World

namespace Deployer

/-- The question about an address of zeros. -/
def zeroAddressQuestion : String := "Zero Address detected for deployment parameter; Continue?"

/-- The questions about a deployment with the arguments that are shown. -/
def deploymentQuestions (contract : String) (shown : NamedArgs) : List String :=
  ("Deploy " ++ contract) :: if Action.hasZeroAddress shown then [zeroAddressQuestion] else []

variable {d : Deployer} {t : ContractType} {args : List Value} {named : NamedArgs}

theorem askDeployment_puts (t : ContractType) (named : NamedArgs) :
    (Action.askDeployment t.name named).Puts (deploymentQuestions t.name named) :=
  .askDeployment t.name named

/-- What is left of a deployment when its questions have been answered. -/
def deploySubmission (t : ContractType) (args : List Value) : Action Contract := do
  let address ← Action.submitDeployment (.deploy t.name args)
  Action.say (.deployed t.name address)
  return { type := t, address := .text address }

/-- Once the arguments have been matched there are the questions, and then the submission. -/
theorem deploy_eq (hasks : d.autosign = false)
    (hnamed : Arguments.forConstructor d.admits t.name t.constructor args = .ok named) :
    d.deploy t args =
      Action.askDeployment t.name named >>= fun _ => deploySubmission t args := by
  unfold deploy constructorArgs
  rw [hnamed, hasks]
  rfl

theorem deploySubmission_follows (t : ContractType) (args : List Value) (w : World) :
    (deploySubmission t args).Follows w [.deploy t.name args] (fun _ => True) :=
  .bind_quiet (.submitDeployment rfl) fun _ _ _ _ =>
    .quiet_bind (.say _) fun _ _ _ _ => .pure trivial

/-- Nothing more is asked. -/
theorem deploySubmission_keeps (t : ContractType) (args : List Value) (w : World) :
    (deploySubmission t args).Keeps World.asked w := by
  refine .bind (.submitDeployment (fun _ _ => rfl) _ w) fun address w' _ => ?_
  refine .bind (.say ?_) fun _ _ _ => .pure _
  rw [World.asked_of_notices (w := w') rfl, List.filterMap_cons_none rfl]
  exact List.append_nil _

/-- A deployment needs that all its questions are let pass, and its entry. -/
theorem deploy_needs (hasks : d.autosign = false)
    (hnamed : Arguments.forConstructor d.admits t.name t.constructor args = .ok named)
    (w : World) :
    (d.deploy t args).Needs w True (deploymentQuestions t.name named).length
      [.deploy t.name args] := by
  have hsubmit : ∀ w', (deploySubmission t args).Needs w' True 0 [.deploy t.name args] := by
    intro w'
    have h := (Action.Needs.submitDeployment (w := w') (.deploy t.name args)).bind
      fun address w₂ _ => (Action.Needs.say (w := w₂) (.deployed t.name address)).bind_pure
        (g := fun _ => ({ type := t, address := .text address } : Contract))
    exact h.congr and_self_iff
  have h := ((askDeployment_puts t named).needs w).bind fun _ w₁ _ => hsubmit w₁
  rw [deploy_eq hasks hnamed]
  exact h.congr and_self_iff

/-- A deployment is logged after all its questions have been asked and let pass, and otherwise
nothing is. -/
theorem logged_of_deploy (hasks : d.autosign = false)
    (hnamed : Arguments.forConstructor d.admits t.name t.constructor args = .ok named)
    (w : World) (hlogged : ((d.deploy t args).perform w).2.chain.log ≠ w.chain.log) :
    ((d.deploy t args).perform w).2.chain.log = w.chain.log ++ [.deploy t.name args] ∧
      ((d.deploy t args).perform w).2.asked =
        w.asked ++ deploymentQuestions t.name named ∧
      Action.LetsPass w.input (deploymentQuestions t.name named).length := by
  have hheard := askDeployment_puts t named w
  rw [deploy_eq hasks hnamed, Action.perform_bind] at hlogged ⊢
  generalize (Action.askDeployment t.name named).perform w = out at hheard hlogged ⊢
  obtain ⟨r, w₁⟩ := out
  have hchain : w₁.chain = w.chain := hheard.alike.chain
  have hresult : r = (Action.hear w.input (deploymentQuestions t.name named)).verdict :=
    hheard.result
  unfold Hearing.verdict at hresult
  cases hstop : (Action.hear w.input (deploymentQuestions t.name named)).stop? with
  | some f =>
      rw [hstop] at hresult
      subst hresult
      exact absurd (congrArg Chain.log hchain) hlogged
  | none =>
      rw [hstop] at hresult
      subst hresult
      have hasked : w₁.asked = w.asked ++ deploymentQuestions t.name named := by
        rw [← Action.hear_asked hstop]
        exact hheard.told.asked
      have hkept : ((deploySubmission t args).perform w₁).2.asked = w₁.asked :=
        deploySubmission_keeps t args w₁
      rw [← hchain] at hlogged ⊢
      have hlog := (deploySubmission_follows t args w₁).log_of_singleton.resolve_left hlogged
      exact ⟨hlog, hkept.trans hasked, (Action.hear_stop?_eq_none_iff _ _).mp hstop⟩

/-! ## Both questions -/

/-- A deployment is made exactly if both questions are let pass and the chain does not refuse it.
If they are not let pass nothing is logged, and when the deployment is logged both have been
asked. -/
structure ConfirmsTwice (d : Deployer) (t : ContractType) (args : List Value) (w : World) :
    Prop where
  returns_iff : (∃ c w', (d.deploy t args).perform w = (.ok c, w')) ↔
    w.Grants 2 [.deploy t.name args]
  refused : ¬Action.LetsPass w.input 2 →
    ((d.deploy t args).perform w).2.chain.log = w.chain.log
  confirmed : ((d.deploy t args).perform w).2.chain.log ≠ w.chain.log →
    ((d.deploy t args).perform w).2.chain.log = w.chain.log ++ [.deploy t.name args] ∧
      ((d.deploy t args).perform w).2.asked =
        w.asked ++ ["Deploy " ++ t.name, zeroAddressQuestion]

/-- A deployer that asks deploys on two confirmations, in whatever world, exactly if an address of
zeros is among the arguments that are shown. -/
theorem confirmsTwice_iff (hasks : d.autosign = false)
    (hnamed : Arguments.forConstructor d.admits t.name t.constructor args = .ok named) :
    (∀ w, d.ConfirmsTwice t args w) ↔ Arguments.ShowsZeroAddress t.constructor args := by
  obtain ⟨hshown, hlen, -⟩ := Arguments.forConstructor_eq_ok hnamed
  rw [← Arguments.hasZeroAddress_constructorNamed_iff hlen, ← hshown]
  constructor
  · intro h
    by_contra hzero
    have hquestions : deploymentQuestions t.name named = ["Deploy " ++ t.name] := by
      rw [deploymentQuestions, if_neg hzero]
    -- With one question, a single line is enough to deploy.
    have hone : World.oneLine.Grants 1 [.deploy t.name args] :=
      ⟨World.letsPass_oneLine, nofun⟩
    have hneeds := deploy_needs hasks hnamed World.oneLine
    rw [hquestions] at hneeds
    obtain ⟨c, w, hrun⟩ := hneeds.returns trivial hone
    have hlog : w.chain.log = World.oneLine.chain.log ++ [.deploy t.name args] :=
      ((d.deploy_follows t args).of_ok hrun).1.log
    have hnothing := (h World.oneLine).refused World.not_letsPass_oneLine
    rw [hrun, hlog] at hnothing
    cases hnothing
  · intro hzero w
    have hquestions : deploymentQuestions t.name named =
        ["Deploy " ++ t.name, zeroAddressQuestion] := by
      rw [deploymentQuestions, if_pos hzero]
    have hneeds := deploy_needs hasks hnamed w
    have hlogged := logged_of_deploy hasks hnamed w
    rw [hquestions] at hneeds hlogged
    exact
      { returns_iff := by
          rw [hneeds.returns_iff]
          exact and_iff_right trivial
        refused := fun hno => by
          by_contra hlog
          exact hno (hlogged hlog).2.2
        confirmed := fun hlog => ⟨(hlogged hlog).1, (hlogged hlog).2.1⟩ }

/-- An address of zeros for an input without a name is shown as `arg0`. -/
theorem confirmsTwice_unnamed :
    (Arguments.forConstructor encodable "Vault"
        [⟨none, "address"⟩, ⟨some "owner", "address"⟩] [.text zeroAddress, otherAccount] =
      .ok [(some "arg0", .text zeroAddress), (some "owner", otherAccount)]) ∧
    ∀ w, { standard with autosign := false }.ConfirmsTwice
      ⟨"Vault", [⟨none, "address"⟩, ⟨some "owner", "address"⟩], []⟩
      [.text zeroAddress, otherAccount] w := by
  refine ⟨rfl, (confirmsTwice_iff rfl rfl).mpr ⟨0, rfl, fun j hj => ?_⟩⟩
  match j with
  | 1 => decide
  | j + 2 => exact nofun

/-- An input without a name at the second position takes the name of the first, which is `arg1`, and
an address of zeros for the first is hidden. It is deployed after one question. -/
theorem deploy_hides_zeroAddress :
    (Arguments.forConstructor encodable "Vault"
        [⟨some "arg1", "address"⟩, ⟨none, "address"⟩] [.text zeroAddress, otherAccount] =
      .ok [(some "arg1", otherAccount)]) ∧
    (({ standard with autosign := false }.deploy
        ⟨"Vault", [⟨some "arg1", "address"⟩, ⟨none, "address"⟩], []⟩
        [.text zeroAddress, otherAccount]).perform .oneLine).2.chain.log =
      [.deploy "Vault" [.text zeroAddress, otherAccount]] ∧
    (({ standard with autosign := false }.deploy
        ⟨"Vault", [⟨some "arg1", "address"⟩, ⟨none, "address"⟩], []⟩
        [.text zeroAddress, otherAccount]).perform .oneLine).2.asked = ["Deploy Vault"] ∧
    ¬{ standard with autosign := false }.ConfirmsTwice
      ⟨"Vault", [⟨some "arg1", "address"⟩, ⟨none, "address"⟩], []⟩
      [.text zeroAddress, otherAccount] .oneLine := by
  refine ⟨rfl, rfl, rfl, fun h => ?_⟩
  have hnothing := h.refused World.not_letsPass_oneLine
  cases hnothing

end Deployer

end Rollout

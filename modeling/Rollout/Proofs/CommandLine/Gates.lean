import Rollout.Proofs.CommandLine.Refusals
import Rollout.Proofs.Pipeline.Preflight

/-!
# The gates of a call

Before a call deploys anything it passes a row of gates: the private key is
there, the settings can be put together, pass the check before the start and can
be shown, all artifacts are there, the manifest has a path, the chain is the one
the settings name, the account opens, and the operator agrees. A gate that stays
closed ends the call, and until the last of them is open the call has touched
neither the chain nor the files.

`CommandLine.Cleared` says of the world in which a call starts that all gates are
open. Nothing that happens between two gates closes or opens another: what is
read depends on the files, the account on the keystore, and the answer on what
the operator is going to type, and none of these changes before its gate.

## Main results

* `CommandLine.call_stops_or_clears`: a call ends at a gate, with the chain and
  the files as they were, or all gates are open.
* `CommandLine.call_of_cleared`: where all gates are open, a call is the
  deployment.
-/

namespace Rollout

open Rollout.Action (Keeps)

/-! ## Questions -/

/-- A question that was passed had an answer, and no refusal. -/
theorem Action.answer_of_ask {text : String} {w w' : World}
    (h : (ask text).perform w = (.ok (), w')) :
    ∃ answer rest, nextLine? w.input = some (answer, rest) ∧ isRefusal answer = false := by
  unfold ask at h
  obtain ⟨_, w₁, hsay, h⟩ := perform_bind_eq_ok.mp h
  obtain rfl : { w with notices := w.notices ++ [.question text] } = w₁ := (Prod.mk.inj hsay).2
  rw [perform_get_bind] at h
  dsimp only at h
  split at h
  · cases (Prod.mk.inj h).1
  · rename_i answer rest hline
    refine ⟨answer, rest, hline, ?_⟩
    rw [← Bool.not_eq_true]
    intro hrefusal
    rw [if_pos hrefusal] at h
    cases (Prod.mk.inj h).1

/-- A question with an answer that is no refusal lets pass. -/
theorem Action.ask_of_answer {text : String} {w : World} {answer rest : List Char}
    (hline : nextLine? w.input = some (answer, rest)) (hanswer : isRefusal answer = false) :
    ((ask text).perform w).1 = .ok () := by
  unfold ask
  have htold : (say (.question text)).Keeps World.input w := .say rfl
  obtain ⟨w₁, h₁, hasked⟩ := htold.bind_of_ok (x := ()) rfl
  rw [hasked, perform_get_bind, h₁, hline]
  dsimp only
  rw [hanswer]
  rfl

theorem Action.ask_keeps {γ : Type} {part : World → γ}
    (hpart : ∀ w input notices, part { w with input, notices } = part w) (text : String)
    (w : World) : (ask text).Keeps part w := by
  unfold ask
  refine .bind (.say (hpart w w.input _)) fun _ w₁ _ => .get_bind ?_
  split
  · exact .throw _
  · rename_i answer rest _
    refine .bind (.set (hpart w₁ rest w₁.notices)) fun _ w₂ _ => ?_
    split
    · exact .bind (.say (hpart w₂ w₂.input _)) fun _ _ _ => .throw _
    · exact .pure _

/-! ## Artifacts -/

/-- Where all artifacts were loaded there is one for each contract. -/
theorem Artifacts.map_fst_of_loadEach {directory : Path} {w : World}
    {found : List (ContractKind × Artifact)}
    (h : ((loadEach directory).perform w).1 = .ok found) :
    found.map Prod.fst = ContractKind.all := by
  rcases loadEach_cases directory w with ⟨found', hfound', hfst, -⟩ | ⟨_, _, herror, -⟩
  · rw [h] at hfound'
    cases hfound'
    exact hfst
  · rw [h] at herror
    cases herror

/-- Settings that were shown can be written. -/
theorem Settings.isWritable_of_announce {s : Settings} {w w' : World}
    (h : s.announce.perform w = (.ok (), w')) : s.isWritable = true := by
  unfold announce at h
  split at h
  · assumption
  · cases (Prod.mk.inj h).1

namespace CommandLine

/-- All gates are open for a call in a world. -/
structure Cleared [Address.CaseRule] (x : Surroundings) (o : Options) (w : World) (s : Settings)
    (found : List (ContractKind × Artifact)) (path : Path) (account : Account) : Prop where
  key : x.env.nonempty? "PRIVATE_KEY" = some s.privateKey
  resolved : ((Settings.resolve o.flags x.env none o.params).perform w).1 = .ok s
  preflight : s.preflight = .ok ()
  announced : s.isWritable = true
  loaded : ((Artifacts.loadEach o.contractsDir).perform w).1 = .ok found
  complete : found.map Prod.fst = ContractKind.all
  destination : manifestPath o s = .ok path
  chain : x.connectedChain = s.chainId
  opened : ((Account.load x.addressOf? s.privateKey s.passphrase).perform w).1 = .ok account
  agreed : o.autosign = false → ∃ answer rest,
    Action.nextLine? w.input = some (answer, rest) ∧ Action.isRefusal answer = false

namespace Cleared

variable {x : Surroundings} {o : Options} {w : World} {s : Settings}
  {found : List (ContractKind × Artifact)} {path : Path} {account : Account}

theorem exists_madeOf [Address.CaseRule] (h : Cleared x o w s found path account) :
    ∃ params, (∃ w₁, (Params.load o.params).perform w = (.ok params, w₁)) ∧
      s.MadeOf o.flags x.env s.privateKey params :=
  Settings.exists_madeOf_of_resolve (Prod.ext h.resolved rfl)

theorem recipients [Address.CaseRule] (h : Cleared x o w s found path account) :
    ∃ env, Settings.recipientsOf env = .ok s.recipients := by
  obtain ⟨params, -, hmade⟩ := h.exists_madeOf
  exact ⟨x.env, hmade.recipients⟩

theorem addressOf? [Address.CaseRule] (h : Cleared x o w s found path account) :
    x.addressOf? s.privateKey = some account.address := by
  have hopened := h.opened
  rw [Account.perform_load] at hopened
  exact Account.addressOf?_of_opened hopened

end Cleared

/-- How a call ends: at a gate, with the chain and the files as they were, or behind all of them. -/
inductive StopsOrClears [Address.CaseRule] (x : Surroundings) (o : Options) (w : World)
    (out : Except Failure Manifest × World) : Prop
  | stops (f : Failure) (failed : out.1 = .error f) (ofGate : f.IsOfGate)
      (chain : out.2.chain = w.chain) (files : out.2.files = w.files)
  | clears (s : Settings) (found : List (ContractKind × Artifact)) (path : Path)
      (account : Account) (cleared : Cleared x o w s found path account)

/-- What the gates up to the account look at. -/
private abbrev seen (w : World) : Chain × Store × List Char × Keystore :=
  (w.chain, w.files, w.input, w.keystore)

/-- What the operator's answer and the deployment depend on. -/
private abbrev left (w : World) : Chain × Store × List Char := (w.chain, w.files, w.input)

private theorem left_eq {w w' : World} (h : seen w' = seen w) : left w' = left w :=
  congrArg (fun p => (p.1, p.2.1, p.2.2.1)) h

private theorem announce_keeps (s : Settings) (w : World) : s.announce.Keeps seen w := by
  unfold Settings.announce
  split
  · exact .say rfl
  · exact .throw _

private theorem connect_keeps (s : Settings) (w : World) : (connect s).Keeps seen w :=
  .bind (.say rfl) fun _ _ _ => rfl

private theorem load_keeps (addressOf? : String → Option String) (key passphrase : String)
    (w : World) : (Account.load addressOf? key passphrase).Keeps left w := by
  rw [Keeps, Account.perform_load]

/-- When all other gates are open, the operator stops the call or lets it pass. -/
private theorem start_stops_or_clears [Address.CaseRule] {x : Surroundings} {o : Options}
    {w w₁ : World} {s : Settings} {found : List (ContractKind × Artifact)} {account : Account}
    {path : Path}
    (hcleared : (o.autosign = false → ∃ answer rest,
      Action.nextLine? w.input = some (answer, rest) ∧ Action.isRefusal answer = false) →
        Cleared x o w s found path account)
    (hleft : left w₁ = left w) :
    StopsOrClears x o w ((do
      if !o.autosign then Action.askContinue
      let d ← Deployer.start account.address o.autosign x.admits
      Pipeline.run d s (Artifacts.ofList found) path : Action Manifest).perform w₁) := by
  obtain ⟨hchain, hrest⟩ := Prod.mk.inj hleft
  obtain ⟨hfiles, hinput⟩ := Prod.mk.inj hrest
  cases hsigns : o.autosign with
  | true =>
      refine .clears s found path account (hcleared ?_)
      rw [hsigns]
      nofun
  | false =>
      have hkeeps : Action.askContinue.Keeps (fun w => (w.chain, w.files)) w₁ :=
        Action.ask_keeps (fun _ _ _ => rfl) _ w₁
      refine hkeeps.elim (fun f w' hfails h => ?_) fun _ w₂ hask _ => ?_
      · obtain ⟨hchain', hfiles'⟩ := Prod.mk.inj h
        have hgate : f.IsOfGate :=
          Action.FailsOnly.ask "Continue" trivial trivial f (congrArg Prod.fst hfails)
        exact .stops f rfl hgate (hchain'.trans hchain) (hfiles'.trans hfiles)
      · have hanswer := Action.answer_of_ask hask
        rw [hinput] at hanswer
        exact .clears s found path account (hcleared fun _ => hanswer)

/-- When the operator agrees, the deployment runs. -/
private theorem start_of_agreed {x : Surroundings} {o : Options} {w w₁ : World} {s : Settings}
    {artifacts : Artifacts} {path : Path} {account : Account}
    (hagreed : o.autosign = false → ∃ answer rest,
      Action.nextLine? w.input = some (answer, rest) ∧ Action.isRefusal answer = false)
    (hleft : left w₁ = left w) :
    ∃ w₂, w₂.chain = w.chain ∧ w₂.files = w.files ∧
      (do
        Action.say (.starting account.address path.text)
        if !o.autosign then Action.askContinue
        let d ← Deployer.start account.address o.autosign x.admits
        Pipeline.run d s artifacts path : Action Manifest).perform w₁ =
      (Pipeline.run ⟨account.address, o.autosign, x.admits⟩ s artifacts path).perform w₂ := by
  obtain ⟨hchain, hrest⟩ := Prod.mk.inj hleft
  obtain ⟨hfiles, hinput⟩ := Prod.mk.inj hrest
  cases hsigns : o.autosign with
  | true =>
      exact ⟨{ w₁ with notices := w₁.notices ++ [.starting account.address path.text] ++
        [.autosignWarning] }, hchain, hfiles, rfl⟩
  | false =>
      obtain ⟨answer, rest, hline, hanswer⟩ := hagreed hsigns
      let told : World :=
        { w₁ with notices := w₁.notices ++ [.starting account.address path.text] }
      rw [← hinput] at hline
      have hkeeps : Action.askContinue.Keeps (fun w => (w.chain, w.files)) told :=
        Action.ask_keeps (fun _ _ _ => rfl) _ told
      obtain ⟨w₂, h₂, hasked⟩ := hkeeps.bind_of_ok
        (f := fun _ => Pipeline.run ⟨account.address, false, x.admits⟩ s artifacts path)
        (Action.ask_of_answer hline hanswer)
      obtain ⟨hchain', hfiles'⟩ := Prod.mk.inj h₂
      exact ⟨w₂, hchain'.trans hchain, hfiles'.trans hfiles, hasked⟩

/-- A call ends at a gate, or all gates are open. -/
theorem call_stops_or_clears [Address.CaseRule] (x : Surroundings) (o : Options) (w : World) :
    StopsOrClears x o w ((call x o).perform w) := by
  have hleft : ∀ {α : Type} {a : Action α} {w₁ : World}, a.FailsOnly w₁ Failure.IsOfGate →
      left w₁ = left w → ∀ f w', a.perform w₁ = (.error f, w') → left w' = left w₁ →
        StopsOrClears x o w (.error f, w') := by
    intro _ a w₁ hfails h₁ f w' hf h'
    obtain ⟨hchain, hrest⟩ := Prod.mk.inj (h'.trans h₁)
    exact .stops f rfl (hfails f (congrArg Prod.fst hf)) hchain (Prod.mk.inj hrest).1
  have hseen : ∀ {α : Type} {a : Action α} {w₁ : World}, a.FailsOnly w₁ Failure.IsOfGate →
      seen w₁ = seen w → ∀ f w', a.perform w₁ = (.error f, w') → seen w' = seen w₁ →
        StopsOrClears x o w (.error f, w') := by
    intro _ a w₁ hfails h₁ f w' hf h'
    exact hleft hfails (left_eq h₁) f w' hf (left_eq h')
  unfold call
  have hreads := Settings.resolve_readsFiles o.flags x.env none o.params
  refine (hreads.keeps seen (fun _ _ => rfl) w).elim
    (hseen (Settings.resolve_failsOnly _ _ _ _) rfl) fun s w₁ hresolve h₁ => ?_
  refine Keeps.elim (.ofExcept _) (hseen (.ofExcept (Settings.configuration_failsOnly _)) h₁)
    fun _ w₂ hpreflight h₂ => ?_
  replace h₂ := h₂.trans h₁
  refine (announce_keeps s w₂).elim (hseen s.announce_failsOnly h₂) fun _ w₃ hannounce h₃ => ?_
  replace h₃ := h₃.trans h₂
  refine ((Artifacts.loadEach_readsFiles o.contractsDir).keeps seen (fun _ _ => rfl) w₃).elim
    (hseen (Artifacts.loadEach_failsOnly _) h₃) fun found w₄ hload h₄ => ?_
  replace h₄ := h₄.trans h₃
  refine Keeps.elim (.ofExcept _) (hseen (.ofExcept (manifestPath_failsOnly o s)) h₄)
    fun path w₅ hpath h₅ => ?_
  replace h₅ := h₅.trans h₄
  refine (connect_keeps s w₅).elim (hseen (connect_failsOnly s) h₅) fun _ w₆ _ h₆ => ?_
  replace h₆ := h₆.trans h₅
  refine Keeps.elim (.ofExcept _) (hseen (.ofExcept (s.checkChain_failsOnly _)) h₆)
    fun _ w₇ hchain h₇ => ?_
  replace h₇ := h₇.trans h₆
  refine (load_keeps x.addressOf? s.privateKey s.passphrase w₇).elim
    (hleft (Account.load_failsOnly _ _ _) (left_eq h₇)) fun account w₈ hopen h₈ => ?_
  replace h₈ := h₈.trans (left_eq h₇)
  have htold : (Action.say (.starting account.address path.text)).Keeps left w₈ := .say rfl
  refine htold.elim (hleft (.say _) h₈) fun _ w₉ _ h₉ => ?_
  replace h₉ := h₉.trans h₈
  refine start_stops_or_clears (fun hagreed => ?_) h₉
  obtain ⟨key, document, hkey, _, hparams⟩ := Settings.resolve_eq_ok hresolve
  have hfiles : w₃.files = w.files := congrArg (·.2.1) h₃
  have hkeystore : w₇.keystore = w.keystore := congrArg (·.2.2.2) h₇
  exact
    { key := by rw [hkey, (Settings.ofParams_eq_ok hparams).privateKey]
      resolved := by rw [hresolve]
      preflight := Outcome.mapError_eq_ok.mp (Action.eq_ok_of_perform_ofExcept hpreflight)
      announced := Settings.isWritable_of_announce hannounce
      loaded := by rw [← (Artifacts.loadEach_readsFiles _).result_eq hfiles, hload]
      complete := Artifacts.map_fst_of_loadEach (congrArg Prod.fst hload)
      destination := Action.eq_ok_of_perform_ofExcept hpath
      chain := Settings.checkChain_eq_ok_iff.mp (Action.eq_ok_of_perform_ofExcept hchain)
      opened := by rw [← Account.load_result_eq hkeystore, hopen]
      agreed := hagreed }

/-- A gate that needs nothing of the world, and is open. -/
private theorem ofExcept_bind {α β : Type} {r : Except Failure α} {v : α} {g : α → Action β}
    {w : World} (h : r = .ok v) :
    (Action.ofExcept r >>= g).perform w = (g v).perform w := by
  subst h
  rfl

/-- Where all gates are open, a call is the deployment. -/
theorem call_of_cleared [Address.CaseRule] {x : Surroundings} {o : Options} {w : World}
    {s : Settings} {found : List (ContractKind × Artifact)} {path : Path} {account : Account}
    (h : Cleared x o w s found path account) :
    ∃ w₁, w₁.chain = w.chain ∧ w₁.files = w.files ∧
      (call x o).perform w = (Pipeline.run ⟨account.address, o.autosign, x.admits⟩ s
        (Artifacts.ofList found) path).perform w₁ := by
  unfold call
  have hreads := Settings.resolve_readsFiles o.flags x.env none o.params
  obtain ⟨w₁, h₁, hcall⟩ := (hreads.keeps seen (fun _ _ => rfl) w).bind_of_ok h.resolved
  rw [hcall, ofExcept_bind (by rw [h.preflight]; rfl)]
  obtain ⟨w₂, h₂, hcall⟩ := (announce_keeps s w₁).bind_of_ok (x := ())
    (by rw [Settings.announce, if_pos h.announced]; rfl)
  replace h₂ := h₂.trans h₁
  have hfiles : w₂.files = w.files := congrArg (·.2.1) h₂
  have hloads := Artifacts.loadEach_readsFiles o.contractsDir
  obtain ⟨w₃, h₃, hcall'⟩ := (hloads.keeps seen (fun _ _ => rfl) w₂).bind_of_ok
    (by rw [hloads.result_eq hfiles, h.loaded])
  replace h₃ := h₃.trans h₂
  rw [hcall, hcall', ofExcept_bind h.destination]
  obtain ⟨w₄, h₄, hcall⟩ := (connect_keeps s w₃).bind_of_ok (x := ()) rfl
  replace h₄ := h₄.trans h₃
  rw [hcall, ofExcept_bind (Settings.checkChain_eq_ok_iff.mpr h.chain)]
  have hkeystore : w₄.keystore = w.keystore := congrArg (·.2.2.2) h₄
  obtain ⟨w₅, h₅, hcall⟩ := (load_keeps x.addressOf? s.privateKey s.passphrase w₄).bind_of_ok
    (by rw [Account.load_result_eq hkeystore, h.opened])
  replace h₅ := h₅.trans (left_eq h₄)
  rw [hcall]
  exact start_of_agreed h.agreed h₅

end CommandLine

end Rollout

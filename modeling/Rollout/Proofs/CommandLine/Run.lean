import Rollout.Proofs.CommandLine.Deployment

/-!
# What a command does

A command tells something, or it makes a call, and ends as the call does.

## Main results

* `CommandLine.run_clears_gates`: what has reached the chain has passed all
  gates, and a foreseen failure, apart from arguments that do not fit, is that of a
  gate.
* `CommandLine.run_completes_iff`: once the chain has been touched, it depends on
  the place of the manifest whether the command completes.
-/

namespace Rollout

namespace CommandLine

/-! ## How a command ends -/

/-- How a command ends whose call has ended so. -/
def ended (out : Except Failure Manifest × World) : Outcome × World :=
  match out with
  | (.ok _, w) => (⟨0, "", none⟩, w)
  | (.error f, w) => (Outcome.ofFailure f, w)

@[simp] theorem ended_world (out : Except Failure Manifest × World) : (ended out).2 = out.2 := by
  rcases out with ⟨r, w⟩
  cases r <;> rfl

/-- A command whose call has returned ends well. -/
theorem ended_of_ok {out : Except Failure Manifest × World} {m : Manifest} (h : out.1 = .ok m) :
    (ended out).1 = ⟨0, "", none⟩ := by
  rcases out with ⟨r, w⟩
  cases h
  rfl

/-- A command whose call has failed ends so. -/
theorem ended_of_error {out : Except Failure Manifest × World} {f : Failure}
    (h : out.1 = .error f) : (ended out).1 = Outcome.ofFailure f := by
  rcases out with ⟨r, w⟩
  cases h
  rfl

theorem failure?_ofFailure (f : Failure) : (Outcome.ofFailure f).failure? = some f := by
  unfold Outcome.ofFailure
  split <;> rfl

/-- The failure that a command ends with is that of its call. -/
theorem failure?_ended {out : Except Failure Manifest × World} {f : Failure} :
    (ended out).1.failure? = some f ↔ out.1 = .error f := by
  rcases out with ⟨r, w⟩
  cases r with
  | ok m => exact ⟨nofun, nofun⟩
  | error e =>
      show (Outcome.ofFailure e).failure? = some f ↔ _
      rw [failure?_ofFailure, Option.some.injEq, Except.error.injEq]

/-- A command that is not asked for help makes a call, and ends as the call does. -/
theorem run_of_parse [Address.CaseRule] {x : Surroundings} {args : List String} {w : World}
    {o : Options} (hparse : parse w.files args = .ok o) (hhelp : o.help = false) :
    run x args w = ended ((call x o).perform w) := by
  unfold run
  rw [hparse]
  dsimp only
  unfold answer
  rw [if_neg (by rw [hhelp]; exact Bool.false_ne_true), Action.perform_bind]
  rcases (call x o).perform w with ⟨r, w'⟩
  cases r <;> rfl

/-- A command does nothing but tell something, or it makes a call. -/
theorem run_tells_or_calls [Address.CaseRule] (x : Surroundings) (args : List String) (w : World) :
    ((run x args w).2.chain = w.chain ∧ (run x args w).2.files = w.files ∧
      ∀ f, (run x args w).1.failure? = some f → ∃ e, f = .file e) ∨
    ∃ o, parse w.files args = .ok o ∧ o.help = false ∧
      run x args w = ended ((call x o).perform w) := by
  cases hparse : parse w.files args with
  | error refusal =>
      refine .inl ?_
      unfold run
      rw [hparse]
      cases refusal with
      | usage f => exact ⟨rfl, rfl, nofun⟩
      | file e =>
          refine ⟨rfl, rfl, fun f hf => ⟨e, ?_⟩⟩
          rw [failure?_ofFailure] at hf
          exact (Option.some.inj hf).symm
  | ok o =>
      cases hhelp : o.help with
      | true =>
          refine .inl ?_
          unfold run
          rw [hparse]
          dsimp only
          unfold answer
          rw [if_pos hhelp]
          exact ⟨rfl, rfl, by rintro _ ⟨⟩⟩
      | false => exact .inr ⟨o, rfl, hhelp, run_of_parse hparse hhelp⟩

/-! ## Before the chain is touched -/

/-- A foreseen failure of a deployment that has passed the check before the start is one of
arguments that do not fit. -/
theorem title_of_isOutside {f : Failure} (h : Pipeline.IsOutside f) {title : String}
    (htitle : f.title? = some title) : title = "InvalidArguments" := by
  cases f with
  | arguments f =>
      cases f <;> cases htitle <;> rfl
  | _ => first | exact h.elim | cases htitle

/-- **Every gate is passed before the chain is touched.** Whatever the command line and the world,
if a call has added to the log of the chain, the private key was there, the settings were put
together and passed the check before the start, all six artifacts were loaded, the chain was the one
of the settings, the account was opened, and the operator agreed if asked. So a call that fails for
a foreseen reason, and not because arguments do not fit, has left the chain and the files as they
were; and it never fails because of a placeholder in the manifest, unless an account or a contract
has the placeholder for an address. -/
theorem run_clears_gates [Address.CaseRule] (x : Surroundings) (args : List String) (w : World) :
    ((run x args w).2.chain.log ≠ w.chain.log →
      ∃ o s found path account, parse w.files args = .ok o ∧ o.help = false ∧
        Cleared x o w s found path account) ∧
    (w.chain.AvoidsPlaceholder →
      (∀ key address, x.addressOf? key = some address → address ≠ placeholder) →
      ∀ f, (run x args w).1.failure? = some f →
        (∀ field, f ≠ .placeholderField field) ∧
        ∀ title, f.title? = some title → title ≠ "InvalidArguments" →
          (run x args w).2.chain = w.chain ∧ (run x args w).2.files = w.files) := by
  rcases run_tells_or_calls x args w with ⟨hchain, hfiles, hfile⟩ | ⟨o, hparse, hhelp, hrun⟩
  · refine ⟨fun hlog => absurd (congrArg Chain.log hchain) hlog, fun _ _ f hf => ⟨?_, ?_⟩⟩
    · obtain ⟨e, rfl⟩ := hfile f hf
      nofun
    · exact fun _ _ _ => ⟨hchain, hfiles⟩
  rw [hrun]
  simp only [ended_world, failure?_ended]
  cases call_stops_or_clears x o w with
  | stops f failed ofGate chain files =>
      refine ⟨fun hlog => absurd (congrArg Chain.log chain) hlog, fun _ _ f' hf => ⟨?_, ?_⟩⟩
      · rintro field rfl
        rw [failed] at hf
        cases hf
        exact ofGate
      · exact fun _ _ _ => ⟨chain, files⟩
  | clears s found path account cleared =>
      refine ⟨fun _ => ⟨o, s, found, path, account, hparse, hhelp, cleared⟩,
        fun hc haccount f hf => ?_⟩
      have haccountable : Pipeline.Accountable (deployer x o account) s :=
        { recipients := cleared.recipients
          deployer := haccount _ _ cleared.addressOf? }
      have houtside : Pipeline.IsOutside f := by
        obtain ⟨w₁, hchain, -, hcall⟩ := call_of_cleared cleared
        rw [hcall] at hf
        exact Pipeline.run_failsOnly_of_preflight cleared.preflight haccountable
          (by rwa [hchain]) path f hf
      refine ⟨?_, fun title htitle hother => absurd (title_of_isOutside houtside htitle) hother⟩
      rintro field rfl
      exact houtside

/-- A command with open gates gets to the chain, wherever the manifest is to go. -/
theorem log_standard_ne {args : List String} {manifest : Option Path}
    (hparse : parse World.standard.files args = .ok (standardOptions manifest)) :
    (run .standard args .standard).2.chain.log ≠ World.standard.chain.log := by
  obtain ⟨s, account, hends⟩ := call_standard_ends manifest
  rw [run_of_parse hparse rfl, ended_world]
  exact hends.log_ne

/-- The same command without a private key. -/
def Surroundings.keyless : Surroundings := { Surroundings.standard with env := .ofList [] }

/-- A command that gets to the chain, and one that ends at the first gate. -/
theorem gates_of_standard_command :
    (run .standard standardArgs .standard).2.chain.log ≠ World.standard.chain.log ∧
    (∃ o s found path account, parse World.standard.files standardArgs = .ok o ∧
      o.help = false ∧ Cleared .standard o .standard s found path account) ∧
    World.standard.chain.AvoidsPlaceholder ∧
    (∀ key address, Surroundings.keyless.addressOf? key = some address → address ≠ placeholder) ∧
    ∃ f title, (run .keyless standardArgs .standard).1.failure? = some f ∧
      f.title? = some title ∧ title ≠ "InvalidArguments" ∧
      (run .keyless standardArgs .standard).2.chain = World.standard.chain ∧
      (run .keyless standardArgs .standard).2.files = World.standard.files := by
  have hlog := log_standard_ne parse_standard
  have hc : World.standard.chain.AvoidsPlaceholder :=
    Chain.fresh_givesAddresses.avoidsPlaceholder
  have haccount : ∀ key address, Surroundings.keyless.addressOf? key = some address →
      address ≠ placeholder :=
    fun _ _ h => ne_placeholder_of_isAddress (isAddress_of_addressOfKey? h)
  have hfails : (run .keyless standardArgs .standard).1.failure? =
      some (.configuration .missingCredential) := rfl
  obtain ⟨hcleared, -⟩ := run_clears_gates .standard standardArgs .standard
  obtain ⟨-, hkeeps⟩ := run_clears_gates .keyless standardArgs .standard
  have htitle : ("MissingCredential" : String) ≠ "InvalidArguments" := by decide
  exact ⟨hlog, hcleared hlog, hc, haccount, _, _, hfails, rfl, htitle,
    (hkeeps hc haccount _ hfails).2 _ rfl htitle⟩

/-! ## Once the chain has been touched -/

/-- **Once the chain has been touched, only the place of the manifest matters.** Let the deployer
sign on its own, the contracts be the standard ones and what the call finds be reliable. A command
that has added to the log of the chain has added the whole script to it. It completes exactly if the
files receive the manifest at its path; then the file there is read as the manifest, and otherwise
the command fails with an error of a file. -/
theorem run_completes_iff [Address.CaseRule] (x : Surroundings) (args : List String) (w : World)
    (hx : x.Reliable w.chain) {o : Options} (hparse : parse w.files args = .ok o)
    (hsigns : o.autosign = true)
    (hcontracts : ∀ found, ((Artifacts.loadEach o.contractsDir).perform w).1 = .ok found →
      Artifacts.ofList found = .standard)
    (hlog : (run x args w).2.chain.log ≠ w.chain.log) :
    ∃ s found path account, Cleared x o w s found path account ∧
      (run x args w).2.chain.log =
        w.chain.log ++ Pipeline.script s w.chain (.text account.address) ∧
      ((run x args w).1 = ⟨0, "", none⟩ ↔ w.files.Receives path) ∧
      (w.files.Receives path → ∃ m,
        Pipeline.Builds (deployer x o account) s .standard w.chain m ∧
        (Manifest.read path).perform (run x args w).2 = (.ok m, (run x args w).2)) ∧
      (¬w.files.Receives path → ∃ e, (run x args w).1 = Outcome.ofFailure (.file e)) := by
  rcases run_tells_or_calls x args w with ⟨hchain, -⟩ | ⟨o', hparse', -, hrun⟩
  · exact absurd (congrArg Chain.log hchain) hlog
  obtain rfl : o = o' := Except.ok.inj (hparse.symm.trans hparse')
  rw [hrun] at hlog ⊢
  rw [ended_world] at hlog ⊢
  cases call_stops_or_clears x o w with
  | stops f failed ofGate chain files => exact absurd (congrArg Chain.log chain) hlog
  | clears s found path account cleared =>
      have hends := call_ends cleared hx hsigns (hcontracts found cleared.loaded)
      refine ⟨s, found, path, account, cleared, hends.log, ⟨fun hdone => ?_, fun hpath => ?_⟩,
        fun hpath => ?_, fun hpath => ?_⟩
      · refine Decidable.byContradiction fun hpath => ?_
        obtain ⟨e, he⟩ := hends.missed hpath
        rw [ended_of_error he] at hdone
        cases hdone
      · obtain ⟨m, -, hreturns, -⟩ := hends.received hpath
        exact ended_of_ok hreturns
      · obtain ⟨m, hbuilds, -, hread⟩ := hends.received hpath
        exact ⟨m, hbuilds, hread⟩
      · obtain ⟨e, he⟩ := hends.missed hpath
        exact ⟨e, ended_of_error he⟩

theorem receives_standard : World.standard.files.Receives .standard := by decide +kernel

/-- Where the compiler's directory is, no file can be put. -/
theorem not_receives_compiled : ¬World.standard.files.Receives ⟨.here, ["zkout"]⟩ := by
  decide +kernel

/-- A command that is told where the manifest is to go completes. -/
theorem standard_command_completes :
    Surroundings.standard.Reliable World.standard.chain ∧
    (∃ o, parse World.standard.files standardArgsTo = .ok o ∧ o.autosign = true ∧
      ∀ found, ((Artifacts.loadEach o.contractsDir).perform .standard).1 = .ok found →
        Artifacts.ofList found = .standard) ∧
    (run .standard standardArgsTo .standard).2.chain.log ≠ World.standard.chain.log ∧
    (run .standard standardArgsTo .standard).1 = ⟨0, "", none⟩ ∧
    ∃ m, (Manifest.read .standard).perform (run .standard standardArgsTo .standard).2 =
      (.ok m, (run .standard standardArgsTo .standard).2) := by
  have hlog := log_standard_ne parse_standardTo
  obtain ⟨s, found, path, account, hcleared, -, hcompletes, hread, -⟩ :=
    run_completes_iff .standard _ .standard reliable_standard parse_standardTo rfl
      contracts_standard hlog
  obtain rfl : Path.standard = path := Except.ok.inj hcleared.destination
  obtain ⟨m, -, hm⟩ := hread receives_standard
  exact ⟨reliable_standard, ⟨_, parse_standardTo, rfl, contracts_standard⟩, hlog,
    hcompletes.mpr receives_standard, m, hm⟩

/-- A command whose manifest is to go where a directory is deploys everything, and fails. -/
theorem standard_command_fails :
    Surroundings.standard.Reliable World.standard.chain ∧
    (∃ o, parse World.standard.files standardArgs = .ok o ∧ o.autosign = true ∧
      ∀ found, ((Artifacts.loadEach o.contractsDir).perform .standard).1 = .ok found →
        Artifacts.ofList found = .standard) ∧
    (run .standard standardArgs .standard).2.chain.log ≠ World.standard.chain.log ∧
    (run .standard standardArgs .standard).1.exitCode = 1 ∧
    ∃ e, (run .standard standardArgs .standard).1.failure? = some (.file e) := by
  obtain ⟨s, account, hends⟩ := call_standard_ends none
  obtain ⟨e, he⟩ := hends.missed not_receives_compiled
  have hrun : (run .standard standardArgs .standard).1 = Outcome.ofFailure (.file e) := by
    rw [run_of_parse parse_standard rfl, ended_of_error he]
  refine ⟨reliable_standard, ⟨_, parse_standard, rfl, contracts_standard⟩,
    log_standard_ne parse_standard, ?_, e, ?_⟩
  all_goals
    rw [hrun]
    rfl

end CommandLine

end Rollout

import Rollout.Proofs.Pipeline.Fitting
import Rollout.Proofs.Pipeline.Record

/-!
# When a deployment completes

Let the chain refuse nothing, the deployer sign on its own and the contracts take
what they are given. Once the check before the start has passed, nothing is left
that could stop a deployment but the last step: the manifest has to be put
somewhere. Whether a file can be put at its path is settled before the start
(`Store.Receives`), but a deployment only finds out at its end.

## Main results

* `Pipeline.Unopposed.execute_returns`: all stages go well.
* `Pipeline.run_ends`: the whole script is submitted, and the run completes
  exactly if the files receive the manifest.
-/

namespace Rollout

/-- Of a manifest with a text all that matters is whether the files receive it. -/
theorem Manifest.write_returns_iff {m : Manifest} (path : Path) (w : World)
    (htext : ∃ text, m.text = .ok text) :
    (∃ w', (m.write path).perform w = (.ok (), w')) ↔ w.files.Receives path := by
  constructor
  · rintro ⟨w', h⟩
    exact receives_of_write h
  · intro h
    obtain ⟨_, w', hwrite⟩ :=
      (write_failsOnly (E := fun _ => False) (.inl h) (.inl htext)).exists_ok
    exact ⟨w', hwrite⟩

namespace Pipeline

variable {d : Deployer} {s : Settings} {artifacts : Artifacts} {c : Chain} {w w₁ : World}
  {m : Manifest}

/-- After the stages a run ends as the writing of the manifest does. -/
theorem run_of_execute_eq_ok (path : Path)
    (h : (execute d s artifacts).perform w = (.ok m, w₁)) :
    (run d s artifacts path).perform w =
      (((m.write path).perform w₁).1.map fun _ => m, ((m.write path).perform w₁).2) := by
  unfold run
  rw [Action.perform_bind, h]
  dsimp only
  rw [Action.perform_bind]
  rcases (m.write path).perform w₁ with ⟨r, w₂⟩
  cases r <;> rfl

/-- Nobody and nothing stands against a deployment of the standard contracts: it signs on its own,
the chain refuses nothing, the contracts take what they are given, and all that is put on record is
known. -/
structure Unopposed [Address.CaseRule] (d : Deployer) (s : Settings) (c : Chain) : Prop where
  signs : d.autosign = true
  unfaulted : c.fault = none
  addresses : c.GivesAddresses
  fits : Fits d s .standard c
  preflight : s.preflight = .ok ()
  accountable : Accountable d s
  wired : ∀ dep, (s.wired c dep).IsAddress

namespace Unopposed

variable {path : Path}

/-- All stages of such a deployment go well. -/
theorem execute_returns [Address.CaseRule] (h : Unopposed d s w.chain) :
    ∃ m w₁, (execute d s .standard).perform w = (.ok m, w₁) := by
  refine (execute_failsOnly ⟨.inl h.signs, .inl h.unfaulted⟩ (.inl h.fits) fun f hf => ?_).exists_ok
  have hc := h.addresses.avoidsPlaceholder
  obtain ⟨m, hm⟩ := build_of_preflight .standard h.preflight h.accountable hc hc _ _
  rw [proxyAddress, implementationAddress, hm] at hf
  cases hf

/-- The fields of its manifest are texts or nothing. -/
theorem isPlain_fields [Address.CaseRule] (h : Unopposed d s c)
    (hbuilds : Builds d s .standard c m) :
    ∀ f ∈ m.fields, Json.isPlain f.2 = true := by
  obtain ⟨env, henv⟩ := h.accountable.recipients
  refine Pipeline.isPlain_fields (fun p hp => ?_) hbuilds fun dep => ?_
  · exact (Settings.isAddressOrNull_of_recipientsOf henv p hp).isSetOrNull
  · obtain ⟨a, ha, _⟩ := h.wired dep
    rw [s.get_wiring, ha]
    rfl

end Unopposed

/-- How such a deployment ends that starts with the given chain and files: it has submitted the
whole script, and its manifest is at the path, or it cannot be put there. -/
structure Ends (d : Deployer) (s : Settings) (path : Path) (c : Chain) (files : Store)
    (out : Except Failure Manifest × World) : Prop where
  log : out.2.chain.log = c.log ++ script s c (.text d.address)
  received : files.Receives path → ∃ m, Builds d s .standard c m ∧ out.1 = .ok m ∧
    (Manifest.read path).perform out.2 = (.ok m, out.2)
  missed : ¬files.Receives path → ∃ e, out.1 = .error (.file e)

/-- It has added to the log. -/
theorem Ends.log_ne {path : Path} {files : Store} {out : Except Failure Manifest × World}
    (h : Ends d s path c files out) : out.2.chain.log ≠ c.log := by
  intro hsame
  rw [h.log] at hsame
  exact script_ne_nil s c _ (List.append_right_eq_self.mp hsame)

theorem run_ends [Address.CaseRule] (h : Unopposed d s w.chain) (path : Path) :
    Ends d s path w.chain w.files ((run d s .standard path).perform w) := by
  obtain ⟨m, w₁, hexecute⟩ := h.execute_returns
  obtain ⟨hacc, hbuilds, -, -⟩ :=
    (execute_follows d s w Artifacts.standard_name).of_ok hexecute
  have hplain := h.isPlain_fields hbuilds
  have htext : ∃ text, m.text = .ok text := by
    obtain ⟨text, htext, -⟩ := Manifest.exists_text hplain
    exact ⟨text, htext⟩
  have hwrites := Manifest.write_returns_iff path w₁ htext
  rw [hacc.files] at hwrites
  rw [run_of_execute_eq_ok path hexecute]
  refine { log := ?_, received := fun hpath => ?_, missed := fun hpath => ?_ }
  · have hkeeps : ((m.write path).perform w₁).2.chain = w₁.chain := m.write_keepsChain path w₁
    rw [hkeeps, hacc.log]
  · obtain ⟨w', hwrite⟩ := hwrites.mpr hpath
    rw [hwrite]
    exact ⟨m, hbuilds, rfl, Manifest.read_of_write hplain hwrite⟩
  · have hfails : (m.write path).FailsOnly w₁ fun f => ∃ e, f = .file e :=
      Manifest.write_failsOnly (.inr fun e => ⟨e, rfl⟩) (.inl htext)
    rcases hwrite : (m.write path).perform w₁ with ⟨r, w'⟩
    cases r with
    | ok u => exact absurd (hwrites.mp ⟨w', hwrite⟩) hpath
    | error f =>
        obtain ⟨e, rfl⟩ := hfails f (by rw [hwrite])
        exact ⟨e, rfl⟩

end Pipeline

end Rollout

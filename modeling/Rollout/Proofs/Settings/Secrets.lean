import Rollout.Proofs.Action.Appearance
import Rollout.Settings.Resolve

/-!
# Credentials in settings

Settings carry two credentials: the private key and the passphrase. They are the
last thing to be put in, when all else has been read and checked, so two
environments that differ in nothing else fail alike or give settings that differ
in nothing else.

What is shown of settings, and what is decided before the start, is made of the
other parts.

## Main results

* `Settings.resolve_secrets`: settings from environments that differ in
  credentials.
* `Settings.SameButSecrets.announce`: settings are shown without credentials.
-/

namespace Rollout

/-- Environments that differ at most in the private key and the passphrase. -/
def Environ.SameButSecrets (env env' : Environ) : Prop :=
  ∀ name, name ≠ "PRIVATE_KEY" → name ≠ "DEPLOYER_PASSPHRASE" → env' name = env name

namespace Settings

/-- The settings with other credentials. -/
def withSecrets (s : Settings) (key passphrase : String) : Settings :=
  { s with privateKey := key, passphrase }

/-- Settings that differ at most in the private key and the passphrase. -/
def SameButSecrets (s s' : Settings) : Prop := ∃ key passphrase, s' = s.withSecrets key passphrase

/-! ## Putting settings together -/

section

variable {env env' : Environ} (henv : env.SameButSecrets env')

include henv

theorem dependenciesOf_secrets [Address.CaseRule] (d : Yaml.Document) (constants : Yaml.Item) :
    dependenciesOf env' d constants = dependenciesOf env d constants := by
  rw [dependenciesOf, dependenciesOf, henv "SP1_VERIFIER_ADDRESS" (by decide) (by decide)]

theorem recipientsOf_secrets [Address.CaseRule] : recipientsOf env' = recipientsOf env := by
  rw [recipientsOf, recipientsOf, henv "ADMIN_ADDRESS" (by decide) (by decide),
    henv "UNLIMITED_CREATOR_ADDRESS" (by decide) (by decide),
    henv "REGISTRAR_ADDRESS" (by decide) (by decide)]

/-- The credentials are put in last. -/
theorem ofParams_secrets [Address.CaseRule] (flags : Flags) (key key' : String)
    (params : Yaml.Document) :
    ofParams flags env' key' params =
      (ofParams flags env key params).map fun s =>
        s.withSecrets key' ((env'.nonempty? "DEPLOYER_PASSPHRASE").getD key') := by
  unfold ofParams
  simp only [Outcome.map_bind, dependenciesOf_secrets henv, recipientsOf_secrets henv,
    henv "SP1_VKEY" (by decide) (by decide)]
  rfl

/-- Both environments have a private key, so both fail alike, or the settings differ in nothing but
the credentials. -/
theorem resolve_secrets [Address.CaseRule] (hkey : (env.nonempty? "PRIVATE_KEY").isSome = true)
    (hkey' : (env'.nonempty? "PRIVATE_KEY").isSome = true) (flags : Flags)
    (params : Option Value) (source : Params.Source) :
    ∃ key passphrase, resolve flags env' params source =
      (fun s => s.withSecrets key passphrase) <$> resolve flags env params source := by
  obtain ⟨key, hkey⟩ := Option.isSome_iff_exists.mp hkey
  obtain ⟨key', hkey'⟩ := Option.isSome_iff_exists.mp hkey'
  refine ⟨key', (env'.nonempty? "DEPLOYER_PASSPHRASE").getD key', ?_⟩
  have hmade : ∀ document,
      Action.ofExcept (ofParams flags env' key' document) =
        (fun s => s.withSecrets key' ((env'.nonempty? "DEPLOYER_PASSPHRASE").getD key')) <$>
          Action.ofExcept (ofParams flags env key document) := by
    intro document
    rw [ofParams_secrets henv flags key key']
    cases ofParams flags env key document <;> rfl
  rw [resolve, resolve, hkey, hkey']
  cases params <;> simp only [hmade, map_bind]

end

/-! ## What is shown and decided -/

namespace SameButSecrets

variable {s s' : Settings} (h : s.SameButSecrets s')

include h

theorem summary : s'.summary = s.summary := by
  obtain ⟨key, passphrase, rfl⟩ := h
  rfl

theorem isWritable : s'.isWritable = s.isWritable := by
  obtain ⟨key, passphrase, rfl⟩ := h
  rfl

theorem preflight : s'.preflight = s.preflight := by
  obtain ⟨key, passphrase, rfl⟩ := h
  rfl

theorem checkChain (connected : Int) : s'.checkChain connected = s.checkChain connected := by
  obtain ⟨key, passphrase, rfl⟩ := h
  rfl

/-- What is told of the settings reads the same. -/
theorem announce : Action.LooksLike s.announce s'.announce := by
  have htext : (Notice.settings s').text = (Notice.settings s).text := by
    obtain ⟨key, passphrase, rfl⟩ := h
    rfl
  rw [Settings.announce, Settings.announce, h.isWritable]
  split
  · exact .say htext
  · exact .throw _

end SameButSecrets

end Settings

end Rollout

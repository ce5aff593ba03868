import Rollout.Proofs.CommandLine.Gates
import Rollout.Proofs.Pipeline.Completion

/-!
# The deployment behind the gates

When all gates are open, the settings and the account are known to be such that
the standard contracts take all that they are going to be given. Where besides
the operator is not asked and the chain refuses nothing, a call ends as a
deployment does that nobody and nothing stands against.

## Main results

* `CommandLine.Cleared.unopposed`: nothing stands against the deployment.
* `CommandLine.call_ends`: how a call ends whose gates are open.
* `CommandLine.cleared_standard`: a call whose gates are open, wherever its
  manifest is to go.
-/

namespace Rollout

namespace CommandLine

/-- What a call finds can be relied on: arguments are encoded as contracts do, what is called an
address is one, and the chain refuses nothing and has an identifier for every role. -/
structure Surroundings.Reliable (x : Surroundings) (c : Chain) : Prop where
  encodes : x.admits = encodable
  accounts : ∀ key address, x.addressOf? key = some address → Address.isAddress address = true
  unfaulted : c.fault = none
  addresses : c.GivesAddresses
  roles : c.KnowsRoles

/-- The account of a call, as a deployer. -/
abbrev deployer (x : Surroundings) (o : Options) (account : Account) : Deployer :=
  ⟨account.address, o.autosign, x.admits⟩

namespace Cleared

variable {x : Surroundings} {o : Options} {w : World} {s : Settings}
  {found : List (ContractKind × Artifact)} {path : Path} {account : Account}

/-- The deployer of a call whose gates are open has an address. -/
theorem isAddress_account [Address.CaseRule] (h : Cleared x o w s found path account)
    (hx : x.Reliable w.chain) :
    Address.isAddress account.address = true :=
  hx.accounts _ _ h.addressOf?

/-- So have the external contracts. -/
theorem isAddress_wired [Address.CaseRule] (h : Cleared x o w s found path account)
    (hc : w.chain.GivesAddresses) (dep : Dependency) : (s.wired w.chain dep).IsAddress := by
  obtain ⟨params, ⟨_, hload⟩, hmade⟩ := h.exists_madeOf
  exact Settings.isAddress_wired hc h.preflight (Settings.isKnown_of_madeOf hload hmade) dep

/-- The standard contracts fit a call whose gates are open. -/
theorem fits [Address.CaseRule] (h : Cleared x o w s found path account) (hx : x.Reliable w.chain) :
    Pipeline.Fits (deployer x o account) s .standard w.chain := by
  obtain ⟨env, henv⟩ := h.recipients
  obtain ⟨params, -, hmade⟩ := h.exists_madeOf
  exact Pipeline.fits_standard hx.encodes (h.isAddress_account hx) hx.addresses hx.roles
    (h.isAddress_wired hx.addresses) (Settings.isAddressOrNull_of_recipientsOf henv)
    (Settings.length_of_verificationKeyOf hmade.verificationKey)

/-- Nothing stands against the deployment of a call that signs on its own. -/
theorem unopposed [Address.CaseRule] (h : Cleared x o w s found path account)
    (hx : x.Reliable w.chain) (hsigns : o.autosign = true) :
    Pipeline.Unopposed (deployer x o account) s w.chain :=
  { signs := hsigns
    unfaulted := hx.unfaulted
    addresses := hx.addresses
    fits := h.fits hx
    preflight := h.preflight
    accountable := ⟨h.recipients, ne_placeholder_of_isAddress (h.isAddress_account hx)⟩
    wired := h.isAddress_wired hx.addresses }

end Cleared

variable {x : Surroundings} {o : Options} {w : World} {s : Settings}
  {found : List (ContractKind × Artifact)} {path : Path} {account : Account}

/-- How a call ends whose gates are open, with the standard contracts. -/
theorem call_ends [Address.CaseRule] (h : Cleared x o w s found path account)
    (hx : x.Reliable w.chain) (hsigns : o.autosign = true)
    (hfound : Artifacts.ofList found = .standard) :
    Pipeline.Ends (deployer x o account) s path w.chain w.files ((call x o).perform w) := by
  obtain ⟨w₁, hchain, hfiles, hcall⟩ := call_of_cleared h
  have hunopposed : Pipeline.Unopposed (deployer x o account) s w₁.chain := by
    rw [hchain]
    exact h.unopposed hx hsigns
  have hends := Pipeline.run_ends hunopposed path
  rw [hchain, hfiles] at hends
  rw [hcall, hfound]
  exact hends

end CommandLine

/-! ## A call to start with

The standard contracts as a compiler leaves them, a parameter file, and a command line that leads
from there to the test network. In the parameters the manifest is to be called `zkout`, which is
the directory that the compiler has filled. -/

/-- A YAML mapping on one line. -/
def flowText (fields : List (String × List Char)) : List Char :=
  '\x7b' :: [',', ' '].intercalate (fields.map fun f => f.1.toList ++ ':' :: ' ' :: f.2) ++
    ['\x7d']

/-- The inputs of a constructor or a method, as a compiler describes them. -/
def inputsText (inputs : List Input) : List Char :=
  arrayText (inputs.map fun i =>
    objectText [("name", quoted (i.name.getD "")), ("type", quoted i.type)])

/-- What a compiler leaves of a contract. -/
def ContractType.compiled (t : ContractType) : List Char :=
  let constructor :=
    if t.constructor.isEmpty then []
    else [objectText [("type", quoted "constructor"), ("inputs", inputsText t.constructor)]]
  let methods := (t.methods.flatMap Prod.snd).map fun o =>
    objectText [("name", quoted o.name), ("inputs", inputsText o.inputs)]
  objectText [("abi", arrayText (constructor ++ methods)), ("bytecode", quoted "00")]

/-- Parameters without any address. -/
def paramsText : List Char :=
  let network (uri chainId : String) : List Char :=
    flowText [("uri", uri.toList), ("chain_id", chainId.toList)]
  flowText
    [("networks", flowText [("mainnet", network "main" "324"), ("testnet", network "test" "300")]),
     ("constants", flowText (Dependency.all.map fun dep => (dep.constant, placeholder.toList))),
     ("manifest", flowText [("filename", "zkout".toList)])]

deriving instance DecidableEq for ContractType

/-- The standard contracts and the parameters. -/
def Store.standard : Store :=
  let compiled := ContractKind.all.foldl
    (fun (s : Store) k => s.install k.path
      (.file (Text.encode (Artifacts.standard k).compiled)))
    (Store.empty ["work"])
  compiled.install ⟨.here, ["params.yml"]⟩ (.file (Text.encode paramsText))

def World.standard : World := { World.fresh with files := .standard }

theorem ContractKind.mem_all (k : ContractKind) : k ∈ all := by
  cases k <;> decide

/-- What has been loaded is known if it is known of each contract. -/
theorem Artifacts.exists_loadEach_of_map {directory : Path} {w : World} {artifacts : Artifacts}
    (h : ((loadEach directory).perform w).1.toOption.map
      (fun found => ContractKind.all.map (ofList found)) =
        some (ContractKind.all.map artifacts)) :
    ∃ found, ((loadEach directory).perform w).1 = .ok found ∧ ofList found = artifacts := by
  obtain ⟨found, hfound, hsame⟩ := Option.map_eq_some_iff.mp h
  refine ⟨found, Outcome.eq_ok_of_toOption hfound, funext fun k => ?_⟩
  exact List.map_inj_left.mp hsame k k.mem_all

namespace CommandLine

/-- The private key with the number one. -/
def standardKey : String := "0000000000000000000000000000000000000000000000000000000000000001"

/-- The test network, and nothing but a private key in the environment. -/
def Surroundings.standard : Surroundings :=
  { env := .ofList [("PRIVATE_KEY", standardKey)]
    connectedChain := 300
    admits := encodable
    addressOf? := addressOfKey? }

/-- A command line that leaves the place of the manifest to the parameters. -/
def standardArgs : List String := ["--autosign", "--params", "params.yml"]

/-- One that says where the manifest is to go. -/
def standardArgsTo : List String := standardArgs ++ ["--manifest", "out/deployment.json"]

/-- What these command lines say. -/
def standardOptions (manifest : Option Path) : Options :=
  { flags := ⟨false, false⟩
    autosign := true
    params := .file ⟨.here, ["params.yml"]⟩
    contractsDir := ⟨.here, []⟩
    manifest
    help := false }

theorem parse_standard :
    parse World.standard.files standardArgs = .ok (standardOptions none) := rfl

theorem parse_standardTo :
    parse World.standard.files standardArgsTo = .ok (standardOptions (some .standard)) := rfl

/-- The compiler has left the standard contracts. -/
theorem loadEach_standard : ∃ found,
    ((Artifacts.loadEach ⟨.here, []⟩).perform .standard).1 = .ok found ∧
      Artifacts.ofList found = .standard :=
  Artifacts.exists_loadEach_of_map (by decide +kernel)

/-- What the parameters and the environment make settings of. -/
theorem resolve_standard : ∃ s,
    ((Settings.resolve ⟨false, false⟩ Surroundings.standard.env none
      (.file ⟨.here, ["params.yml"]⟩)).perform .standard).1 = .ok s ∧
    s.privateKey = standardKey ∧ s.passphrase = standardKey ∧ s.preflight = .ok () ∧
    s.isWritable = true ∧ s.chainId = 300 ∧ s.manifestFilename = .text "zkout" := by
  have hparts : ((Settings.resolve ⟨false, false⟩ Surroundings.standard.env none
      (.file ⟨.here, ["params.yml"]⟩)).perform .standard).1.toOption.map
      (fun s => (s.privateKey, s.passphrase, s.preflight.isOk, s.isWritable, s.chainId,
        s.manifestFilename.isText "zkout")) =
      some (standardKey, standardKey, true, true, 300, true) := by
    decide +kernel
  obtain ⟨s, hs, hparts⟩ := Option.map_eq_some_iff.mp hparts
  simp only [Prod.mk.injEq] at hparts
  obtain ⟨hkey, hpassphrase, hpreflight, hwritable, hchain, hname⟩ := hparts
  obtain ⟨⟨⟩, hpass⟩ := Outcome.exists_eq_ok hpreflight
  exact ⟨s, Outcome.eq_ok_of_toOption hs, hkey, hpassphrase, hpass, hwritable, hchain,
    (Value.isText_iff _ _).mp hname⟩

theorem load_standard : ∃ account,
    ((Account.load addressOfKey? standardKey standardKey).perform .standard).1 = .ok account := by
  -- The key is in range; its address is not needed.
  have hkey : (addressOfKey? standardKey).isSome = true := by decide +kernel
  obtain ⟨address, haddress⟩ := Option.isSome_iff_exists.mp hkey
  refine ⟨⟨address, standardKey⟩, ?_⟩
  rw [Account.perform_load, Account.opened_of_free haddress rfl]

/-- All gates are open, wherever the manifest is to go. -/
theorem cleared_standard (manifest : Option Path) : ∃ s found account,
    Cleared .standard (standardOptions manifest) .standard s found
      (manifest.getD ⟨.here, ["zkout"]⟩) account ∧ Artifacts.ofList found = .standard := by
  obtain ⟨s, hs, hkey, hpassphrase, hpass, hwritable, hchain, hname⟩ := resolve_standard
  obtain ⟨found, hfound, hstandard⟩ := loadEach_standard
  obtain ⟨account, haccount⟩ := load_standard
  refine ⟨s, found, account, ?_, hstandard⟩
  exact
    { key := by rw [hkey]; rfl
      resolved := hs
      preflight := hpass
      announced := hwritable
      loaded := hfound
      complete := Artifacts.map_fst_of_loadEach hfound
      destination := by cases manifest <;> rw [manifestPath, hname] <;> rfl
      chain := hchain.symm
      opened := by rw [hkey, hpassphrase]; exact haccount
      agreed := nofun }

theorem contracts_standard : ∀ found,
    ((Artifacts.loadEach ⟨.here, []⟩).perform .standard).1 = .ok found →
      Artifacts.ofList found = .standard := by
  obtain ⟨found, hfound, hstandard⟩ := loadEach_standard
  intro found' hfound'
  rw [hfound] at hfound'
  rw [← Except.ok.inj hfound', hstandard]

theorem reliable_standard : Surroundings.standard.Reliable World.standard.chain :=
  { encodes := rfl
    accounts := fun _ _ => isAddress_of_addressOfKey?
    unfaulted := rfl
    addresses := Chain.fresh_givesAddresses
    roles := Chain.fresh_knowsRoles }

/-- How the call ends, wherever the manifest is to go. -/
theorem call_standard_ends (manifest : Option Path) : ∃ s account,
    Pipeline.Ends (deployer .standard (standardOptions manifest) account) s
      (manifest.getD ⟨.here, ["zkout"]⟩) World.standard.chain World.standard.files
      ((call .standard (standardOptions manifest)).perform .standard) := by
  obtain ⟨s, found, account, hcleared, hfound⟩ := cleared_standard manifest
  exact ⟨s, account, call_ends hcleared reliable_standard rfl hfound⟩

end CommandLine

end Rollout

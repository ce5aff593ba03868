import Rollout.Pipeline
import Rollout.Proofs.Roles.Plan
import Rollout.Proofs.Settings.Recipients

/-!
# The contracts that a deployment expects

A deployment does not choose its contracts; it counts on them to have certain
constructors and methods. `Artifacts.standard` says which: the core contract
with its initializer, its two role methods and its setter, the proxy with an
implementation and call data, and four mocks that take nothing.

`World.fresh` is a world to start from: nothing deployed, nothing refused, an
empty working directory. Its chain answers with the identifiers that the role
names hash to.
-/

namespace Rollout

/-- A method with a single overload, whose inputs all have names. -/
def Overload.single (name : String) (inputs : List (String × String)) :
    String × List Overload :=
  (name, [⟨name, inputs.map fun i => ⟨some i.1, i.2⟩⟩])

/-- The methods of the core contract. -/
def coreMethods : List (String × List Overload) :=
  [Overload.single "initialize"
     [("spokePool", "address"), ("usdt", "address"), ("aggregationRouter", "address")],
   Overload.single "grantRole" [("role", "bytes32"), ("account", "address")],
   Overload.single "revokeRole" [("role", "bytes32"), ("account", "address")],
   Overload.single "setUntronZKVariables" [("verifier", "address"), ("vkey", "bytes32")]]

/-- The interfaces that a deployment expects. -/
def Artifacts.standard : Artifacts
  | .core => { name := ContractKind.name .core, constructor := [], methods := coreMethods }
  | .proxy =>
      { name := ContractKind.name .proxy
        constructor := [⟨some "implementation", "address"⟩, ⟨some "_data", "bytes"⟩]
        methods := [] }
  | k => { name := k.name, constructor := [], methods := [] }

theorem Artifacts.standard_name (k : ContractKind) : (Artifacts.standard k).name = k.name := by
  cases k <;> rfl

/-- The core contract behind a proxy. -/
def Contract.standardCore : Contract :=
  { type := Artifacts.standard .core
    address := .text "0x0000000000000000000000000000000000007070" }

/-! ## A world to start from -/

/-- The identifiers of the roles: zeros for the role that administers all others, and the hash of
the role's name for every other. -/
def standardRoleId? (getter : String) : Option Bytes :=
  if getter = adminGetter then some (List.replicate 32 0)
  else if getter = "UPGRADER_ROLE" then
    Hex.read? "a615a8afb6fffcb8c6809ac0997b5c9c12b8cc97651150f14c8f6203168cff4c"
  else if getter = "UNLIMITED_CREATOR_ROLE" then
    Hex.read? "567184c6a95deeb6bf396dbd3db4e39fff8c92cf58c010f5ea264330fb6fd75b"
  else if getter = "REGISTRAR_ROLE" then
    Hex.read? "d6b769dbdbf190871759edfb79bd17eda0005e1b8c3b6b3f5b480b5604ad5014"
  else none

/-- A chain without contracts that refuses nothing, and gives out addresses in a row. -/
def Chain.fresh : Chain :=
  { log := []
    contracts := 0
    fault := none
    addressOf := fun n => String.ofList ('0' :: 'x' :: Hex.ofNat 40 (0x1000 + n))
    roleId? := standardRoleId? }

/-- A world with nothing but a working directory. -/
def World.fresh : World :=
  { chain := .fresh
    files := .empty ["work"]
    keystore := []
    input := []
    notices := []
    connections := [] }

/-! ## Files to start with -/

/-- A text between quotes. -/
def quoted (s : String) : List Char := '"' :: s.toList ++ ['"']

/-- A JSON object. -/
def objectText (fields : List (String × List Char)) : List Char :=
  '\x7b' :: [','].intercalate (fields.map fun f => quoted f.1 ++ ':' :: f.2) ++ ['\x7d']

/-- A JSON array. -/
def arrayText (items : List (List Char)) : List Char :=
  '[' :: [','].intercalate items ++ [']']

/-- A path to a file below the working directory. -/
def Path.given : Path := ⟨.here, ["given"]⟩

/-- A fresh world with that file and its contents. -/
def World.holding (content : Bytes) : World :=
  { World.fresh with files := (Store.empty ["work"]).install .given (.file content) }

theorem World.look_holding (content : Bytes) :
    (World.holding content).files.look .given = .ok (.file content) := rfl

/-! ## Deployers to start with -/

/-- A deployer that signs without asking. -/
def Deployer.standard : Deployer :=
  { address := "0x00000000000000000000000000000000000000DE"
    autosign := true
    admits := encodable }

/-- The account of this deployer. -/
def Deployer.standardAccount : Value := .text Deployer.standard.address

/-- Somebody else's address. -/
def Deployer.otherAddress : String := "0x0000000000000000000000000000000000004242"

/-- Somebody else's account. -/
def Deployer.otherAccount : Value := .text Deployer.otherAddress

theorem Deployer.otherAccount_ne : Deployer.otherAccount ≠ Deployer.standardAccount := by
  intro h
  exact absurd (Value.text.inj h) (by decide)

/-! ## Settings to start with -/

/-- An environment with recipients for two of the roles. -/
def Environ.standard : Environ :=
  .ofList
    [("PRIVATE_KEY", "key"), ("ADMIN_ADDRESS", Deployer.otherAddress),
     ("REGISTRAR_ADDRESS", Deployer.otherAddress)]

/-- Parameters for the test network, where no external contract has an address. -/
def Params.standard : Value :=
  .mapping
    [(.text "networks", .mapping
      [(.text "testnet", .mapping
        [(.text "uri", .text "zksync:sepolia:node"), (.text "chain_id", .int 300)])]),
     (.text "constants", .mapping
      [(.text "SPOKE_POOL", .text placeholder), (.text "USDT", .text placeholder),
       (.text "AGGREGATION_ROUTER", .text placeholder),
       (.text "SP1_VERIFIER", .text placeholder)])]

/-- The settings that these make. -/
def Settings.standard : Settings :=
  { target := .test
    useMockVerifier := false
    networkUri := .text "zksync:sepolia:node"
    chainId := 300
    privateKey := "key"
    passphrase := "key"
    defaults :=
      { spokePool := .text placeholder
        usdt := .text placeholder
        aggregationRouter := .text placeholder
        sp1Verifier := .text placeholder }
    recipients := ⟨Deployer.otherAccount, .null, Deployer.otherAccount⟩
    verificationKey := List.replicate 32 0
    manifestFilename := .text "deployment.json" }

/-- There is no letter in this address. -/
theorem Deployer.canonical_otherAddress :
    Address.canonicalWith Keccak.digest Deployer.otherAddress = some Deployer.otherAddress := by
  have hdigits : Address.digits? Deployer.otherAddress =
      some (Deployer.otherAddress.toList.drop 2) := by decide +kernel
  have hcases : (Deployer.otherAddress.toList.drop 2).all
      (fun c => Address.lower c == c && Address.upper c == c) = true := by decide +kernel
  simp only [List.all_eq_true, Bool.and_eq_true, beq_iff_eq] at hcases
  rw [Address.canonicalWith, hdigits, Option.map_some,
    Address.canonicalDigits_eq_self Keccak.twenty_le_length_digest
      (Address.spec_of_digits? hdigits).1 (fun c hc => (hcases c hc).1)
      fun c hc => (hcases c hc).2]
  rfl

theorem optionalAddress_otherAddress [Address.CaseRule] (name : String) :
    optionalAddress (some Deployer.otherAddress) name = .ok (some Deployer.otherAddress) := by
  have hsome : ¬Deployer.otherAddress.isEmpty = true := by decide +kernel
  have htrim : Text.trim Deployer.otherAddress = Deployer.otherAddress := by decide +kernel
  have hread : Address.readWith Keccak.digest Address.CaseRule.takes Deployer.otherAddress =
      some Deployer.otherAddress :=
    Address.readWith_of_canonicalWith Keccak.twenty_le_length_digest
      Address.CaseRule.takesCanonical Deployer.canonical_otherAddress
  rw [optionalAddress, if_neg hsome, htrim, checksum, checksumWith, hread]
  rfl

theorem Settings.recipientsOf_standard [Address.CaseRule] :
    Settings.recipientsOf .standard = .ok Settings.standard.recipients := by
  have hadmin : Environ.standard "ADMIN_ADDRESS" = some Deployer.otherAddress := by
    decide +kernel
  have hregistrar : Environ.standard "REGISTRAR_ADDRESS" = some Deployer.otherAddress := by
    decide +kernel
  rw [Settings.recipientsOf, hadmin, hregistrar, optionalAddress_otherAddress,
    optionalAddress_otherAddress]
  rfl

theorem Settings.resolve_standard [Address.CaseRule] :
    (resolve ⟨false, false⟩ .standard (some Params.standard) .packaged).perform .fresh =
      (.ok .standard, .fresh) := by
  have hparams : Settings.ofParams ⟨false, false⟩ .standard "key" (.ofValue Params.standard) =
      .ok Settings.standard := by
    rw [Settings.ofParams, Settings.recipientsOf_standard]
    rfl
  show (Action.ofExcept (Settings.ofParams ⟨false, false⟩ .standard "key"
    (.ofValue Params.standard))).perform .fresh = _
  rw [hparams]
  rfl

theorem Settings.standard_isResolved [Address.CaseRule] : Settings.standard.IsResolved :=
  ⟨⟨false, false⟩, .standard, some Params.standard, .packaged, .fresh, .fresh, resolve_standard⟩

/-- Where the manifest goes. -/
def Path.standard : Path := ⟨.here, ["out", "deployment.json"]⟩

theorem Chain.fresh_tellsRolesApart : Chain.fresh.TellsRolesApart := by
  unfold Chain.TellsRolesApart
  decide +kernel

theorem Chain.fresh_givesAddresses : Chain.fresh.GivesAddresses := fun _ =>
  Address.isAddress_of_digits (Hex.length_ofNat 40 _)
    (List.all_eq_true.mpr Hex.isDigit_of_mem_ofNat)

end Rollout

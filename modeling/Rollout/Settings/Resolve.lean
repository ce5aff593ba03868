import Rollout.Settings.Params

/-!
# Putting settings together

Settings come from the flags of the call, the environment and the parameters.
The private key is the only thing in the environment that has to be there; the
parameters are loaded from their file unless they are given as a value, and a
value is taken as it is, without the checks of a file.

The steps are taken in a fixed order, and the first that fails decides the
failure.
-/

namespace Rollout

/-- The variables of the environment. -/
abbrev Environ := String → Option String

namespace Environ

/-- The names of the variables that matter. -/
def names : List String :=
  ["PRIVATE_KEY", "DEPLOYER_PASSPHRASE", "ADMIN_ADDRESS", "UNLIMITED_CREATOR_ADDRESS",
   "REGISTRAR_ADDRESS", "SP1_VKEY", "SP1_VERIFIER_ADDRESS"]

/-- A variable that is there and not empty. -/
def nonempty? (env : Environ) (name : String) : Option String :=
  (env name).filter fun s => !s.isEmpty

/-- An environment of a list of variables; the first of a name counts. -/
def ofList (pairs : List (String × String)) : Environ :=
  fun name => (pairs.find? (·.1 == name)).map Prod.snd

end Environ

namespace Settings

open Yaml (Document Item)

/-! ## Reading values -/

/-- An entry that has to be there. -/
def lookUp (d : Document) (item : Item) (key : String) : Except Failure Item :=
  match d.entries? item with
  | some entries =>
      match Value.find? entries key with
      | some found => .ok found
      | none => .error (.missingKey key)
  | none => .error .wrongKind

/-- An entry that may be missing. -/
def lookUpOptional (d : Document) (item : Item) (key : String) : Except Failure (Option Item) :=
  match d.entries? item with
  | some entries => .ok (Value.find? entries key)
  | none => .error .notAMapping

def integerOfText (cs : List Char) : Except Failure Int :=
  match Integer.readDecimal? cs with
  | some n => .ok n
  | none => .error .malformedNumber

/-- The integer that a value denotes: a text in decimal, a truth value as zero or one, a floating
point number without its fraction. -/
def integerOf (v : Value) : Except Failure Int :=
  match v with
  | .int n => .ok n
  | .bool b => .ok (if b then 1 else 0)
  | .text s => integerOfText s.toList
  | .bytes bs =>
      if bs.all (· < 128) then integerOfText (bs.map fun b => Char.ofNat b.toNat)
      else .error .malformedNumber
  | .float x =>
      match x with
      | .nan => .error .malformedNumber
      | .infinite _ => .error .infiniteNumber
      | .finite s m e => .ok (((Binary64.finite s m e).truncate?).getD 0)
  | _ => .error .wrongKind

/-- The integer that an item of a document denotes. -/
def integerOfItem (item : Item) : Except Failure Int :=
  match item with
  | .leaf v => integerOf v
  | .shared _ => .error .wrongKind

/-! ## Parts -/

variable [Address.CaseRule]

/-- The verification key: 32 bytes in hexadecimal, zeros where the variable is absent or empty. -/
def verificationKeyOf (s : Option String) : Except ConfigFault Bytes :=
  match s with
  | none => .ok (List.replicate 32 0)
  | some s =>
      if s.isEmpty then .ok (List.replicate 32 0)
      else
        match Hex.read? (Text.trim s) with
        | none => .error .invalidKeyDigits
        | some key => if key.length = 32 then .ok key else .error (.keyLength key.length)

/-- The addresses of the external contracts: constants, with the verifier of the environment in
place of the one among them. -/
def dependenciesOf (env : Environ) (d : Document) (constants : Item) :
    Except Failure Dependencies := do
  let constant (dep : Dependency) : Except Failure Value :=
    (lookUp d constants dep.constant).map d.value
  let verifier ← constant .sp1Verifier
  let override ← (optionalAddress (env "SP1_VERIFIER_ADDRESS") "SP1_VERIFIER_ADDRESS").mapError
    Failure.configuration
  let spokePool ← constant .spokePool
  let usdt ← constant .usdt
  let aggregationRouter ← constant .aggregationRouter
  return {
    spokePool, usdt, aggregationRouter
    sp1Verifier := match override with
      | some address => .text address
      | none => verifier }

def recipientsOf (env : Environ) : Except ConfigFault Recipients := do
  let admin ← optionalAddress (env "ADMIN_ADDRESS") "ADMIN_ADDRESS"
  let creator ← optionalAddress (env "UNLIMITED_CREATOR_ADDRESS") "UNLIMITED_CREATOR_ADDRESS"
  let registrar ← optionalAddress (env "REGISTRAR_ADDRESS") "REGISTRAR_ADDRESS"
  return {
    admin := .ofOption admin
    unlimitedCreator := .ofOption creator
    registrar := .ofOption registrar }

/-- The file name of the manifest where the parameters name none. -/
def usualManifestFilename : String := "deployment.json"

def manifestFilenameOf (d : Document) : Except Failure Value := do
  match ← lookUpOptional d d.root "manifest" with
  | none => return .text usualManifestFilename
  | some part =>
      if d.isEmpty part then return .text usualManifestFilename
      else
        let name ← lookUpOptional d part "filename"
        return (name.map d.value).getD (.text usualManifestFilename)

/-! ## The whole -/

structure Flags where
  mainnet : Bool
  mock : Bool
  deriving DecidableEq, Repr

def Flags.target (f : Flags) : Target := if f.mainnet then .production else .test

/-- The settings of flags, environment and parameters, given the private key. -/
def ofParams (flags : Flags) (env : Environ) (privateKey : String) (params : Document) :
    Except Failure Settings := do
  let networks ← lookUp params params.root "networks"
  let network ← lookUp params networks flags.target.label
  let constants ← lookUp params params.root "constants"
  let defaults ← dependenciesOf env params constants
  let recipients ← (recipientsOf env).mapError Failure.configuration
  let networkUri := params.value (← lookUp params network "uri")
  let chainId ← integerOfItem (← lookUp params network "chain_id")
  let verificationKey ← (verificationKeyOf (env "SP1_VKEY")).mapError Failure.configuration
  let manifestFilename ← manifestFilenameOf params
  return {
    target := flags.target
    useMockVerifier := flags.mock
    networkUri, chainId, privateKey
    passphrase := (env.nonempty? "DEPLOYER_PASSPHRASE").getD privateKey
    defaults, recipients, verificationKey, manifestFilename }

/-- The settings of flags, environment and parameters; parameters that are not given are loaded
from their source. -/
def resolve (flags : Flags) (env : Environ) (params : Option Value) (source : Params.Source) :
    Action Settings := do
  match env.nonempty? "PRIVATE_KEY" with
  | none => throw (.configuration .missingCredential)
  | some privateKey =>
      let params ← match params with
        | some params => pure (Document.ofValue params)
        | none => Params.load source
      Action.ofExcept (ofParams flags env privateKey params)

/-! ## Before the start -/

/-- The external contracts that a deployment needs and whose address is not known. -/
def unresolved (s : Settings) : List Dependency :=
  (if s.mockDependencies then []
   else [.spokePool, .usdt, .aggregationRouter].filter fun d => isUnresolved (s.defaults.get d)) ++
  (if s.mockVerifier then []
   else [Dependency.sp1Verifier].filter fun d => isUnresolved (s.defaults.get d))

/-- Refuses to start where the address of a real contract is not known. -/
def preflight (s : Settings) : Except ConfigFault Unit :=
  if s.unresolved.isEmpty then .ok () else .error (.unresolved s.unresolved)

/-- Shows the settings, unless a number in them is too long for it. -/
def announce (s : Settings) : Action Unit :=
  if s.isWritable then Action.say (.settings s) else throw (.configuration .numberTooLong)

/-- Refuses a chain other than the one the parameters name. The refusal shows both numbers, and
fails of itself where one of them is too long for it. -/
def checkChain (s : Settings) (connected : Int) : Except Failure Unit :=
  if connected = s.chainId then .ok ()
  else if Integer.isWritable s.chainId && Integer.isWritable connected then
    .error (.chainMismatch s.chainId connected)
  else .error (.configuration .numberTooLong)

end Settings

end Rollout

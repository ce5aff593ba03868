import Rollout.World
import Rollout.Yaml.Draft

/-!
# Parameter files

A parameter file is a YAML mapping. `networks` holds, for each target, where the
network is reached and which chain it is; `constants` holds the addresses of the
external contracts; `manifest` may name the file that records the deployment.

`check` finds the first thing that is missing. `canonical` brings the addresses
among the constants to their canonical spelling and leaves a placeholder as it
is. If the constants have an alias elsewhere in the file, it shows the same
addresses.
-/

namespace Rollout

/-! ## Addresses -/

/-- Which addresses with letters of both cases are taken. Some readers take all of them and others
only those whose checksum is right; nothing depends on it but that the latter are taken. -/
class Address.CaseRule where
  takes : String → Bool
  takesCanonical : Address.TakesCanonical Keccak.digest takes

/-- The case of letters does not matter, unless something else is said of it. -/
instance (priority := low) Address.CaseRule.any : Address.CaseRule where
  takes _ := true
  takesCanonical _ _ := rfl

/-- The canonical spelling of the address that a value is, under a hash. -/
def checksumWith (hash : Bytes → Bytes) (takes : String → Bool) (v : Value) (name : String) :
    Except ConfigFault String :=
  match v with
  | .text s =>
      match Address.readWith hash takes s with
      | some address => .ok address
      | none => .error (.invalidAddress name v)
  | _ => .error (if v.isWritable then .invalidAddress name v else .numberTooLong)

variable [Address.CaseRule]

/-- The canonical spelling of the address that a value is. -/
def checksum (v : Value) (name : String) : Except ConfigFault String :=
  checksumWith Keccak.digest Address.CaseRule.takes v name

/-- The canonical spelling of an address that may be absent or empty. Blanks around it count for
nothing, but a text of blanks alone is no address. -/
def optionalAddress (s : Option String) (name : String) :
    Except ConfigFault (Option String) :=
  match s with
  | none => .ok none
  | some s =>
      if s.isEmpty then .ok none
      else do return some (← checksum (.text (Text.trim s)) name)

namespace Params

open Yaml (Document Item Collection)

/-! ## Reading a document -/

def isMapping (d : Document) (item : Item) : Bool := (d.entries? item).isSome

def part? (d : Document) (item : Item) (key : String) : Option Item :=
  (d.entry? item key).filter (isMapping d)

/-- Whether an entry is there and not empty. -/
def isSet (d : Document) (item : Item) (key : String) : Bool :=
  ((d.entry? item key).map fun found => !d.isEmpty found).getD false

/-! ## Checking -/

/-- A network has to say where it is reached and which chain it is. -/
def checkNetwork (d : Document) (networks : Item) (network : String) : Except ConfigFault Unit :=
  match part? d networks network with
  | none => .error (.networkMissing network)
  | some item =>
      if !isSet d item "uri" then .error (.uriMissing network)
      else if !isSet d item "chain_id" then .error (.chainIdMissing network)
      else .ok ()

/-- All targets have to have a network. -/
def checkNetworks (d : Document) : Except ConfigFault Unit :=
  match part? d d.root "networks" with
  | none => .error .networksMissing
  | some networks => Target.all.forM fun target => checkNetwork d networks target.label

/-- A constant in its canonical spelling. -/
def canonicalConstant (v : Value) (name : String) : Except ConfigFault Value :=
  if isUnresolved v then .ok v
  else match v with
    | .null => .error (.constantMissing name)
    | v => do return .text (← checksum v name)

/-- The document with one of the constants, which are the mapping of a number, in its canonical
spelling. -/
def canonicalEntry (id : Nat) (d : Document) (dep : Dependency) : Except ConfigFault Document :=
  let constants := (d.entries? (.shared id)).getD []
  match Value.find? constants dep.constant with
  | none => .error (.constantMissing dep.constant)
  | some item => do
      let v ← canonicalConstant (d.value item) dep.constant
      return d.put id (.mapping (Value.put constants (.text dep.constant) (.leaf v)))

/-- The document with its constants in canonical spelling, wherever the constants occur. -/
def canonical (d : Document) : Except ConfigFault Document :=
  match part? d d.root "constants" with
  | some (.shared id) => Dependency.constants.foldlM (canonicalEntry id) d
  | _ => .error .constantsMissing

/-- The parameters of a document, checked and with canonical addresses. -/
def ofDocument (path : String) (d : Document) : Except ConfigFault Document := do
  if !isMapping d d.root then throw (.paramsMalformed path)
  checkNetworks d
  canonical d

/-! ## Loading -/

/-- The parameters that come with the program. -/
def packaged : String :=
  "deployment:
  name: untron-zksync

networks:
  mainnet:
    uri: https://mainnet.era.zksync.io
    chain_id: 324
  testnet:
    uri: https://testnet.era.zksync.io
    chain_id: 280

manifest:
  filename: deployment.json

constants:
  USDT: \"0x493257fD37EDB34451f62EDf8D2a0C418852bA4C\"
  SPOKE_POOL: \"0xE0B015E54d54fc84a6cB9B666099c46adE9335FF\"
  AGGREGATION_ROUTER: \"0x6fd4383cB451173D5f9304F041C7BCBf27d561fF\"
  SP1_VERIFIER: \"0x...\"
"

/-- Where parameters are taken from: a file, or what comes with the program. -/
inductive Source where
  | packaged
  | file (path : Path)
  deriving DecidableEq, Repr

/-- The path of a source as it is shown. -/
def Source.text : Source → String
  | .packaged => "<default params>"
  | .file path => path.text

def readSource (source : Source) : Action (List Char) := do
  match source with
  | .packaged => return packaged.toList
  | .file path =>
      match (← get).files.read path with
      | .error .notFound => throw (.configuration (.paramsNotFound path.text))
      | _ => Action.readText path

/-- The parameters of a source, checked and with canonical addresses. -/
def load (source : Source) : Action Document := do
  Action.say (.validatingParams source.text)
  let cs ← readSource source
  match Document.ofText cs with
  | .error e => throw (.yaml e)
  | .ok d => Action.ofExcept ((ofDocument source.text d).mapError Failure.configuration)

end Params

end Rollout

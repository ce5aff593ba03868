import Rollout.Artifact.Interface
import Rollout.World

/-!
# Artifacts

A compiler leaves a JSON file for each contract, with its interface and its
creation code. The code is a text, or a text inside an object, in hexadecimal
with or without the mark `0x`; `Artifact.codeOf?` brings all of these to one
form.

`Artifact.ofValue` reads one file's value, and `Artifacts.loadEach` loads every
contract that a deployment may need, in a fixed order, before anything is
deployed.
-/

namespace Rollout

/-- What a compiler's file says of a contract. -/
structure Artifact where
  name : String
  /-- The creation code, in hexadecimal behind `0x`. -/
  code : String
  constructor : List Input
  functions : List Function
  deriving DecidableEq, Repr

namespace Artifact

/-! ## Creation code -/

/-- The text of the creation code: plain, or inside an object. -/
def codeText? (v : Option Value) : Option String :=
  let found := match v with
    | some (.mapping entries) => Value.find? entries "object"
    | other => other
  match found with
  | some (.text s) => if s.isEmpty then none else some s
  | _ => none

/-- The creation code in one form: lower-case digits behind `0x`. -/
def codeOf? (s : String) : Option String :=
  let marked := if "0x".toList.isPrefixOf s.toList then s else "0x" ++ s
  (Hex.read? marked).map fun bytes => "0x" ++ Hex.text bytes

/-! ## Reading -/

/-- The name that a file gives to its contract, if it gives one; nothing if that is no name. -/
def nameOf? (contract : String) (v : Option Value) : Option String :=
  match v with
  | none => some contract
  | some v =>
      if v.isEmpty then some contract
      else match v with
        | .text s => some s
        | _ => none

def ofValue (contract : String) (v : Value) : Except Failure Artifact :=
  match v with
  | .mapping entries =>
      match Value.find? entries "abi" with
      | some (.list abi) =>
          match codeText? (Value.find? entries "bytecode") with
          | none => .error (.artifact (.noBytecode contract))
          | some text => do
              let interface? ← Interface.entries? abi
              match nameOf? contract (Value.find? entries "contractName"), interface?,
                  codeOf? text with
              | some name, some es, some code =>
                  return {
                    name, code
                    constructor := Interface.constructorInputs es
                    functions := Interface.functions es }
              | _, _, _ => .error (.artifact (.malformed contract))
      | _ => .error (.artifact (.noInterface contract))
  | _ => .error .notAMapping

def contractType (a : Artifact) : ContractType :=
  { name := a.name
    constructor := a.constructor
    methods := ContractType.group (a.functions.map Function.overload) }

/-- The artifact of a contract from a file that is there. -/
def ofFile (path : Path) (contract : String) : Action Artifact := do
  match Json.read (← Action.readText path) with
  | .error .malformed => throw (.artifact (.notJson contract path.text))
  | .error e => throw (.json e)
  | .ok v => Action.ofExcept (ofValue contract v)

def load (path : Path) (contract : String) : Action Artifact := do
  match (← get).files.contains path with
  | .error e => throw (.file e)
  | .ok false => throw (.artifact (.notFound contract path.text))
  | .ok true => ofFile path contract

end Artifact

/-! ## The contracts of a deployment -/

/-- The contracts that a deployment may create. -/
inductive ContractKind where
  | core
  | proxy
  | mockUsdt
  | mockSpokePool
  | mockAggregationRouter
  | mockVerifier
  deriving DecidableEq, Repr

namespace ContractKind

def name : ContractKind → String
  | .core => "UntronCore"
  | .proxy => "ERC1967Proxy"
  | .mockUsdt => "MockUSDT"
  | .mockSpokePool => "MockSpokePool"
  | .mockAggregationRouter => "MockAggregationRouter"
  | .mockVerifier => "SP1MockVerifier"

/-- Where the compiler puts the artifact of a contract. -/
def path (k : ContractKind) : Path :=
  match k with
  | .proxy => ⟨.here, ["artifacts", "ERC1967Proxy.json"]⟩
  | k => ⟨.here, ["zkout", k.name ++ ".sol", k.name ++ ".json"]⟩

/-- The order in which artifacts are loaded. -/
def all : List ContractKind :=
  [.core, .mockSpokePool, .mockAggregationRouter, .mockVerifier, .mockUsdt, .proxy]

end ContractKind

/-- The contract types that a deployment works with. -/
abbrev Artifacts := ContractKind → ContractType

namespace Artifacts

/-- Loads every artifact below a directory. -/
def loadEach (directory : Path) : Action (List (ContractKind × Artifact)) := do
  Action.say (.loadingArtifacts directory.text)
  ContractKind.all.mapM fun k => do
    return (k, ← Artifact.load (directory.join k.path) k.name)

def ofList (loaded : List (ContractKind × Artifact)) : Artifacts := fun k =>
  match loaded.find? (·.1 == k) with
  | some (_, a) => a.contractType
  | none => { name := k.name, constructor := [], methods := [] }

end Artifacts

end Rollout

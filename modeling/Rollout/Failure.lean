import Rollout.Abi.Arguments
import Rollout.Chain.Basic
import Rollout.Files.Store
import Rollout.Json.Reader
import Rollout.Settings.Basic
import Rollout.Yaml.Error

/-!
# Why an operation fails

A failure is a cause with its data. Some causes are foreseen: a bad
configuration, a bad artifact, arguments that an interface does not take, the
wrong chain, a placeholder that would go on record. They have a title and a
message for the operator. The others say that something given from outside was
not of the kind that was needed, that the chain refused, or that the operator
stopped.
-/

namespace Rollout

/-! ## Foreseen causes -/

/-- What is wrong with the parameter file, the environment or the account. -/
inductive ConfigFault where
  | missingCredential
  | unresolved (dependencies : List Dependency)
  | invalidAddress (name : String) (value : Value)
  /-- A number with more digits than can be shown. -/
  | numberTooLong
  | invalidKeyDigits
  | keyLength (bytes : Nat)
  | paramsNotFound (path : String)
  | paramsMalformed (path : String)
  | networksMissing
  | networkMissing (network : String)
  | uriMissing (network : String)
  | chainIdMissing (network : String)
  | constantsMissing
  | constantMissing (name : String)
  | invalidPrivateKey
  | foreignAlias (name address : String)
  | lockedAlias (name : String)

inductive ArtifactFault where
  | notFound (contract path : String)
  | notJson (contract path : String)
  | noInterface (contract : String)
  | noBytecode (contract : String)
  | malformed (contract : String)
  deriving DecidableEq, Repr

/-- Why an operation failed. -/
inductive Failure where
  | configuration (f : ConfigFault)
  | artifact (f : ArtifactFault)
  | arguments (f : ArgumentFault)
  | chainMismatch (configured connected : Int)
  /-- A field of the manifest that still is a placeholder. -/
  | placeholderField (field : String)
  /-- The chain refused. -/
  | reverted (kind : EntryKind) (contract name : String)
  /-- The operator said no. -/
  | aborted
  /-- The operator was asked and there was no answer. -/
  | inputEnded
  /-- A contract does not have the method or the role getter. -/
  | noSuchMember (name : String)
  /-- A mapping was needed to look up an optional entry. -/
  | notAMapping
  | missingKey (key : String)
  /-- A value of another kind was needed. -/
  | wrongKind
  | malformedNumber
  /-- An infinite number where an integer is needed. -/
  | infiniteNumber
  | yaml (e : Yaml.Error)
  | json (e : Json.Error)
  /-- A value that lies inside itself was to be written. -/
  | circular
  /-- A text file that is not UTF-8. -/
  | notText
  | file (e : FileError)

/-! ## Messages -/

/-- What the operator is told about a configuration. -/
def ConfigFault.message : ConfigFault → String
  | .missingCredential => "Deployer private key is required; please set PRIVATE_KEY."
  | .unresolved dependencies =>
      "Production address unresolved for " ++ ", ".intercalate (dependencies.map Dependency.name) ++
        "; set it in the params file" ++
        (if dependencies.contains .sp1Verifier then
          ", set SP1_VERIFIER_ADDRESS or deploy a mock verifier with --mock" else "") ++ "."
  | .invalidAddress name value => name ++ " is not a valid address: '" ++ value.shown ++ "'"
  | .numberTooLong => ""
  | .invalidKeyDigits => "SP1_VKEY is not valid hex."
  | .keyLength n => "SP1_VKEY must be 32 bytes, got " ++ toString n ++ "."
  | .paramsNotFound path => "Params file not found at " ++ path ++ "."
  | .paramsMalformed path => "Malformed params file " ++ path ++ "."
  | .networksMissing => "networks is not set in params file."
  | .networkMissing network => network ++ " network is not set in params file."
  | .uriMissing network => "uri is not set for " ++ network ++ " in params file."
  | .chainIdMissing network => "chain_id is not set for " ++ network ++ " in params file."
  | .constantsMissing => "Params file missing 'constants' field."
  | .constantMissing name => "Constant '" ++ name ++ "' not found in params file."
  | .invalidPrivateKey => "Deployer private key is not valid."
  | .foreignAlias name address =>
      "Account alias '" ++ name ++ "' does not belong to " ++ address ++ "."
  | .lockedAlias name =>
      "Could not unlock account alias '" ++ name ++
        "' (Invalid password); set DEPLOYER_PASSPHRASE to the passphrase it was imported with."

/-- What the operator is told about an artifact. -/
def ArtifactFault.message : ArtifactFault → String
  | .notFound contract path => "No artifact found for " ++ contract ++ " at " ++ path ++ "."
  | .notJson contract path => "Artifact for " ++ contract ++ " at " ++ path ++ " is not JSON"
  | .noInterface contract => "Artifact for " ++ contract ++ " has no ABI."
  | .noBytecode contract => "Artifact for " ++ contract ++ " has no bytecode."
  | .malformed contract => "Malformed artifact for " ++ contract

/-- What the operator is told about arguments. -/
def ArgumentFault.message : ArgumentFault → String
  | .noOverload => "No method abis provided for validation of args"
  | .noMatch method count =>
      "Could not find ABI for '" ++ method ++ "' with " ++ toString count ++
        " arg(s) and given type(s)"
  | .constructorLength contract expected given =>
      "Constructor parameters length mismatch - " ++ contract ++ " ABI requires " ++
        toString expected ++ ", Got " ++ toString given ++ "."
  | .constructorType contract name position value type =>
      contract ++ " constructor param '" ++ NamedArgs.shownName name ++ "' at position " ++
        toString position ++ " has a value '" ++ value.shown ++
        "' whose type does not match expected ABI type '" ++ type ++ "'"
  | .undecided _ => ""

namespace Failure

/-- The title of a foreseen cause. -/
def title? : Failure → Option String
  | .configuration .missingCredential => some "MissingCredential"
  | .configuration (.unresolved _) => some "UnresolvedDependency"
  | .configuration .numberTooLong => none
  | .configuration _ => some "ConfigurationError"
  | .artifact _ => some "ArtifactError"
  | .arguments (.undecided _) => none
  | .arguments _ => some "InvalidArguments"
  | .chainMismatch _ _ => some "ChainMismatch"
  | .placeholderField _ => some "DeploymentError"
  | _ => none

def isForeseen (f : Failure) : Bool := f.title?.isSome

/-- What there is to say about a failure; nothing about one that is not foreseen. -/
def message : Failure → String
  | .configuration f => f.message
  | .artifact f => f.message
  | .arguments f => f.message
  | .chainMismatch configured connected =>
      "chain_id in params file (" ++ Integer.text configured ++
        ") does not match chain_id of current network (" ++ Integer.text connected ++ ")."
  | .placeholderField field => "Refusing to write placeholder address for " ++ field ++ "."
  | .reverted kind contract name => kind.text ++ " " ++ contract ++ "." ++ name
  | _ => ""

end Failure

end Rollout

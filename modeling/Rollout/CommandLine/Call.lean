import Rollout.Account
import Rollout.CommandLine.Options
import Rollout.Pipeline

/-!
# A call of the command

A call closes every gate before it touches the chain: settings are put together
and checked, all artifacts are loaded, the connected chain has to be the one the
parameters name, the account has to open, and the operator has to agree. Only
then does the deployment start.

How a call ends is an `Outcome`: the exit code, what is told on the error
channel, and a failure that nobody foresaw.
-/

namespace Rollout.CommandLine

/-- What a call finds outside the world: the environment, the chain it gets connected to, which
arguments can be encoded, and the accounts of private keys. -/
structure Surroundings where
  env : Environ
  connectedChain : Int
  admits : Admission
  addressOf? : String → Option String

/-- How a call ends. -/
structure Outcome where
  exitCode : Int
  errorText : String
  /-- Why the call failed, if it did. -/
  failure? : Option Failure

/-- The path of the manifest: the option, or the file name of the settings. -/
def manifestPath (o : Options) (s : Settings) : Except Failure Path :=
  match o.manifest, s.manifestFilename with
  | some path, _ => .ok path
  | none, .text name => .ok (Path.ofText name)
  | none, _ => .error .wrongKind

def connect (s : Settings) : Action Unit := do
  Action.say (.connecting s.network s.networkUri)
  modify fun w => { w with connections := w.connections ++ [s.networkUri] }

variable [Address.CaseRule]

/-- Everything a call does. -/
def call (x : Surroundings) (o : Options) : Action Manifest := do
  let s ← Settings.resolve o.flags x.env none o.params
  Action.ofExcept (s.preflight.mapError Failure.configuration)
  s.announce
  let loaded ← Artifacts.loadEach o.contractsDir
  let path ← Action.ofExcept (manifestPath o s)
  connect s
  Action.ofExcept (s.checkChain x.connectedChain)
  let account ← Account.load x.addressOf? s.privateKey s.passphrase
  Action.say (.starting account.address path.text)
  if !o.autosign then Action.askContinue
  let d ← Deployer.start account.address o.autosign x.admits
  Pipeline.run d s (Artifacts.ofList loaded) path

/-- How a call ends that fails. -/
def Outcome.ofFailure (f : Failure) : Outcome :=
  match f.title?, f with
  | some title, _ => ⟨1, "Error: " ++ title ++ ": " ++ f.message ++ "\n", some f⟩
  | none, .aborted => ⟨-1, "", some f⟩
  | none, .inputEnded => ⟨1, "\nAborted!\n", some f⟩
  | none, _ => ⟨1, "", some f⟩

/-- What a command line asks for: help, or a deployment. -/
def answer (x : Surroundings) (o : Options) : Action Unit := do
  if o.help then Action.say (.help helpText)
  else
    let _ ← call x o

def run (x : Surroundings) (args : List String) (w : World) : Outcome × World :=
  match parse w.files args with
  | .error (.usage f) => (⟨2, f.message ++ "\n", none⟩, w)
  | .error (.file e) => (Outcome.ofFailure (.file e), w)
  | .ok o =>
      match (answer x o).perform w with
      | (.ok (), w) => (⟨0, "", none⟩, w)
      | (.error f, w) => (Outcome.ofFailure f, w)

end Rollout.CommandLine

import Rollout.Chain.Contract
import Rollout.Failure
import Rollout.Keystore
import Rollout.Notice
import Rollout.Text.Encoding

/-!
# Actions

A deployment acts on a world: the chain, the files, the keystore, what the
operator has still to type, and what has been told so far. An `Action` changes
the world and gives a result or fails; what it changed before it failed stays
changed.
-/

namespace Rollout

/-- Everything that a deployment reads and changes. -/
structure World where
  chain : Chain
  files : Store
  keystore : Keystore
  /-- What the operator has still to type. -/
  input : List Char
  /-- What the operator has been told. -/
  notices : List Notice
  /-- The networks connected to. -/
  connections : List Value

/-- A computation on the world that may fail. -/
abbrev Action := ExceptT Failure (StateM World)

namespace Action

/-- The result or the failure of an action, and the world after it. -/
def perform {α : Type} (a : Action α) (w : World) : Except Failure α × World :=
  (ExceptT.run a).run w

/-- A result, or the failure that was found instead. -/
def ofExcept {α : Type} (e : Except Failure α) : Action α :=
  match e with
  | .ok a => pure a
  | .error f => throw f

/-- Tells the operator something. -/
def say (n : Notice) : Action Unit :=
  modify fun w => { w with notices := w.notices ++ [n] }

/-! ## Questions -/

/-- The next line of what is typed, and what comes after it; nothing at the end. -/
def nextLine? (input : List Char) : Option (List Char × List Char) :=
  if input.isEmpty then none
  else some (input.takeWhile (· != '\n'), (input.dropWhile (· != '\n')).drop 1)

/-- An answer that stops the deployment: the letter `n` in either case, blanks around it or not. -/
def isRefusal (answer : List Char) : Bool :=
  let core := Text.trimChars answer
  core == ['n'] || core == ['N']

/-- Asks a question, which every answer but a refusal lets pass. -/
def ask (text : String) : Action Unit := do
  say (.question text)
  let w ← get
  match nextLine? w.input with
  | none => throw .inputEnded
  | some (answer, rest) =>
      set { w with input := rest }
      if isRefusal answer then
        say .aborting
        throw .aborted

/-- Asks whether to go on. -/
def askContinue : Action Unit := ask "Continue"

/-- Whether an address of zeros is among the arguments. -/
def hasZeroAddress (args : NamedArgs) : Bool :=
  args.any fun a => a.2.isText ("0x" ++ String.ofList (List.replicate 40 '0'))

/-- Shows the arguments of a constructor and asks whether to deploy; asks once more where one of
them is the address of zeros. -/
def askDeployment (contract : String) (args : NamedArgs) : Action Unit := do
  if args.isEmpty then
    say (.noConstructorArgs contract)
    ask ("Deploy " ++ contract)
  else
    say (.constructorArgs contract args)
    ask ("Deploy " ++ contract)
    if hasZeroAddress args then
      ask "Zero Address detected for deployment parameter; Continue?"

/-! ## The chain -/

def submit (e : LogEntry) : Action Unit := do
  let w ← get
  match w.chain.submit? e with
  | none => throw (.reverted e.kind e.contract e.name)
  | some chain => set { w with chain }

/-- Deploys a contract and gives its address. -/
def submitDeployment (e : LogEntry) : Action String := do
  let w ← get
  match w.chain.deploy? e with
  | none => throw (.reverted e.kind e.contract e.name)
  | some (address, chain) =>
      set { w with chain }
      return address

/-! ## Files -/

def readText (p : Path) : Action (List Char) := do
  match (← get).files.read p with
  | .error e => throw (.file e)
  | .ok bytes =>
      match Text.ofFile? bytes with
      | none => throw .notText
      | some cs => return cs

def readJson (p : Path) : Action Value := do
  match Json.read (← readText p) with
  | .ok v => return v
  | .error e => throw (.json e)

end Action

end Rollout

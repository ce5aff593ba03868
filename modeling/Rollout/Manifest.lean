import Rollout.Json.Writer
import Rollout.World

/-!
# The manifest

The manifest records a finished deployment: the network, the contracts that were
created, the external contracts they are wired to, and who holds which role. It
is written as JSON with its fields in a fixed order, in one step: whatever was
in the file before is there until the new manifest is complete.

`build` refuses to put a placeholder on record. `read` takes a missing field for
an empty one.
-/

namespace Rollout

/-- The record of a deployment. -/
structure Manifest where
  network : Value
  core : Value
  coreImplementation : Value
  spokePool : Value
  aggregationRouter : Value
  usdt : Value
  sp1Verifier : Value
  admin : Value
  unlimitedCreator : Value
  registrar : Value
  deployer : Value

namespace Manifest

/-! ## Fields -/

/-- The names of the fields in their order. -/
def fieldNames : List String :=
  ["network", "untron", "untronImplementation", "spokePool", "aggregationRouter", "usdt",
   "sp1Verifier", "admin", "unlimitedCreator", "registrar", "deployer"]

/-- The values of the fields in their order. -/
def values (m : Manifest) : List Value :=
  [m.network, m.core, m.coreImplementation, m.spokePool, m.aggregationRouter, m.usdt,
   m.sp1Verifier, m.admin, m.unlimitedCreator, m.registrar, m.deployer]

def fields (m : Manifest) : List (String × Value) := fieldNames.zip m.values

def toValue (m : Manifest) : Value :=
  .mapping (m.fields.map fun f => (.text f.1, f.2))

/-- The manifest whose fields are given by name. -/
def ofFields (field : String → Value) : Manifest :=
  { network := field "network"
    core := field "untron"
    coreImplementation := field "untronImplementation"
    spokePool := field "spokePool"
    aggregationRouter := field "aggregationRouter"
    usdt := field "usdt"
    sp1Verifier := field "sp1Verifier"
    admin := field "admin"
    unlimitedCreator := field "unlimitedCreator"
    registrar := field "registrar"
    deployer := field "deployer" }

/-- The manifest in a value; fields that are missing are empty. -/
def ofValue? (v : Value) : Option Manifest :=
  match v with
  | .mapping entries => some (ofFields fun name => (Value.find? entries name).getD .null)
  | _ => none

/-! ## Building -/

/-- The first field that still is a placeholder. -/
def placeholder? (m : Manifest) : Option String :=
  (m.fields.find? fun f => isUnresolved f.2).map Prod.fst

/-- The manifest of a deployment, unless an address in it is a placeholder. -/
def build (s : Settings) (core implementation : Contract) (d : Dependencies)
    (deployer : Value) : Except Failure Manifest :=
  let m : Manifest :=
    { network := .text s.network
      core := core.address
      coreImplementation := implementation.address
      spokePool := d.spokePool
      aggregationRouter := d.aggregationRouter
      usdt := d.usdt
      sp1Verifier := d.sp1Verifier
      admin := s.recipients.admin
      unlimitedCreator := s.recipients.unlimitedCreator
      registrar := s.recipients.registrar
      deployer }
  match m.placeholder? with
  | some field => .error (.placeholderField field)
  | none => .ok m

/-! ## Writing and reading -/

/-- The text of a manifest, if all its fields can be written. -/
def text (m : Manifest) : Except Json.WriteError (List Char) :=
  (Json.write m.toValue).map (· ++ ['\n'])

/-- What it means for a manifest that it has no text. -/
def textFailure : Json.WriteError → Failure
  | .noForm => .wrongKind
  | .circular => .circular
  | .integerTooLong => .json .integerTooLong
  | .tooDeep => .json .tooDeep

/-- The directory that a file is to be in is made first. -/
def makeParent (path : Path) : Action Unit := do
  let w ← get
  let (made, files) := w.files.ensureDirectory path.parent
  set { w with files }
  match made with
  | .ok () => return
  | .error e => throw (.file e)

/-- Whether anything is at a path. -/
def isTaken (path : Path) : Action Bool := do
  match (← get).files.contains path with
  | .ok found => return found
  | .error e => throw (.file e)

/-- A draft of the manifest has to find a place beside it. -/
def checkDraft (path : Path) : Action Unit := do
  match (← get).files.draftPlace path with
  | .ok _ => return
  | .error e => throw (.file e)

/-- Puts a text in place of whatever file is there. -/
def put (path : Path) (text : List Char) : Action Unit := do
  let w ← get
  match w.files.replace path (Text.encode text) with
  | .ok files => set { w with files }
  | .error e => throw (.file e)

/-- Writes a manifest in place of whatever file is there. -/
def write (m : Manifest) (path : Path) : Action Unit := do
  makeParent path
  if ← isTaken path then Action.say (.overwritingManifest path.text)
  checkDraft path
  match m.text with
  | .error e => throw (textFailure e)
  | .ok text =>
      put path text
      Action.say (.manifestWritten path.text)

def read (path : Path) : Action Manifest := do
  match ofValue? (← Action.readJson path) with
  | some m => return m
  | none => throw .notAMapping

end Manifest

end Rollout

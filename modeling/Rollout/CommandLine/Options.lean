import Rollout.Artifact
import Rollout.Settings.Resolve
import Rollout.Text.Similar

/-!
# The command line

The command takes options only. A flag stands alone; an option with a path takes
it after `=` or as the next argument, whatever that looks like. What is wrong
with the way an option is written is found first, from left to right; then the
paths are looked at in the order in which their options came; and last come
arguments that belong to no option. A path that holds the character NUL cannot
even be looked at, so there is nothing that the operator could be told about it.
-/

namespace Rollout.CommandLine

inductive Name where
  | mainnet
  | mock
  | autosign
  | params
  | contractsDir
  | manifest
  | help
  deriving DecidableEq, Repr

namespace Name

/-- An option as it is written. -/
def text : Name → String
  | .mainnet => "--mainnet"
  | .mock => "--mock"
  | .autosign => "--autosign"
  | .params => "--params"
  | .contractsDir => "--contracts-dir"
  | .manifest => "--manifest"
  | .help => "--help"

def purpose : Name → String
  | .mainnet =>
      "Deploy to zkSync Era mainnet with the production dependencies (default: testnet)."
  | .mock => "Deploy a mock SP1 verifier, even on mainnet."
  | .autosign => "Do not ask for confirmation before each deployment and transaction."
  | .params => "Deployment params YAML."
  | .contractsDir => "Directory holding the zkout/ and artifacts/ compiler outputs."
  | .manifest =>
      "Where to write the deployment manifest (default: the params file's filename)."
  | .help => "Show this message and exit."

def all : List Name := [.mainnet, .mock, .autosign, .params, .contractsDir, .manifest, .help]

def takesPath : Name → Bool
  | .params => true
  | .contractsDir => true
  | .manifest => true
  | _ => false

/-- The option that is written so. -/
def ofText? (s : String) : Option Name := all.find? fun n => n.text == s

end Name

/-- What can be wrong with the path of an option. -/
inductive PathFault where
  | missing
  | isDirectory
  | isFile
  deriving DecidableEq, Repr

/-- What can be wrong with a command line. -/
inductive UsageFault where
  | unknownOption (text : String) (similar : List String)
  | takesNoValue (text : String)
  | needsValue (text : String)
  | badPath (option : Name) (path : String) (fault : PathFault)
  | extraArguments (arguments : List String)
  deriving DecidableEq, Repr

inductive Refusal where
  | usage (f : UsageFault)
  /-- A path that cannot be looked at. -/
  | file (e : FileError)
  deriving DecidableEq, Repr

/-! ## Wording -/

/-- What the command does and which options it takes. -/
def helpText : String :=
  "Usage: cli [OPTIONS]\n\n  Deploys UntronCore behind an ERC1967 proxy on zkSync Era.\n\nOptions:\n" ++
    String.join (Name.all.map fun n => "  " ++ n.text ++ "\n      " ++ n.purpose ++ "\n")

/-- The lines in front of most usage errors. -/
def usage : String := "Usage: cli [OPTIONS]\nTry 'cli --help' for help.\n\n"

/-- The options that may have been meant. -/
def suggestion (similar : List String) : String :=
  match similar with
  | [] => ""
  | [one] => " Did you mean " ++ one ++ "?"
  | several => " (Possible options: " ++ ", ".intercalate (sorted several) ++ ")"
where
  /-- The texts in alphabetical order. -/
  sorted (ts : List String) : List String := ts.mergeSort fun s t => decide (s ≤ t)

/-- What a path of an option is to lead to. -/
def pathNoun : Name → String
  | .contractsDir => "Directory"
  | _ => "File"

def PathFault.text : PathFault → String
  | .missing => "does not exist."
  | .isDirectory => "is a directory."
  | .isFile => "is a file."

/-- What the operator is told about a command line. -/
def UsageFault.message : UsageFault → String
  | .unknownOption text similar => usage ++ "Error: No such option: " ++ text ++ suggestion similar
  | .takesNoValue text => "Error: Option " ++ Text.quote text ++ " does not take a value."
  | .needsValue text => "Error: Option " ++ Text.quote text ++ " requires an argument."
  | .badPath option path fault =>
      usage ++ "Error: Invalid value for '" ++ option.text ++ "': " ++ pathNoun option ++ " " ++
        Text.quote path ++ " " ++ fault.text
  | .extraArguments arguments =>
      usage ++ "Error: Got unexpected extra argument" ++
        (if arguments.length = 1 then "" else "s") ++ " (" ++ " ".intercalate arguments ++ ")"

/-! ## Reading -/

/-- The options of a command line, from left to right, and the arguments that belong to none. -/
structure Arguments where
  options : List (Name × Option String)
  others : List String
  deriving Repr

/-- An option in front of what was read before it. -/
def Arguments.add (name : Name) (value : Option String) (a : Arguments) : Arguments :=
  { a with options := (name, value) :: a.options }

/-- The parts of an argument before and after its first `=`. -/
def splitValue (arg : String) : String × Option String :=
  let cs := arg.toList
  if cs.contains '=' then
    (String.ofList (cs.takeWhile (· != '=')),
     some (String.ofList ((cs.dropWhile (· != '=')).drop 1)))
  else (arg, none)

/-- Why an argument that starts with a hyphen is no option: one hyphen makes it a list of letters,
none of which is an option. -/
def unknown (arg written : String) : UsageFault :=
  match arg.toList with
  | '-' :: '-' :: _ =>
      .unknownOption written (Text.similarTo written (Name.all.map Name.text))
  | '-' :: letter :: _ => .unknownOption (String.ofList ['-', letter]) []
  | _ => .unknownOption written []

/-- Whether an argument is written like an option. -/
def looksLikeOption (arg : String) : Bool :=
  match arg.toList with
  | '-' :: _ :: _ => true
  | _ => false

/-- The arguments of a command line. An option that still waits for its path takes the next
argument. -/
def readFrom : (waiting : Option (Name × String)) → List String → Except UsageFault Arguments
  | none, [] => .ok ⟨[], []⟩
  | some (_, written), [] => .error (.needsValue written)
  | some (name, _), path :: rest =>
      (readFrom none rest).map (Arguments.add name (some path))
  | none, arg :: rest =>
      if arg = "--" then .ok ⟨[], rest⟩
      else if looksLikeOption arg then
        let (written, value) := splitValue arg
        match Name.ofText? written, value with
        | none, _ => .error (unknown arg written)
        | some name, none =>
            if name.takesPath then readFrom (some (name, written)) rest
            else (readFrom none rest).map (Arguments.add name none)
        | some name, some path =>
            if name.takesPath then (readFrom none rest).map (Arguments.add name (some path))
            else .error (.takesNoValue written)
      else
        (readFrom none rest).map fun a => { a with others := arg :: a.others }

/-! ## Options -/

structure Options where
  flags : Settings.Flags
  autosign : Bool
  params : Params.Source
  contractsDir : Path
  manifest : Option Path
  /-- Whether to show help and do nothing. -/
  help : Bool
  deriving Repr

/-- The last path that an option was given. -/
def Arguments.path? (a : Arguments) (name : Name) : Option String :=
  a.options.foldl (fun found o => if o.1 = name then o.2 else found) none

/-- Whether a flag was given. -/
def Arguments.has (a : Arguments) (name : Name) : Bool := a.options.any (·.1 == name)

/-- What a text that names a path leads to. The empty text leads nowhere, nor does one that is too
long as it is written, and one that ends like a directory leads to directories only. -/
def look? (files : Store) (s : String) : Except FileError (Option Entry) :=
  if Store.hasNul s then .error .holdsNul
  else if s.isEmpty || Store.pathLimit < s.utf8ByteSize then .ok none
  else
    match files.look (Path.ofText s) with
    | .ok (.file content) => .ok (if Path.asksDirectory s then none else some (.file content))
    | .ok .directory => .ok (some .directory)
    | .error _ => .ok none

/-- What is wrong with the path of an option: parameters have to be a file, contracts are in a
directory, and the manifest may not be a directory. -/
def pathFault? (name : Name) (found : Option Entry) : Option PathFault :=
  match name, found with
  | .params, none => some .missing
  | .params, some .directory => some .isDirectory
  | .contractsDir, none => some .missing
  | .contractsDir, some (.file _) => some .isFile
  | .manifest, some .directory => some .isDirectory
  | _, _ => none

def checkPath (files : Store) (name : Name) (s : String) : Except Refusal Unit := do
  let found ← (look? files s).mapError Refusal.file
  match pathFault? name found with
  | some fault => .error (.usage (.badPath name s fault))
  | none => .ok ()

/-- Looks at the paths of options, each option once. -/
def checkPaths (files : Store) (a : Arguments) : List Name → Except Refusal Unit
  | [] => .ok ()
  | name :: names => do
      match a.path? name with
      | some s => checkPath files name s
      | none => .ok ()
      checkPaths files a names

def parse (files : Store) (args : List String) : Except Refusal Options := do
  let a ← (readFrom none args).mapError Refusal.usage
  if !a.has .help then
    checkPaths files a (a.options.map Prod.fst)
    if !a.others.isEmpty then .error (.usage (.extraArguments a.others))
  return {
    flags := { mainnet := a.has .mainnet, mock := a.has .mock }
    autosign := a.has .autosign
    params := match a.path? .params with
      | some s => .file (Path.ofText s)
      | none => .packaged
    contractsDir := Path.ofText ((a.path? .contractsDir).getD ".")
    manifest := (a.path? .manifest).map Path.ofText
    help := a.has .help }

end Rollout.CommandLine

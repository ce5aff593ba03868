import Rollout.CommandLine.Call

/-!
# The command as a program

The program rehearses a deployment: it takes the parameters and artifacts from
the files of this machine and the credentials from the environment, and it plays
everything against a chain of its own, which starts empty, has the identifier
that the parameters name and accepts everything. The operator sees every
question and every transaction, and finds the manifest in its place.

Nothing is decided here. The part of the file system that a call can reach is
read into a store, the call runs on the store, and what it changed is written
back. While the operator has not said enough, the call is run again with one
more line; it then says all it said before and goes on from there.
-/

namespace Rollout.Main

open CommandLine

/-- The texts in a command line that can name a path. -/
def pathTexts (args : List String) : List String :=
  args.flatMap fun arg => arg :: (splitValue arg).2.toList

/-- The paths that a command line can lead to, apart from the manifest. -/
def paths (args : List String) : List Path :=
  let directories := ("." :: pathTexts args).map Path.ofText
  directories ++ directories.flatMap fun d => ContractKind.all.map fun k => d.join k.path

/-- What is at a path on this machine. -/
def entryAt (p : Path) : IO (Option Entry) := do
  try
    let place ← IO.FS.realPath p.text
    if ← place.isDir then return some .directory
    else return some (.file (← IO.FS.readBinFile place).toList)
  catch _ => return none

/-- The store with what is at a path on this machine. -/
def take (s : Store) (p : Path) : IO Store := do
  match ← entryAt p with
  | some e => return s.install p e
  | none => return s

/-- The variables of the environment that matter. -/
def environ : IO Environ := do
  let found ← Environ.names.filterMapM fun name => do
    return (← IO.getEnv name).map fun value => (name, value)
  return Environ.ofList found

def chain : Chain :=
  { log := []
    contracts := 0
    fault := none
    addressOf := fun n => Address.ofBytesWith Keccak.digest ((Curve.word (0x1000 + n)).drop 12)
    roleId? := roleIdWith Keccak.digest }

/-- The world of a call: the empty chain, and no account yet. -/
def world (files : Store) (input : List Char) : World :=
  { chain, files, keystore := [], input, notices := [], connections := [] }

/-- The settings of a call and the path of its manifest, if the call gets so far. -/
def foresee (env : Environ) (args : List String) (files : Store) : Option (Settings × Path) := do
  let o ← (parse files args).toOption
  let s ← ((Settings.resolve o.flags env none o.params).perform (world files [])).1.toOption
  let path ← (manifestPath o s).toOption
  return (s, path)

/-- Runs a call, shows what was not shown before, and asks for one more line as long as the call
ends for want of it. -/
partial def converse (x : Surroundings) (args : List String) (files : Store)
    (input : List Char) (shown : Nat) : IO (Outcome × World) := do
  let (o, w) := run x args (world files input)
  let text := (transcript w.notices).toList
  let output ← IO.getStdout
  output.putStr (String.ofList (text.drop shown))
  output.flush
  match o.failure? with
  | some .inputEnded =>
      let line ← (← IO.getStdin).getLine
      if line.isEmpty then return (o, w)
      else converse x args files (input ++ line.toList) text.length
  | _ => return (o, w)

/-- Writes a file in one step: another file is written first and then put in its place. -/
def replaceFile (place : Place) (content : Bytes) : IO Unit := do
  let target : Path := ⟨.root, place⟩
  IO.FS.createDirAll target.parent.text
  let draft := target.text ++ ".tmp"
  IO.FS.writeBinFile draft (ByteArray.mk content.toArray)
  IO.FS.rename draft target.text

/-- Writes back what a call changed. -/
def writeBack (before after : Store) : IO Unit :=
  after.entries.forM fun (place, e) => do
    if before.find? place ≠ some e then
      match e with
      | .file content => replaceFile place content
      | .directory => IO.FS.createDirAll (Path.text ⟨.root, place⟩)

/-- Rehearses a deployment and gives the exit code. -/
def rehearse (args : List String) : IO UInt32 := do
  let env ← environ
  let here := Path.ofText (← IO.currentDir).toString
  let mut files ← (paths args).foldlM take (Store.empty here.names)
  let mut connectedChain := 0
  if let some (s, manifest) := foresee env args files then
    connectedChain := s.chainId
    files ← take (← take files manifest.parent) manifest
  let x : Surroundings :=
    { env, connectedChain, admits := encodable, addressOf? := addressOfKey? }
  let (o, w) ← converse x args files [] 0
  (← IO.getStderr).putStr o.errorText
  writeBack files w.files
  return (o.exitCode % 256).toNat.toUInt32

end Rollout.Main

def main (args : List String) : IO UInt32 := Rollout.Main.rehearse args

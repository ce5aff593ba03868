import Rollout.Text.Hex
import Rollout.Files.Path

/-!
# A file system

Files and directories by their place, the list of names from the root directory.
A path is followed name by name: each name but the last has to lead to a
directory, and `..` leads one directory up. Names and whole paths have a greatest
length, and no name holds the character NUL.

Nothing but `makeDirectory` and `replace` changes the store. `replace` puts a
whole file in place at once, or fails and leaves everything as it was; so a
reader never sees half a file. The new content is a draft beside the file until
it is complete, and `draftPlace` says whether such a draft can have a name.
-/

namespace Rollout

/-- What is found at a place. -/
inductive Entry where
  | file (content : Bytes)
  | directory
  deriving DecidableEq, Repr

/-- Why a path could not be used. -/
inductive FileError where
  | notFound
  | isDirectory
  | notDirectory
  | alreadyExists
  /-- The working directory or a directory up the path cannot be replaced. -/
  | busy
  /-- A name or the whole path is longer than any path can be. -/
  | nameTooLong
  /-- A name holds the character NUL. -/
  | holdsNul
  deriving DecidableEq, Repr

/-- The names from the root directory to a place. -/
abbrev Place := List String

/-- Files and directories by place, and the working directory. -/
structure Store where
  entries : List (Place × Entry)
  workingDirectory : Place
  deriving Repr

namespace Store

/-! ## Places -/

/-- What is at a place; the root directory is always there. -/
def find? (s : Store) (place : Place) : Option Entry :=
  if place.isEmpty then some .directory
  else (s.entries.find? fun e => e.1 == place).map Prod.snd

/-- The store with an entry at a place, in place of the one that was there. -/
def set (s : Store) (place : Place) (e : Entry) : Store :=
  { s with
    entries :=
      if s.entries.any (·.1 == place) then
        s.entries.map fun old => if old.1 == place then (place, e) else old
      else s.entries ++ [(place, e)] }

/-- The greatest length of a name, in bytes. -/
def nameLimit : Nat := 255

/-- The greatest length of the text of a path, in bytes. -/
def pathLimit : Nat := 4095

/-- Whether a name holds the character NUL. -/
def hasNul (name : String) : Bool := name.toList.contains '\x00'

/-- The place one name further. -/
def enter (place : Place) (name : String) : Place :=
  if name = ".." then place.dropLast else place ++ [name]

/-- Follows names from a place: everything passed on the way has to be a directory, and a name that
is too long is found out where it is looked up. -/
def follow (s : Store) : Place → List String → Except FileError Place
  | place, [] => .ok place
  | place, name :: names =>
      match s.find? place with
      | some .directory =>
          if nameLimit < name.utf8ByteSize then .error .nameTooLong
          else follow s (enter place name) names
      | some (.file _) => .error .notDirectory
      | none => .error .notFound

def origin (s : Store) (p : Path) : Place :=
  if p.start = .here then s.workingDirectory else []

/-- The place that a path leads to, whether anything is there or not. -/
def locate (s : Store) (p : Path) : Except FileError Place :=
  if p.names.any hasNul then .error .holdsNul
  else if pathLimit < p.text.utf8ByteSize then .error .nameTooLong
  else s.follow (s.origin p) p.names

/-! ## Looking -/

/-- What a path leads to. -/
def look (s : Store) (p : Path) : Except FileError Entry := do
  let place ← s.locate p
  match s.find? place with
  | some e => .ok e
  | none => .error .notFound

/-- Whether a path leads to anything. A path that is too long leads nowhere either, but then there is
no answer. -/
def contains (s : Store) (p : Path) : Except FileError Bool :=
  match s.look p with
  | .ok _ => .ok true
  | .error .nameTooLong => .error .nameTooLong
  | .error _ => .ok false

def isDirectory (s : Store) (p : Path) : Bool :=
  match s.look p with
  | .ok .directory => true
  | _ => false

def read (s : Store) (p : Path) : Except FileError Bytes := do
  match ← s.look p with
  | .file content => .ok content
  | .directory => .error .isDirectory

/-! ## Changing -/

/-- Makes one directory in a directory that is there. -/
def makeDirectory (s : Store) (p : Path) : Except FileError Store := do
  let place ← s.locate p
  match s.find? place with
  | some _ => .error .alreadyExists
  | none => .ok (s.set place .directory)

/-- An error of `makeDirectory` counts for nothing where a directory is there already. -/
def orDirectory (s : Store) (p : Path) (e : FileError) : Except FileError Unit × Store :=
  (if s.isDirectory p then .ok () else .error e, s)

/-- Makes the directory of the given names, the last name first, and those it is in. -/
def ensureReversed (s : Store) (start : Path.Start) :
    List String → Except FileError Unit × Store
  | [] =>
      let p : Path := ⟨start, []⟩
      match s.makeDirectory p with
      | .ok made => (.ok (), made)
      | .error .notFound => (.error .notFound, s)
      | .error e => s.orDirectory p e
  | name :: up =>
      let p : Path := ⟨start, (name :: up).reverse⟩
      match s.makeDirectory p with
      | .ok made => (.ok (), made)
      | .error .notFound =>
          match s.ensureReversed start up with
          | (.error e, made) => (.error e, made)
          | (.ok (), made) =>
              match made.makeDirectory p with
              | .ok all => (.ok (), all)
              | .error e => made.orDirectory p e
      | .error e => s.orDirectory p e

/-- Makes a directory and all those it is in, as far as they are missing. -/
def ensureDirectory (s : Store) (p : Path) : Except FileError Unit × Store :=
  s.ensureReversed p.start p.names.reverse

/-- The place of a draft of the file at a path: in the same directory, hidden, and named after the
file with a mark of eight more characters. -/
def draftPlace (s : Store) (p : Path) : Except FileError Place := do
  let directory ← s.locate p.parent
  let draft := "." ++ p.name ++ "." ++ String.ofList (List.replicate 8 '_') ++ ".tmp"
  let place := directory ++ [draft]
  if hasNul draft then .error .holdsNul
  else if nameLimit < draft.utf8ByteSize then .error .nameTooLong
  else if pathLimit < (Path.mk .root place).text.utf8ByteSize then .error .nameTooLong
  else .ok place

/-- Puts a file in place of whatever file is there. -/
def replace (s : Store) (p : Path) (content : Bytes) : Except FileError Store := do
  if p.names.isEmpty || p.names.getLast? == some ".." then .error .busy
  let place ← s.locate p
  match s.find? place with
  | some .directory => .error .isDirectory
  | _ => .ok (s.set place (.file content))

/-! ## Setting up -/

/-- Every place on the way to a place, the place itself left out. -/
def above (place : Place) : List Place :=
  (List.range place.length).map place.take

/-- A store with nothing but its working directory. -/
def empty (workingDirectory : Place) : Store :=
  { entries := ((above workingDirectory ++ [workingDirectory]).filter (!·.isEmpty)).map
      fun place => (place, .directory)
    workingDirectory }

/-- The place of a path if every name on the way is a directory. -/
def nominalPlace (s : Store) (p : Path) : Place :=
  p.names.foldl enter (s.origin p)

/-- The store with an entry at a path, and all directories it is in. -/
def install (s : Store) (p : Path) (e : Entry) : Store :=
  let place := s.nominalPlace p
  let s := (above place).foldl
    (fun s up => if (s.find? up).isSome then s else s.set up .directory) s
  s.set place e

/-- The files below the working directory, by path. -/
def files (s : Store) : List (Path × Bytes) :=
  s.entries.filterMap fun (place, e) =>
    match e with
    | .file content =>
        if s.workingDirectory.isPrefixOf place then
          some (⟨.here, place.drop s.workingDirectory.length⟩, content)
        else none
    | .directory => none

end Store

end Rollout

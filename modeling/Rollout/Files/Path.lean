/-!
# Paths

A path is a list of names, counted from the root directory or from the working
directory. Empty names and `.` say nothing and are dropped on reading, so `./a`
and `a//` are the path `a`, and the empty text is the path `.`. The name `..`
stays, because what it means depends on the directories that are there.

A system may give two slashes at the start of a path a meaning of their own.
Here they lead to the root directory too, but the path keeps them; three or more
are the same as one.
-/

namespace Rollout

inductive Path.Start where
  /-- At the working directory. -/
  | here
  /-- At the root directory. -/
  | root
  /-- At the root directory, written with two slashes. -/
  | doubledRoot
  deriving DecidableEq, Repr

/-- A path in its normal form. -/
structure Path where
  start : Path.Start
  /-- The names on the way, none of them empty or `.`. -/
  names : List String
  deriving DecidableEq, Repr

namespace Path

/-! ## Reading -/

/-- The parts of a text between slashes. -/
def segments : List Char → List (List Char)
  | [] => [[]]
  | c :: rest =>
      if c = '/' then [] :: segments rest
      else match segments rest with
        | [] => [[c]]
        | part :: parts => (c :: part) :: parts

/-- Whether a part of a text is a name. -/
def isName (part : List Char) : Bool := !(part.isEmpty || part == ['.'])

/-- Where the path that a text denotes starts. -/
def Start.ofChars : List Char → Start
  | '/' :: '/' :: '/' :: _ => .root
  | '/' :: '/' :: _ => .doubledRoot
  | '/' :: _ => .root
  | _ => .here

def ofText (s : String) : Path :=
  { start := .ofChars s.toList
    names := ((segments s.toList).filter isName).map String.ofList }

/-- Whether a text that denotes a path ends with a slash, or with a slash and `.`: what it leads to
is taken for a directory. -/
def asksDirectory (s : String) : Bool :=
  match (segments s.toList).getLast? with
  | some part => !isName part
  | none => false

/-! ## Writing -/

/-- The slashes that a path starts with. -/
def Start.text : Start → String
  | .here => ""
  | .root => "/"
  | .doubledRoot => "//"

def text (p : Path) : String :=
  if p.start = .here ∧ p.names = [] then "." else p.start.text ++ "/".intercalate p.names

/-! ## Relatives -/

/-- The last name of a path; nothing where there is none. -/
def name (p : Path) : String := p.names.getLast?.getD ""

def parent (p : Path) : Path := { p with names := p.names.dropLast }

def join (directory p : Path) : Path :=
  if p.start = .here then { directory with names := directory.names ++ p.names } else p

end Path

end Rollout

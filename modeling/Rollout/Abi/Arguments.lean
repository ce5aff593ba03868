import Rollout.Abi.Basic

/-!
# Arguments and the interface they are for

A call gives its arguments by position; what an operator is shown are the
arguments by name. Both are settled here, before anything is sent. Which values
a type admits is a parameter, `Admission`, because nothing here depends on it.

For a constructor there is one list of inputs, and an input without a name is
shown as `arg0`, `arg1` and so on. A method may have several overloads: those
of the right length are tried in order, and the first whose types admit all
arguments names them.
-/

namespace Rollout

/-- Which values can be encoded at the type of a name. -/
abbrev Admission := String → Value → Except AdmissionFault Bool

/-- An input of a constructor or a method. -/
structure Input where
  name : Option String
  type : String
  deriving DecidableEq, Repr

structure Overload where
  name : String
  inputs : List Input
  deriving DecidableEq, Repr

/-- Arguments by name, in the order in which the names first came. -/
abbrev NamedArgs := List (Option String × Value)

namespace NamedArgs

/-- Puts an argument: a name that is there keeps its place. -/
def put (named : NamedArgs) (name : Option String) (v : Value) : NamedArgs :=
  match named with
  | [] => [(name, v)]
  | (n, w) :: rest => if n = name then (n, v) :: rest else (n, w) :: put rest name v

/-- The name of an argument as it is shown. -/
def shownName (name : Option String) : String := name.getD "None"

end NamedArgs

/-- Why arguments do not match an interface. -/
inductive ArgumentFault where
  /-- The method has no overload at all. -/
  | noOverload
  /-- No overload has the right number and types of inputs. -/
  | noMatch (method : String) (count : Nat)
  | constructorLength (contract : String) (expected given : Nat)
  | constructorType (contract : String) (name : Option String) (position : Nat) (value : Value)
      (type : String)
  /-- It is left open whether an argument can be encoded. -/
  | undecided (f : AdmissionFault)

namespace Arguments

def admitted (admits : Admission) (i : Input) (v : Value) : Except ArgumentFault Bool :=
  (admits i.type v).mapError .undecided

/-- The arguments by the names of as many inputs, if each type admits its argument. -/
def nameAll? (admits : Admission) :
    NamedArgs → List Value → List Input → Except ArgumentFault (Option NamedArgs)
  | named, v :: vs, i :: is => do
      if ← admitted admits i v then nameAll? admits (named.put i.name v) vs is else return none
  | named, _, _ => .ok (some named)

/-- The arguments by the names of an overload, if it takes them. -/
def matchOverload? (admits : Admission) (args : List Value) (o : Overload) :
    Except ArgumentFault (Option NamedArgs) :=
  if o.inputs.length = args.length then nameAll? admits [] args o.inputs else .ok none

/-- The arguments by the names of the first overload that takes them. -/
def firstMatch? (admits : Admission) (args : List Value) :
    List Overload → Except ArgumentFault (Option NamedArgs)
  | [] => .ok none
  | o :: os => do
      match ← matchOverload? admits args o with
      | some named => return some named
      | none => firstMatch? admits args os

/-- The arguments by the names of a method's first overload that takes them. -/
def forMethod (admits : Admission) (overloads : List Overload) (args : List Value) :
    Except ArgumentFault NamedArgs :=
  match overloads with
  | [] => .error .noOverload
  | first :: _ => do
      match ← firstMatch? admits args overloads with
      | some named => return named
      | none => .error (.noMatch first.name args.length)

/-- The name under which a constructor's argument is shown. -/
def constructorName (i : Input) (position : Nat) : String :=
  match i.name with
  | none => "arg" ++ toString position
  | some name => if name.isEmpty then "arg" ++ toString position else name

/-- The arguments from a position on by the names of a constructor's inputs. -/
def nameConstructor (admits : Admission) (contract : String) :
    (position : Nat) → NamedArgs → List Value → List Input → Except ArgumentFault NamedArgs
  | position, named, v :: vs, i :: is => do
      if ← admitted admits i v then
        nameConstructor admits contract (position + 1)
          (named.put (some (constructorName i position)) v) vs is
      else .error (.constructorType contract i.name position v i.type)
  | _, named, _, _ => .ok named

/-- The arguments by the names of a constructor's inputs. -/
def forConstructor (admits : Admission) (contract : String) (inputs : List Input)
    (args : List Value) : Except ArgumentFault NamedArgs :=
  if args.length ≠ inputs.length then
    .error (.constructorLength contract inputs.length args.length)
  else nameConstructor admits contract 0 [] args inputs

end Arguments

end Rollout

import Rollout.Failure

/-!
# Interfaces

A compiler describes the interface of a contract as a list of entries: its
constructor, its functions, and others that do not matter here. An entry names
its own kind by its type, but it need not have one. Then it is read as the kind
that knows the most of its fields, the earlier kind if two know as many.

What a kind knows is weighed by a `Tally`: the fields that the entry has of those
of the kind, and the fields of the inputs it lists. An input whose type is a text
starts the weighing of the inputs anew, so only the last of them counts.

An entry that is not well formed for the type it names is an entry of a kind that
does not matter. An interface is not well formed if an entry is of no kind at all.
-/

namespace Rollout

structure Function where
  overload : Overload
  mutability : String
  deriving DecidableEq, Repr

/-- An entry of an interface that matters here. -/
inductive InterfaceEntry where
  | constructor (inputs : List Input)
  | function (f : Function)
  | other
  deriving DecidableEq, Repr

namespace Interface

/-! ## Fields -/

def isSomeText : Value → Bool
  | .text _ => true
  | _ => false

/-- A text that has to be there. -/
def text? (entries : List (Value × Value)) (key : String) : Option String :=
  match Value.find? entries key with
  | some (.text s) => some s
  | _ => none

/-- Whether a field is missing, null or a text. -/
def isNoneOrText : Option Value → Bool
  | none => true
  | some .null => true
  | some v => isSomeText v

/-- How many of the given fields are there. -/
def present (entries : List (Value × Value)) (keys : List String) : Nat :=
  (keys.filter fun key => (Value.find? entries key).isSome).length

/-- Whether a value stands for a truth value. -/
def isTruthLike : Value → Bool
  | .bool _ => true
  | .int n => n == 0 || n == 1
  | .float x => x.isInteger 0 || x.isInteger 1
  | .text s =>
      ["0", "off", "f", "false", "n", "no", "1", "on", "t", "true", "y", "yes"].contains
        (String.ofList (s.toList.map Char.toLower))
  | _ => false

/-- Whether a value is a truth value itself. -/
def isTruth : Value → Bool
  | .bool _ => true
  | _ => false

/-- The internal type of an input, under the newer of its two names if that says anything. -/
def internalType? (entries : List (Value × Value)) : Option Value :=
  match Value.find? entries "internal_type" with
  | none => Value.find? entries "internalType"
  | some old =>
      match Value.find? entries "internalType" with
      | none => some old
      | some new => some (if new.isEmpty then old else new)

/-! ## Values in the place of inputs -/

mutual

/-- Refuses a value in the place of an input that cannot be asked for the older name of the
internal type, and one that seems to have it but has no fields. -/
def probe : Value → Except Failure Unit
  | .mapping entries => do
      probeType entries
      probeComponents entries
  | .text s =>
      if (s.splitOn "internal_type").length = 1 then .ok () else .error .notAMapping
  | .list items =>
      if items.any fun v => v.isText "internal_type" then .error .notAMapping else .ok ()
  | _ => .error .wrongKind

/-- Refuses such a value as the type of an input. -/
def probeType : List (Value × Value) → Except Failure Unit
  | [] => .ok ()
  | (key, v) :: rest =>
      if key.isText "type" then (if isSomeText v then .ok () else probe v) else probeType rest

/-- Refuses such a value among the components of an input. -/
def probeComponents : List (Value × Value) → Except Failure Unit
  | [] => .ok ()
  | (key, v) :: rest =>
      if key.isText "components" then probeItems v else probeComponents rest

/-- Refuses such a value among the items of a list. -/
def probeItems : Value → Except Failure Unit
  | .list items => probeAll items
  | _ => .ok ()

/-- Refuses such a value among values. -/
def probeAll : List Value → Except Failure Unit
  | [] => .ok ()
  | v :: vs => do
      probe v
      probeAll vs

end

/-- Refuses an entry that lists a value in the place of an input that cannot be one. -/
def probeEntry : Value → Except Failure Unit
  | .mapping entries =>
      ["inputs", "outputs", "members"].forM fun key =>
        match Value.find? entries key with
        | some v => probeItems v
        | none => .ok ()
  | _ => .ok ()

/-! ## Weighing -/

/-- How much of an entry has been known. -/
structure Tally where
  count : Nat
  /-- Whether everything since the last start was found as it has to be. -/
  exact : Bool
  deriving DecidableEq, Repr

namespace Tally

/-- Nothing known of a value. -/
def fresh : Tally := ⟨0, true⟩

/-- Nothing known of the fields of a mapping. -/
def start : Tally := ⟨0, false⟩

/-- More fields known. -/
def add (t : Tally) (n : Nat) : Tally := ⟨t.count + n, t.exact⟩

/-- Another value known as well. -/
def join (t u : Tally) : Tally := ⟨t.count + u.count, t.exact && u.exact⟩

/-- Whether a tally is less than another. -/
def less (t u : Tally) : Bool :=
  if t.count = u.count then !t.exact && u.exact else t.count < u.count

end Tally

mutual

/-- A tally with an input, nothing if the value is none: an input has a type and maybe a name, and
its components are inputs. -/
def weigh : Tally → Value → Option Tally
  | t, .mapping entries =>
      if isNoneOrText (Value.find? entries "name") && isNoneOrText (internalType? entries) then do
        let t ← weighType ⟨t.count, false⟩ entries
        let t ← weighComponents t entries
        return t.add (present entries ["name", "type", "components"] +
          (if (internalType? entries).isSome then 1 else 0))
      else none
  | _, _ => none

/-- A tally with the type of an input, which is a text or an input itself. -/
def weighType : Tally → List (Value × Value) → Option Tally
  | _, [] => none
  | t, (key, v) :: rest =>
      if key.isText "type" then
        (if isSomeText v then some .fresh else (weigh .fresh v).map t.join)
      else weighType t rest

/-- A tally with the components of an input. -/
def weighComponents : Tally → List (Value × Value) → Option Tally
  | t, [] => some t
  | t, (key, v) :: rest =>
      if key.isText "components" then weighItems t v else weighComponents t rest

/-- A tally with the inputs that a value lists. -/
def weighItems : Tally → Value → Option Tally
  | t, .null => some t
  | t, .list items => weighAll t items
  | _, _ => none

def weighAll : Tally → List Value → Option Tally
  | t, [] => some t
  | t, v :: vs =>
      match weigh t v with
      | some t => weighAll t vs
      | none => none

end

/-- A tally with a field that may be missing and otherwise stands for a truth value. -/
def weighTruth (t : Tally) (entries : List (Value × Value)) (key : String) : Option Tally :=
  match Value.find? entries key with
  | none => some t
  | some v => if isTruthLike v then some ⟨t.count + 1, t.exact && isTruth v⟩ else none

/-- A tally with an input of an event, which may be indexed. -/
def weighEventInput (t : Tally) (v : Value) : Option Tally :=
  match weigh t v, v with
  | some t, .mapping entries => weighTruth t entries "indexed"
  | _, _ => none

/-- A tally with the items of a list that may be missing. -/
def weighList (weighItem : Tally → Value → Option Tally) (t : Tally)
    (entries : List (Value × Value)) (key : String) : Option Tally :=
  match Value.find? entries key with
  | none => some t
  | some (.list items) => items.foldlM weighItem t
  | some _ => none

/-! ## Kinds of entries -/

/-- The kinds of entries in their order. -/
inductive Kind where
  | constructor
  | fallback
  | receive
  | function
  | event
  | error
  | struct
  /-- Anything that names a type. -/
  | unknown
  deriving DecidableEq, Repr

namespace Kind

/-- All kinds, the earlier before the later. -/
def all : List Kind :=
  [.constructor, .fallback, .receive, .function, .event, .error, .struct, .unknown]

/-- The type that entries of a kind name. -/
def word : Kind → String
  | .constructor => "constructor"
  | .fallback => "fallback"
  | .receive => "receive"
  | .function => "function"
  | .event => "event"
  | .error => "error"
  | .struct => "struct"
  | .unknown => ""

/-- Whether an entry may be of a kind by the type it names, which may be missing. -/
def suits (k : Kind) (entries : List (Value × Value)) : Bool :=
  match k, Value.find? entries "type" with
  | .unknown, some v => isSomeText v
  | .unknown, none => false
  | _, none => true
  | k, some v => v.isText k.word

/-- Whether a word says how an entry of a kind may change the state of its contract. -/
def allows (k : Kind) (mutability : Value) : Bool :=
  match k with
  | .function => isSomeText mutability
  | .receive => mutability.isText "payable"
  | .constructor => mutability.isText "payable" || mutability.isText "nonpayable"
  | .fallback => mutability.isText "payable" || mutability.isText "nonpayable"
  | _ => true

/-- The plain fields of a kind. -/
def fields : Kind → List String
  | .constructor => ["type", "stateMutability", "inputs"]
  | .fallback => ["type", "stateMutability"]
  | .receive => ["type", "stateMutability"]
  | .function => ["type", "name", "stateMutability", "inputs", "outputs"]
  | .event => ["type", "name", "inputs"]
  | .error => ["type", "name", "inputs"]
  | .struct => ["type", "name", "members"]
  | .unknown => ["type"]

/-- Whether entries of a kind have to have a name. -/
def isNamed : Kind → Bool
  | .function => true
  | .event => true
  | .error => true
  | .struct => true
  | _ => false

/-- A tally with what an entry of a kind lists. -/
def weighLists (k : Kind) (entries : List (Value × Value)) : Option Tally :=
  match k with
  | .constructor => weighList weigh .start entries "inputs"
  | .error => weighList weigh .start entries "inputs"
  | .function => do weighList weigh (← weighList weigh .start entries "inputs") entries "outputs"
  | .event => do
      weighTruth (← weighList weighEventInput .start entries "inputs") entries "anonymous"
  | .struct =>
      if (Value.find? entries "members").isSome then weighList weigh .start entries "members"
      else none
  | _ => some .start

/-- How much of an entry a kind knows, nothing if the entry is not well formed for it. -/
def tally? (k : Kind) (entries : List (Value × Value)) : Option Tally :=
  if k.suits entries && (!k.isNamed || (text? entries "name").isSome) &&
      ((Value.find? entries "stateMutability").all k.allows) then
    (k.weighLists entries).map fun t => t.add (present entries k.fields)
  else none

/-- The kind of an entry: the one that knows the most of it, the earlier of two that know as
much. -/
def of? (entries : List (Value × Value)) : Option Kind :=
  let step (best : Option (Kind × Tally)) (k : Kind) : Option (Kind × Tally) :=
    match best, k.tally? entries with
    | none, some t => some (k, t)
    | some (l, u), some t => if u.less t then some (k, t) else some (l, u)
    | best, none => best
  (all.foldl step none).map Prod.fst

end Kind

/-! ## Reading -/

/-- An input that is well formed. A type that is none by a text has no name. -/
def input (v : Value) : Input :=
  match v with
  | .mapping entries => ⟨text? entries "name", (text? entries "type").getD ""⟩
  | _ => ⟨none, ""⟩

/-- The inputs of an entry, none where they are missing. -/
def inputs (entries : List (Value × Value)) : List Input :=
  match Value.find? entries "inputs" with
  | some (.list items) => items.map input
  | _ => []

def function (entries : List (Value × Value)) : Function :=
  { overload := { name := (text? entries "name").getD "", inputs := inputs entries }
    mutability := (text? entries "stateMutability").getD "nonpayable" }

/-- An entry of an interface, nothing if it is of no kind. -/
def entry? (v : Value) : Option InterfaceEntry :=
  match v with
  | .mapping entries =>
      match Kind.of? entries with
      | some .constructor => some (.constructor (inputs entries))
      | some .function => some (.function (function entries))
      | some _ => some .other
      | none => none
  | _ => none

/-- The entries of an interface, nothing if one of them is of no kind. -/
def entries? (items : List Value) : Except Failure (Option (List InterfaceEntry)) := do
  items.forM probeEntry
  return items.mapM entry?

/-- The inputs of the first constructor of an interface. -/
def constructorInputs (es : List InterfaceEntry) : List Input :=
  (es.findSome? fun e => match e with
    | .constructor inputs => some inputs
    | _ => none).getD []

def functions (es : List InterfaceEntry) : List Function :=
  es.filterMap fun e => match e with
    | .function f => some f
    | _ => none

end Interface

end Rollout

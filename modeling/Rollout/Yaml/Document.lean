import Rollout.Value.Basic

/-!
# Documents

A document is what a YAML text says, with its collections kept apart: each has a
number, and wherever it occurs only the number stands. So what is done to a
collection is seen wherever it occurs, a collection may lie inside itself, and a
short text that repeats itself many times over stays short.

`Document.value` puts the collections back to where they occur. A collection
inside itself is cut off where it starts over.
-/

namespace Rollout.Yaml

/-- A value, or the number of a collection. -/
inductive Item where
  | leaf (v : Value)
  | shared (id : Nat)

inductive Collection where
  | list (items : List Item)
  /-- The entries of an ordered mapping. -/
  | pairs (entries : List (Item × Item))
  | set (members : List Value)
  | mapping (entries : List (Value × Item))

/-- Collections by number, and what the document is as a whole. -/
structure Document where
  root : Item
  collections : Array (Option Collection)

namespace Document

def ofValue (v : Value) : Document := ⟨.leaf v, #[]⟩

/-- The collection of a number. -/
def collection? (d : Document) (id : Nat) : Option Collection := (d.collections[id]?).join

/-- The document with another collection at a number. -/
def put (d : Document) (id : Nat) (c : Collection) : Document :=
  { d with collections := d.collections.setIfInBounds id (some c) }

/-! ## Looking -/

def entries? (d : Document) : Item → Option (List (Value × Item))
  | .leaf (.mapping entries) => some (entries.map fun e => (e.1, .leaf e.2))
  | .leaf _ => none
  | .shared id =>
      match d.collection? id with
      | some (.mapping entries) => some entries
      | _ => none

def entry? (d : Document) (item : Item) (key : String) : Option Item :=
  (d.entries? item).bind fun entries => Value.find? entries key

/-- Whether an item counts as absent where it is optional. -/
def isEmpty (d : Document) : Item → Bool
  | .leaf v => v.isEmpty
  | .shared id =>
      match d.collection? id with
      | some (.list items) => items.isEmpty
      | some (.pairs entries) => entries.isEmpty
      | some (.set members) => members.isEmpty
      | some (.mapping entries) => entries.isEmpty
      | none => true

/-! ## Values -/

/-- A collection at the place where it starts over inside itself. -/
def recurrence : Collection → Value
  | .mapping _ => .recurrence true
  | _ => .recurrence false

/-- The value of an item inside the collections of a path. -/
def valueWithin (d : Document) : (fuel : Nat) → (path : List Nat) → Item → Value
  | _, _, .leaf v => v
  | 0, _, .shared _ => .null
  | fuel + 1, path, .shared id =>
      match d.collection? id with
      | none => .null
      | some c =>
          if path.contains id then recurrence c
          else match c with
            | .list items => .list (items.map (d.valueWithin fuel (id :: path)))
            | .pairs entries => .list (entries.map fun e =>
                .tuple [d.valueWithin fuel (id :: path) e.1, d.valueWithin fuel (id :: path) e.2])
            | .set members => .set members
            | .mapping entries => .mapping (entries.map fun e =>
                (e.1, d.valueWithin fuel (id :: path) e.2))

def value (d : Document) (item : Item) : Value := d.valueWithin (d.collections.size + 1) [] item

end Document

end Rollout.Yaml

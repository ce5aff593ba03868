import Rollout.Value.Slots
import Rollout.Yaml.Document
import Rollout.Yaml.Merge
import Rollout.Yaml.Node
import Rollout.Yaml.Scalar

/-!
# Putting a document together

`Document.ofText` gives what a YAML text says. Nodes are met from the root on: a
scalar has its value at once, and a collection gets its contents in its turn,
after all collections that were met before it. The first node met that has no
value decides what is wrong with the text.

A mapping is settled when its turn comes, so a merge is seen by all who meet the
mapping later, and by those who met it before but have not looked inside.
-/

namespace Rollout.Yaml

/-! ## Scalars -/

namespace Graph

/-- The text of a scalar. A mapping with the key `=` stands for the scalar of that entry where a
scalar is wanted. -/
def text (g : Graph) : (fuel : Nat) → (id : Nat) → Except Error String
  | 0, _ => .error .tooDeep
  | fuel + 1, id =>
      match (g.node id).content with
      | .scalar s => .ok s
      | .sequence _ => .error .wrongKind
      | .mapping entries =>
          match entries.find? fun entry => (g.node entry.1).tag == .value with
          | some entry => text g fuel entry.2
          | none => .error .wrongKind

/-- The value of a node that its tag says is a scalar. -/
def leaf (g : Graph) (id : Nat) : Except Error Value := do
  let n := g.node id
  if !n.tag.isScalar then throw .unknownTag
  let text ← g.text (g.size + 1) id
  match n.tag, n.content with
  | .timestamp, .mapping _ => throw .mappingAsTimestamp
  | tag, _ => Scalar.value tag text

end Graph

/-! ## Keys -/

/-- A key of a mapping. Only the word for NaN is one and the same value wherever it stands; a NaN
of another spelling is a key of its own, told from others by its node. -/
structure Key where
  value : Value
  origin : Option Nat

namespace Key

/-- Whether two keys are the same key of a mapping. -/
def same (k l : Key) : Bool := k.origin == l.origin && Value.sameKey k.value l.value

/-- Puts an entry: a key that is there keeps its place, a new one goes to the end. -/
def put {α : Type} (entries : List (Key × α)) (key : Key) (a : α) : List (Key × α) :=
  match entries with
  | [] => [(key, a)]
  | (k, b) :: rest => if k.same key then (k, a) :: rest else (k, b) :: put rest key a

/-- The entries of a mapping whose entries are put one after the other. -/
def putAll {α : Type} (entries : List (Key × α)) : List (Value × α) :=
  (entries.foldl (fun m e => put m e.1 e.2) []).map fun e => (e.1.value, e.2)

/-- The key that the value of a node is. -/
def ofNode (g : Graph) (id : Nat) (v : Value) : Key :=
  match v, g.text (g.size + 1) id with
  | .float .nan, .ok text => ⟨v, if Scalar.isNanWord text then none else some id⟩
  | _, _ => ⟨v, none⟩

end Key

/-! ## Drafts -/

/-- A document that is being put together. -/
structure Draft where
  graph : Graph
  /-- What the nodes are that have been met. -/
  items : Array (Option Item)
  /-- The collections that have been met, in this order. -/
  met : Array Nat
  collections : Array (Option Collection)

/-- Putting a document together, with errors. -/
abbrev Drafting := StateT Draft (Except Error)

namespace Draft

/-- The draft of a graph of which nothing has been met. -/
def start (g : Graph) : Draft :=
  { graph := g, items := Array.replicate g.size none, met := #[],
    collections := Array.replicate g.size none }

/-- Meets a node. -/
def meet (id : Nat) : Drafting Item := do
  let d ← get
  match (d.items[id]?).join with
  | some item => return item
  | none =>
      if (d.graph.node id).tag.isCollection then
        modify fun d =>
          { d with items := d.items.setIfInBounds id (some (.shared id)), met := d.met.push id }
        return .shared id
      else
        let v ← d.graph.leaf id
        modify fun d => { d with items := d.items.setIfInBounds id (some (.leaf v)) }
        return .leaf v

/-- Meets the key of a mapping. -/
def meetKey (id : Nat) : Drafting Key := do
  match ← meet id with
  | .leaf v => return .ofNode (← get).graph id v
  | .shared _ => throw .collectionAsKey

/-- Meets an item of an ordered mapping, which is a mapping with one entry. -/
def meetPair (id : Nat) : Drafting (Item × Item) := do
  match ((← get).graph.node id).content with
  | .mapping [(key, value)] => return (← meet key, ← meet value)
  | _ => throw .wrongKind

/-- Meets an entry of a mapping. -/
def meetEntry (entry : Nat × Nat) : Drafting (Key × Item) := do
  return (← meetKey entry.1, ← meet entry.2)

/-- Settles a mapping and meets its entries; `fuel` is more than the entries that ask for a merge. -/
def meetEntries (fuel id : Nat) : Drafting (List (Value × Item)) := do
  let d ← get
  let (_, g) ← (Merge.settle fuel id []).run d.graph
  modify fun d => { d with graph := g }
  return Key.putAll (← (g.node id).entries.mapM meetEntry)

/-- What a collection is made of. -/
def contents (fuel id : Nat) : Drafting Collection := do
  let n := (← get).graph.node id
  match n.tag, n.content with
  | .seq, .sequence items => .list <$> items.mapM meet
  | .orderedMap, .sequence items => .pairs <$> items.mapM meetPair
  | .pairs, .sequence items => .pairs <$> items.mapM meetPair
  | .map, .mapping _ => .mapping <$> meetEntries fuel id
  | .set, .mapping _ => do
      return .set (Value.Slots.arrange ((← meetEntries fuel id).map Prod.fst))
  | _, _ => throw .wrongKind

/-- Gives their contents to the collections met, from a place in their order on. -/
def complete (merges : Nat) : (fuel : Nat) → (place : Nat) → Drafting Unit
  | 0, _ => return
  | fuel + 1, place => do
      match (← get).met[place]? with
      | none => return
      | some id =>
          let c ← contents merges id
          modify fun d => { d with collections := d.collections.setIfInBounds id (some c) }
          complete merges fuel (place + 1)

end Draft

namespace Document

def ofGraph (root : Nat) (g : Graph) : Except Error Document := do
  let build : Drafting Item := do
    let item ← Draft.meet root
    Draft.complete (Merge.pending g + 1) g.size 0
    return item
  let (item, d) ← build.run (.start g)
  return { root := item, collections := d.collections }

/-- What a YAML text says; a text without a document says nothing. -/
def ofText (cs : List Char) : Except Error Document := do
  match ← Graph.ofText? cs with
  | none => return .ofValue .null
  | some (root, g) => ofGraph root g

end Document

end Rollout.Yaml

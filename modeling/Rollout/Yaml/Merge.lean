import Rollout.Yaml.Error
import Rollout.Yaml.Graph

/-!
# Merging mappings

The value of the key `<<` is a mapping, or a list of mappings, whose entries
count as the mapping's own where it has none of that key. `Merge.settle` carries
these entries out in the graph: what is merged in comes first, so that the
mapping's own entries override it. It settles the mappings that are merged in as
well, and all who refer to one of them see it settled.

In a settled mapping the key `=` is a text like any other.

A mapping may be merged into itself. An entry is taken out of its mapping before
the mappings it names are settled, so their number bounds all settling.
-/

namespace Rollout.Yaml

/-- Merging, with errors. -/
abbrev Merge := StateT Graph (Except Error)

namespace Merge

def asksMerge (g : Graph) (entry : Nat × Nat) : Bool := (g.node entry.1).tag == .merge

/-- What the first entry that asks for a merge names, and the entries without it. -/
def split? (g : Graph) : List (Nat × Nat) → Option (Nat × List (Nat × Nat))
  | [] => none
  | entry :: entries =>
      if asksMerge g entry then some (entry.2, entries)
      else (split? g entries).map fun (source, rest) => (source, entry :: rest)

/-- How many entries ask for a merge. -/
def pending (g : Graph) : Nat :=
  g.foldl (fun n node => n + (node.entries.filter (asksMerge g)).length) 0

/-- The keys `=` of entries become texts. -/
def nameKeys (entries : List (Nat × Nat)) : Merge Unit :=
  modify fun g => entries.foldl
    (fun g entry => if (g.node entry.1).tag == .value then g.retag entry.1 .str else g) g

/-- Settles a mapping, given the entries gathered for it so far. -/
def settle : (fuel : Nat) → (id : Nat) → (gathered : List (Nat × Nat)) → Merge Unit
  | 0, _, _ => throw .malformedMerge
  | fuel + 1, id, gathered => do
      let g ← get
      match split? g (g.node id).entries with
      | none =>
          let entries := gathered ++ (g.node id).entries
          set (g.putEntries id entries)
          nameKeys entries
      | some (source, rest) =>
          set (g.putEntries id rest)
          match (g.node source).content with
          | .scalar _ => throw .malformedMerge
          | .mapping _ =>
              settle fuel source []
              settle fuel id (gathered ++ ((← get).node source).entries)
          | .sequence items =>
              let parts ← items.mapM fun item => do
                match ((← get).node item).content with
                | .mapping _ =>
                    settle fuel item []
                    return ((← get).node item).entries
                | _ => throw .malformedMerge
              settle fuel id (gathered ++ parts.reverse.flatten)

end Merge

end Rollout.Yaml

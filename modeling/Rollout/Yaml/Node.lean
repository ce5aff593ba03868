import Rollout.Yaml.Graph
import Rollout.Yaml.Token

/-!
# Reading the nodes of a YAML text

`Graph.ofText?` reads the one document of a text into a graph and gives the
number of its root: the grammar is followed by recursive descent over the
tokens, with the anchors seen so far at hand.

A node gets its number before what is inside it is read. So an alias inside a
collection can stand for the collection.
-/

namespace Rollout.Yaml

/-- The reader between two tokens. -/
structure Reader where
  tokens : List Token
  /-- What is met after the last token if the text is at fault. -/
  fault? : Option Error
  /-- What the anchors stand for. -/
  anchors : List (String × Nat)
  /-- What the tag handles stand for. -/
  handles : List (String × String)
  graph : Graph
  /-- How many collections the reader is inside of. -/
  depth : Nat

/-- Reading with errors. -/
abbrev Read := StateT Reader (Except Error)

namespace Read

/-! ## Tokens -/

/-- The next token, if the text has not ended. -/
def peek : Read (Option Token) := do
  let r ← get
  match r.tokens, r.fault? with
  | t :: _, _ => return some t
  | [], none => return none
  | [], some e => throw e

/-- Past the next token. -/
def advance : Read Unit := modify fun r => { r with tokens := r.tokens.tail }

def next (t : Token) : Read Bool := do return (← peek) == some t

def accept (t : Token) : Read Bool := do
  if ← next t then
    advance
    return true
  else return false

def expect (t : Token) : Read Unit := do
  if !(← accept t) then throw .unexpectedToken

def nextIn (ts : List Token) : Read Bool := do
  match ← peek with
  | some t => return ts.contains t
  | none => return false

/-! ## Properties -/

/-- An anchor and a tag, in either order and both optional. -/
structure Properties where
  anchor : Option String
  tag : Option String

/-- The full name of a tag. -/
def fullTag (handle : Option String) (suffix : String) : Read String := do
  match handle with
  | none => return suffix
  | some h =>
      match (← get).handles.find? (·.1 == h) with
      | some (_, uri) => return uri ++ suffix
      | none => throw .malformedTag

/-- The anchor at the next place, if one is there. -/
def anchorHere : Read (Option String) := do
  match ← peek with
  | some (.anchor name) => advance; return some name
  | _ => return none

/-- The tag at the next place, if one is there. -/
def tagHere : Read (Option (Option String × String)) := do
  match ← peek with
  | some (.tag handle suffix) => advance; return some (handle, suffix)
  | _ => return none

/-- The properties in front of a node. -/
def properties : Read Properties := do
  let first ← anchorHere
  let tag ← tagHere
  let anchor ← if first.isSome || tag.isNone then pure first else anchorHere
  let tag ← match tag with
    | some (handle, suffix) => some <$> fullTag handle suffix
    | none => pure none
  return { anchor, tag }

/-- Whether a tag leaves the type to be seen. -/
def isOpen (tag : Option String) : Bool := tag.isNone || tag == some "!"

/-- A scalar whose type is written, can be seen in a plain spelling, or is text. -/
def scalarNode (tag : Option String) (isPlain : Bool) (text : String) : Node :=
  let type :=
    if (isPlain && tag.isNone) || tag == some "!" then Tag.ofSpelling text.toList
    else match tag with
      | none => .str
      | some uri => .ofUri uri
  ⟨type, .scalar text⟩

/-- The type of a collection. -/
def collectionTag (tag : Option String) (usual : Tag) : Tag :=
  match tag with
  | none => usual
  | some uri => if uri == "!" then usual else .ofUri uri

/-! ## Nodes and anchors -/

/-- A new node and its number. -/
def addNode (n : Node) : Read Nat := do
  let id := (← get).graph.size
  modify fun r => { r with graph := r.graph.push n }
  return id

/-- A new node, to which its anchor refers from now on; the anchor must be new. -/
def begin (anchor : Option String) (n : Node) : Read Nat := do
  match anchor with
  | none => addNode n
  | some name =>
      if (← get).anchors.any (·.1 == name) then throw .repeatedAnchor
      let id ← addNode n
      modify fun r => { r with anchors := (name, id) :: r.anchors }
      return id

/-- The node that an alias stands for. -/
def resolve (name : String) : Read Nat := do
  match (← get).anchors.find? (·.1 == name) with
  | some (_, id) => return id
  | none => throw .undefinedAlias

/-- What a node is made of once it has been read. -/
def fill (id : Nat) (content : Content) : Read Unit :=
  modify fun r => { r with graph := r.graph.put id { r.graph.node id with content } }

/-- How many collections may lie inside one another. -/
def maxDepth : Nat := 486

/-- Into a collection. -/
def descend : Read Unit := do
  if maxDepth ≤ (← get).depth then throw .tooDeep
  modify fun r => { r with depth := r.depth + 1 }

/-- Out of a collection. -/
def ascend : Read Unit := modify fun r => { r with depth := r.depth - 1 }

/-- A collection, given how to read what is inside it. -/
def collection (p : Properties) (usual : Tag) (inside : Read Content) : Read Nat := do
  let id ← begin p.anchor ⟨collectionTag p.tag usual, .sequence []⟩
  descend
  let content ← inside
  ascend
  fill id content
  return id

/-- A sequence, given how to read its items. -/
def sequence (p : Properties) (items : Read (List Nat)) : Read Nat :=
  collection p .seq (.sequence <$> items)

/-- A mapping, given how to read its entries. -/
def mapping (p : Properties) (entries : Read (List (Nat × Nat))) : Read Nat :=
  collection p .map (.mapping <$> entries)

/-- A node without properties where nothing is written. -/
def emptyNode : Read Nat := addNode .empty

/-! ## Beginnings -/

/-- What the first token after the properties says of a node. -/
inductive Beginning where
  | scalar (text : String) (isPlain : Bool)
  /-- A block sequence at the column of its key. -/
  | compact
  | blockSequence
  | blockMapping
  | flowSequence
  | flowMapping
  /-- Nothing but properties. -/
  | nothing

/-- How a node begins. Blocks are read where `block` is set, and entries at their parent's column
where `compact` is. -/
def beginning (block compact : Bool) (p : Properties) : Read Beginning := do
  let next ← peek
  if compact && next == some .blockEntry then return .compact
  match next with
  | some (.scalar text isPlain) => return .scalar text isPlain
  | some .flowSequenceStart => return .flowSequence
  | some .flowMappingStart => return .flowMapping
  | some .blockSequenceStart =>
      if block then return .blockSequence
  | some .blockMappingStart =>
      if block then return .blockMapping
  | _ => pure ()
  if p.anchor.isSome || p.tag.isSome then return .nothing else throw .unexpectedToken

/-! ## Grammar -/

mutual

def node : (fuel : Nat) → (block compact : Bool) → Read Nat
  | 0, _, _ => throw .unexpectedToken
  | fuel + 1, block, compact => do
      if let some (.reference name) ← peek then
        advance
        return ← resolve name
      let p ← properties
      match ← beginning block compact p with
      | .nothing => begin p.anchor (scalarNode p.tag (isOpen p.tag) "")
      | .scalar text isPlain =>
          advance
          begin p.anchor (scalarNode p.tag isPlain text)
      | .compact => sequence p (compactEntries fuel [])
      | .blockSequence =>
          sequence p do
            advance
            blockItems fuel []
      | .flowSequence =>
          sequence p do
            advance
            flowItems fuel []
      | .blockMapping =>
          mapping p do
            advance
            blockEntries fuel []
      | .flowMapping =>
          mapping p do
            advance
            flowEntries fuel []

/-- A node, or the empty one where one of several tokens comes next. -/
def nodeUnless : (fuel : Nat) → (stops : List Token) → (block compact : Bool) → Read Nat
  | 0, _, _, _ => throw .unexpectedToken
  | fuel + 1, stops, block, compact => do
      if ← nextIn stops then emptyNode else node fuel block compact

def blockItems : (fuel : Nat) → List Nat → Read (List Nat)
  | 0, _ => throw .unexpectedToken
  | fuel + 1, items => do
      if ← accept .blockEntry then
        let item ← nodeUnless fuel [.blockEntry, .blockEnd] true false
        blockItems fuel (items ++ [item])
      else
        expect .blockEnd
        return items

/-- The items of a block sequence at the column of its key. -/
def compactEntries : (fuel : Nat) → List Nat → Read (List Nat)
  | 0, _ => throw .unexpectedToken
  | fuel + 1, items => do
      if ← accept .blockEntry then
        let item ← nodeUnless fuel [.blockEntry, .key, .value, .blockEnd] true false
        compactEntries fuel (items ++ [item])
      else return items

def blockEntries : (fuel : Nat) → List (Nat × Nat) → Read (List (Nat × Nat))
  | 0, _ => throw .unexpectedToken
  | fuel + 1, entries => do
      if ← accept .key then
        let key ← nodeUnless fuel [.key, .value, .blockEnd] true true
        let value ←
          if ← accept .value then nodeUnless fuel [.key, .value, .blockEnd] true true
          else emptyNode
        blockEntries fuel (entries ++ [(key, value)])
      else
        expect .blockEnd
        return entries

/-- The items of a sequence in brackets; a pair is a mapping of one entry. -/
def flowItems : (fuel : Nat) → List Nat → Read (List Nat)
  | 0, _ => throw .unexpectedToken
  | fuel + 1, items => do
      if ← accept .flowSequenceEnd then return items
      if !items.isEmpty then expect .flowEntry
      if ← accept .key then
        let item ← mapping ⟨none, none⟩ do
          let key ← nodeUnless fuel [.value, .flowEntry, .flowSequenceEnd] false false
          let value ←
            if ← accept .value then nodeUnless fuel [.flowEntry, .flowSequenceEnd] false false
            else emptyNode
          return [(key, value)]
        flowItems fuel (items ++ [item])
      else if ← accept .flowSequenceEnd then return items
      else
        let item ← node fuel false false
        flowItems fuel (items ++ [item])

/-- The entries of a mapping in brackets; a key alone has the empty value. -/
def flowEntries : (fuel : Nat) → List (Nat × Nat) → Read (List (Nat × Nat))
  | 0, _ => throw .unexpectedToken
  | fuel + 1, entries => do
      if ← accept .flowMappingEnd then return entries
      if !entries.isEmpty then expect .flowEntry
      if ← accept .key then
        let key ← nodeUnless fuel [.value, .flowEntry, .flowMappingEnd] false false
        let value ←
          if ← accept .value then nodeUnless fuel [.flowEntry, .flowMappingEnd] false false
          else emptyNode
        flowEntries fuel (entries ++ [(key, value)])
      else if ← accept .flowMappingEnd then return entries
      else
        let key ← node fuel false false
        flowEntries fuel (entries ++ [(key, ← emptyNode)])

end

/-! ## Documents -/

/-- The handles that need no directive. -/
def usualHandles : List (String × String) := [("!", "!"), ("!!", "tag:yaml.org,2002:")]

/-- The directives in front of a document: the handles they define. -/
def directives : (fuel : Nat) → (versioned : Bool) → List (String × String) →
    Read (List (String × String))
  | 0, _, _ => throw .malformedDirective
  | fuel + 1, versioned, handles => do
      match ← peek with
      | some (.versionDirective major _) =>
          if versioned || major != 1 then throw .malformedDirective
          advance
          directives fuel true handles
      | some (.tagDirective handle uri) =>
          if handles.any (·.1 == handle) then throw .malformedDirective
          advance
          directives fuel versioned (handles ++ [(handle, uri)])
      | some .otherDirective =>
          advance
          directives fuel versioned handles
      | _ => return handles

/-- Past the marks that end a document. -/
def documentEnds : (fuel : Nat) → Read Unit
  | 0 => return
  | fuel + 1 => do if ← accept .documentEnd then documentEnds fuel

/-- Whether the next token is a directive. -/
def atDirective : Read Bool := do
  match ← peek with
  | some (.versionDirective ..) => return true
  | some (.tagDirective ..) => return true
  | some .otherDirective => return true
  | _ => return false

/-- Past the directives and the mark that a document starts with. -/
def documentHead (fuel : Nat) : Read Unit := do
  let handles ← directives fuel false []
  expect .documentStart
  modify fun r => { r with handles := handles ++ usualHandles }

/-- The root of the only document of the text, nothing for a text without one. -/
def document (fuel : Nat) : Read (Option Nat) := do
  if (← peek).isNone then return none
  let marked := (← atDirective) || (← next .documentStart)
  if marked then documentHead fuel
  let blank ←
    if marked then
      pure ((← peek).isNone || (← atDirective) || (← nextIn [.documentStart, .documentEnd]))
    else pure false
  let root ← if blank then emptyNode else node fuel true false
  documentEnds fuel
  if (← peek).isNone then return some root
  documentHead fuel
  throw .severalDocuments

end Read

/-- The nodes of the only document of a text and the number of its root, if there is a document. -/
def Graph.ofText? (cs : List Char) : Except Error (Option (Nat × Graph)) := do
  let ts := Tokens.ofText cs
  let start : Reader :=
    { tokens := ts.known, fault? := ts.fault?, anchors := [], handles := Read.usualHandles,
      graph := #[], depth := 0 }
  let (root, r) ← (Read.document (4 * ts.known.length + 8)).run start
  return root.map fun id => (id, r.graph)

end Rollout.Yaml

import Rollout.Number.Shortest
import Rollout.Text.Quoted
import Rollout.Value.Moment

/-!
# Values

Parameter files, artifacts, call arguments and manifests all carry values whose
shape is not known beforehand. `Value` is their common type. A mapping is a list
of entries in the order in which its keys first came, because that order can be
seen; `Value.put` keeps it so and keeps keys apart.

A value is shown in two ways: `Value.shown` on its own, where a text stands as it
is, and `Value.quoted` inside another value. An integer can only be shown if it
is not too long; `Value.isWritable` says whether a value can.
-/

namespace Rollout

/-- A value of any shape. -/
inductive Value where
  | null
  | bool (b : Bool)
  | int (n : Int)
  | float (x : Binary64)
  | text (s : String)
  | bytes (bs : Bytes)
  | date (d : Date)
  | moment (t : Moment)
  | list (items : List Value)
  | tuple (items : List Value)
  | set (members : List Value)
  | mapping (entries : List (Value × Value))
  /-- A list or a mapping that lies inside itself, where it would start over. -/
  | recurrence (isMapping : Bool)
  deriving Inhabited

namespace Value

/-! ## Views -/

def isText (v : Value) (s : String) : Bool :=
  match v with
  | .text t => t == s
  | _ => false

@[simp] theorem isText_text (t s : String) : isText (.text t) s = (t == s) := rfl

theorem isText_iff (v : Value) (s : String) : isText v s = true ↔ v = .text s := by
  cases v <;> simp [isText]

/-- Values that count as absent where a value is optional: nothing, false, zero and empty ones. -/
def isEmpty : Value → Bool
  | .null => true
  | .bool b => !b
  | .int n => n == 0
  | .float x => x.isZero
  | .text s => s.isEmpty
  | .bytes bs => bs.isEmpty
  | .date _ => false
  | .moment _ => false
  | .list items => items.isEmpty
  | .tuple items => items.isEmpty
  | .set members => members.isEmpty
  | .mapping entries => entries.isEmpty
  | .recurrence _ => false

def ofOption : Option String → Value
  | none => .null
  | some s => .text s

/-! ## Mappings -/

/-- Whether two values are one key of a mapping: numbers are compared by value. -/
def sameKey : Value → Value → Bool
  | .null, .null => true
  | .bool a, .bool b => a == b
  | .bool a, .int n => n == (if a then 1 else 0)
  | .int n, .bool a => n == (if a then 1 else 0)
  | .bool a, .float x => x.isInteger (if a then 1 else 0)
  | .float x, .bool a => x.isInteger (if a then 1 else 0)
  | .int a, .int b => a == b
  | .int n, .float x => x.isInteger n
  | .float x, .int n => x.isInteger n
  | .float x, .float y => x.same y
  | .text s, .text t => s == t
  | .bytes a, .bytes b => a == b
  | .date a, .date b => a == b
  | .moment a, .moment b => a.same b
  | _, _ => false

def find? {α : Type} (entries : List (Value × α)) (key : String) : Option α :=
  (entries.find? fun e => e.1.isText key).map Prod.snd

/-- Puts an entry: a key that is there keeps its place, a new one goes to the end. -/
def put {α : Type} (entries : List (Value × α)) (key : Value) (a : α) : List (Value × α) :=
  match entries with
  | [] => [(key, a)]
  | (k, b) :: rest => if sameKey k key then (k, a) :: rest else (k, b) :: put rest key a

/-- The mapping whose entries are put one after the other. -/
def putAll {α : Type} (entries : List (Value × α)) : List (Value × α) :=
  entries.foldl (fun m e => put m e.1 e.2) []

/-! ## Text -/

/-- Items between round brackets; a comma follows the item of a tuple of one. -/
def tupleText : List String → String
  | [item] => "(" ++ item ++ ",)"
  | items => "(" ++ ", ".intercalate items ++ ")"

/-- Members between curly brackets; without members the word for a set. -/
def setText : List String → String
  | [] => "set()"
  | members => "\x7b" ++ ", ".intercalate members ++ "\x7d"

mutual

/-- A value inside another value. -/
def quoted : Value → String
  | .null => "None"
  | .bool b => if b then "True" else "False"
  | .int n => Integer.text n
  | .float x => x.text
  | .text s => Text.quote s
  | .bytes bs => Text.quoteBytes bs
  | .date d => d.quoted
  | .moment t => t.quoted
  | .list items => "[" ++ ", ".intercalate (quotedItems items) ++ "]"
  | .tuple items => tupleText (quotedItems items)
  | .set members => setText (quotedItems members)
  | .mapping entries => "\x7b" ++ ", ".intercalate (quotedEntries entries) ++ "\x7d"
  | .recurrence isMapping => if isMapping then "\x7b...\x7d" else "[...]"

/-- The items of a list, each inside it. -/
def quotedItems : List Value → List String
  | [] => []
  | v :: vs => quoted v :: quotedItems vs

/-- The entries of a mapping, a colon between key and value. -/
def quotedEntries : List (Value × Value) → List String
  | [] => []
  | (k, v) :: es => (quoted k ++ ": " ++ quoted v) :: quotedEntries es

end

/-- A value on its own: a text stands as it is. -/
def shown : Value → String
  | .text s => s
  | .date d => d.text
  | .moment t => t.text
  | v => v.quoted

@[simp] theorem shown_text (s : String) : shown (.text s) = s := rfl

mutual

/-- Whether a value can be shown: no integer in it has too many digits. -/
def isWritable : Value → Bool
  | .int n => Integer.isWritable n
  | .list items => areWritable items
  | .tuple items => areWritable items
  | .set members => areWritable members
  | .mapping entries => areWritableEntries entries
  | _ => true

/-- Whether all values can be shown. -/
def areWritable : List Value → Bool
  | [] => true
  | v :: vs => isWritable v && areWritable vs

/-- Whether all keys and values can be shown. -/
def areWritableEntries : List (Value × Value) → Bool
  | [] => true
  | (k, v) :: es => isWritable k && isWritable v && areWritableEntries es

end

end Value

end Rollout

import Rollout.Json.Reader

/-!
# Writing JSON

A value is written over several lines, each level two blanks further in, with
all characters outside ASCII, the delete character and all control characters
as escapes of 16-bit code units.

Not every value has a text. Byte strings, dates and sets have no form in JSON,
and a list that lies inside itself has no end. The limits are those of the
reader: integers have so many digits, and lists and mappings lie inside one
another so deep. `write` fails at the first part of a value that cannot be
written.
-/

namespace Rollout.Json

/-- Why a value has no text. -/
inductive WriteError where
  /-- A value of a kind that has no form in JSON. -/
  | noForm
  /-- A list or a mapping that lies inside itself. -/
  | circular
  /-- An integer of more digits than are allowed. -/
  | integerTooLong
  /-- Too many lists and mappings inside one another. -/
  | tooDeep
  deriving DecidableEq, Repr

/-! ## Texts -/

/-- The escape of a 16-bit code unit. -/
def unitEscape (n : Nat) : List Char := '\\' :: 'u' :: Hex.ofNat 4 n

/-- The spelling of one character inside a text. -/
def escapeChar (c : Char) : List Char :=
  if c = '"' then ['\\', '"']
  else if c = '\\' then ['\\', '\\']
  else if c = '\n' then ['\\', 'n']
  else if c = '\r' then ['\\', 'r']
  else if c = '\t' then ['\\', 't']
  else if c = '\x08' then ['\\', 'b']
  else if c = '\x0c' then ['\\', 'f']
  else
    let n := c.toNat
    if 32 ≤ n ∧ n < 127 then [c]
    else if n < 0x10000 then unitEscape n
    else
      unitEscape (0xD800 + (n - 0x10000) / 1024) ++ unitEscape (0xDC00 + (n - 0x10000) % 1024)

/-- A text between quotation marks. -/
def quote (s : String) : List Char := '"' :: (s.toList.flatMap escapeChar ++ ['"'])

/-! ## Numbers -/

/-- A floating point number. -/
def floatText (x : Binary64) : String :=
  match x with
  | .nan => "NaN"
  | .infinite negative => if negative then "-Infinity" else "Infinity"
  | x => x.text

def integerText (n : Int) : Except WriteError String :=
  if Integer.isWritable n then .ok (Integer.text n) else .error .integerTooLong

/-! ## Values -/

/-- A key as a text. -/
def keyText : Value → Except WriteError String
  | .text s => .ok s
  | .null => .ok "null"
  | .bool b => .ok (if b then "true" else "false")
  | .int n => integerText n
  | .float x => .ok (floatText x)
  | _ => .error .noForm

/-- A line end, and blanks for a level. -/
def lineAt (level : Nat) : List Char := '\n' :: List.replicate (2 * level) ' '

/-- Parts on lines of their own between two brackets. -/
def enclose (opening closing : Char) (level : Nat) (parts : List (List Char)) : List Char :=
  if parts.isEmpty then [opening, closing]
  else
    opening :: (lineAt (level + 1) ++ (List.intersperse (',' :: lineAt (level + 1)) parts).flatten ++
      lineAt level ++ [closing])

/-- What a level holds, unless it is too deep. -/
def within {α : Type} (level : Nat) (x : Except WriteError α) : Except WriteError α :=
  if level < maxDepth then x else .error .tooDeep

mutual

/-- A value at a level. -/
def writeAt (level : Nat) : Value → Except WriteError (List Char)
  | .null => .ok "null".toList
  | .bool b => .ok (if b then "true".toList else "false".toList)
  | .int n => (integerText n).map String.toList
  | .float x => .ok (floatText x).toList
  | .text s => .ok (quote s)
  | .bytes _ => .error .noForm
  | .date _ => .error .noForm
  | .moment _ => .error .noForm
  | .list items => within level ((writeItems (level + 1) items).map (enclose '[' ']' level))
  | .tuple items => within level ((writeItems (level + 1) items).map (enclose '[' ']' level))
  | .set _ => .error .noForm
  | .recurrence _ => .error .circular
  | .mapping entries =>
      within level ((writeEntries (level + 1) entries).map (enclose '\x7b' '\x7d' level))

def writeItems (level : Nat) : List Value → Except WriteError (List (List Char))
  | [] => .ok []
  | v :: vs => do
      let part ← writeAt level v
      return part :: (← writeItems level vs)

def writeEntries (level : Nat) : List (Value × Value) → Except WriteError (List (List Char))
  | [] => .ok []
  | (k, v) :: es => do
      let key ← keyText k
      let part ← writeAt level v
      return (quote key ++ ':' :: ' ' :: part) :: (← writeEntries level es)

end

/-- A value as a JSON text. -/
def write (v : Value) : Except WriteError (List Char) := writeAt 0 v

end Rollout.Json

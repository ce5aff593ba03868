import Rollout.Value.Basic

/-!
# Reading JSON

A JSON text is one value with blanks around it. Beyond the standard, the words
`NaN`, `Infinity` and `-Infinity` are numbers. A key that comes twice keeps its
first place and takes its last value; integers have any size up to the number of
digits that `Integer.maxDecimalDigits` allows; a number with a point or an
exponent is a floating point number. Half of a surrogate pair reads as the
replacement character. Lists and mappings lie inside one another only so deep.

Each reader takes the value off the front of a list of characters and gives what
is left.
-/

namespace Rollout.Json

/-- Why a text has no value. -/
inductive Error where
  | malformed
  /-- An integer of more digits than are allowed. -/
  | integerTooLong
  /-- Too many lists and mappings inside one another. -/
  | tooDeep
  deriving DecidableEq, Repr

/-- Blanks between tokens. -/
def isBlank (c : Char) : Bool := c == ' ' || c == '\t' || c == '\n' || c == '\r'

/-- Without blanks at the front. -/
def skipBlanks (cs : List Char) : List Char := cs.dropWhile isBlank

/-- What follows a word at the front. -/
def after? (word cs : List Char) : Option (List Char) :=
  if word.isPrefixOf cs then some (cs.drop word.length) else none

/-! ## Texts -/

/-- The number of four hexadecimal digits at the front. -/
def fourDigits? (cs : List Char) : Option Nat :=
  match (cs.take 4).mapM Hex.digit? with
  | some [a, b, c, d] => some (((a * 16 + b) * 16 + c) * 16 + d)
  | _ => none

/-- The character of a 16-bit code unit, if it is one alone. -/
def ofUnit (n : Nat) : Char := if n.isValidChar then Char.ofNat n else '\uFFFD'

/-- The character of a surrogate pair, if the two units are one. -/
def ofPair? (high low : Nat) : Option Char :=
  if 0xD800 ≤ high ∧ high < 0xDC00 ∧ 0xDC00 ≤ low ∧ low < 0xE000 then
    some (Char.ofNat (0x10000 + (high - 0xD800) * 1024 + (low - 0xDC00)))
  else none

/-- The low unit of a pair after the high one. -/
def lowUnit? (cs : List Char) : Option Nat :=
  match cs with
  | '\\' :: 'u' :: rest => fourDigits? rest
  | _ => none

/-- The character that a one-letter escape stands for. -/
def escape? (c : Char) : Option Char :=
  match c with
  | '"' => some '"'
  | '\\' => some '\\'
  | '/' => some '/'
  | 'b' => some '\x08'
  | 'f' => some '\x0c'
  | 'n' => some '\n'
  | 'r' => some '\r'
  | 't' => some '\t'
  | _ => none

/-- A text after its opening quotation mark. -/
def readText : (fuel : Nat) → List Char → Except Error (List Char × List Char)
  | 0, _ => .error .malformed
  | fuel + 1, cs =>
      match cs with
      | [] => .error .malformed
      | '"' :: rest => .ok ([], rest)
      | '\\' :: 'u' :: rest =>
          match fourDigits? rest with
          | none => .error .malformed
          | some unit =>
              let rest := rest.drop 4
              match (lowUnit? rest).bind (ofPair? unit) with
              | some c => do
                  let (text, rest) ← readText fuel (rest.drop 6)
                  return (c :: text, rest)
              | none => do
                  let (text, rest) ← readText fuel rest
                  return (ofUnit unit :: text, rest)
      | '\\' :: e :: rest =>
          match escape? e with
          | none => .error .malformed
          | some c => do
              let (text, rest) ← readText fuel rest
              return (c :: text, rest)
      | c :: rest =>
          if c == '\\' || c.toNat < 0x20 then .error .malformed
          else do
            let (text, rest) ← readText fuel rest
            return (c :: text, rest)

/-! ## Numbers -/

/-- The digits of an integer at the front: a zero alone, or digits that start with another. -/
def integerDigits? (cs : List Char) : Option (List Char × List Char) :=
  match cs with
  | '0' :: rest => some (['0'], rest)
  | c :: _ => if c.isDigit then some (cs.takeWhile Char.isDigit, cs.dropWhile Char.isDigit) else none
  | [] => none

/-- A point and digits at the front. -/
def fraction? (cs : List Char) : Option (List Char × List Char) :=
  match cs with
  | '.' :: rest =>
      let ds := rest.takeWhile Char.isDigit
      if ds.isEmpty then none else some (ds, rest.dropWhile Char.isDigit)
  | _ => none

def exponent? (cs : List Char) : Option (List Char × List Char) :=
  match cs with
  | e :: rest =>
      if e == 'e' || e == 'E' then
        let (sign, body) := match rest with
          | '-' :: body => (['-'], body)
          | '+' :: body => ([], body)
          | _ => ([], rest)
        let ds := body.takeWhile Char.isDigit
        if ds.isEmpty then none else some ('e' :: sign ++ ds, body.dropWhile Char.isDigit)
      else none
  | [] => none

/-- A number after its sign. -/
def readNumber (negative : Bool) (cs : List Char) : Except Error (Value × List Char) :=
  match integerDigits? cs with
  | none => .error .malformed
  | some (whole, rest) =>
      let (fraction, rest) := match fraction? rest with
        | some (ds, rest) => ('.' :: ds, rest)
        | none => ([], rest)
      let (exponent, rest) := (exponent? rest).getD ([], rest)
      if fraction.isEmpty && exponent.isEmpty then
        match Integer.readDecimal? whole with
        | some n => .ok (.int (if negative then -n else n), rest)
        | none => .error .integerTooLong
      else
        match Binary64.readUnsigned? negative (whole ++ fraction ++ exponent) with
        | some x => .ok (.float x, rest)
        | none => .error .malformed

/-- The words that stand for values. -/
def words : List (List Char × Value) :=
  [("null".toList, .null), ("true".toList, .bool true), ("false".toList, .bool false),
   ("NaN".toList, .float .nan), ("Infinity".toList, .float (.infinite false)),
   ("-Infinity".toList, .float (.infinite true))]

/-- A word or a number at the front. -/
def readScalar (cs : List Char) : Except Error (Value × List Char) :=
  match words.findSome? fun (word, v) => (after? word cs).map fun rest => (v, rest) with
  | some found => .ok found
  | none =>
      match cs with
      | '-' :: rest => readNumber true rest
      | _ => readNumber false cs

/-! ## Values -/

/-- How many lists and mappings may lie inside one another. -/
def maxDepth : Nat := 986

mutual

/-- A value at the front, with so many lists and mappings inside one another. -/
def readValue : (fuel depth : Nat) → List Char → Except Error (Value × List Char)
  | 0, _, _ => .error .malformed
  | fuel + 1, depth, cs =>
      match cs, depth with
      | '"' :: rest, _ => do
          let (text, rest) ← readText (rest.length + 1) rest
          return (.text (String.ofList text), rest)
      | '[' :: _, 0 => .error .tooDeep
      | '[' :: rest, depth + 1 =>
          match skipBlanks rest with
          | ']' :: rest => .ok (.list [], rest)
          | rest => do
              let (items, rest) ← readItems fuel depth rest
              return (.list items, rest)
      | '\x7b' :: _, 0 => .error .tooDeep
      | '\x7b' :: rest, depth + 1 =>
          match skipBlanks rest with
          | '\x7d' :: rest => .ok (.mapping [], rest)
          | rest => do
              let (entries, rest) ← readEntries fuel depth rest
              return (.mapping (Value.putAll entries), rest)
      | _, _ => readScalar cs

/-- The items of a list that has some, and its closing bracket. -/
def readItems : (fuel depth : Nat) → List Char → Except Error (List Value × List Char)
  | 0, _, _ => .error .malformed
  | fuel + 1, depth, cs => do
      let (v, rest) ← readValue fuel depth cs
      match skipBlanks rest with
      | ']' :: rest => return ([v], rest)
      | ',' :: rest =>
          let (items, rest) ← readItems fuel depth (skipBlanks rest)
          return (v :: items, rest)
      | _ => .error .malformed

/-- The entries of a mapping that has some, and its closing brace. -/
def readEntries : (fuel depth : Nat) → List Char →
    Except Error (List (Value × Value) × List Char)
  | 0, _, _ => .error .malformed
  | fuel + 1, depth, cs => do
      let (key, rest) ← match cs with
        | '"' :: rest => readText (rest.length + 1) rest
        | _ => .error .malformed
      let rest ← match skipBlanks rest with
        | ':' :: rest => Except.ok (skipBlanks rest)
        | _ => .error .malformed
      let (v, rest) ← readValue fuel depth rest
      let entry : Value × Value := (.text (String.ofList key), v)
      match skipBlanks rest with
      | '\x7d' :: rest => return ([entry], rest)
      | ',' :: rest =>
          let (entries, rest) ← readEntries fuel depth (skipBlanks rest)
          return (entry :: entries, rest)
      | _ => .error .malformed

end

def read (cs : List Char) : Except Error Value := do
  let (v, rest) ← readValue (2 * cs.length + 2) maxDepth (skipBlanks cs)
  if (skipBlanks rest).isEmpty then return v else .error .malformed

end Rollout.Json

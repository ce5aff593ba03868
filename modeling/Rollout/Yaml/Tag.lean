/-!
# Types of scalars

A tag says what a node is. Where none is written, a collection is a list or a
mapping, a quoted scalar is a text, and a plain scalar is whatever its spelling
looks like by the rules of YAML 1.1: `no` is a truth value, `0777` an octal
integer, `5:24` an integer in base sixty and `1e3`, for want of a point, a text.

The recognizers are built from a few operations on lists of characters that
consume a part at the front.
-/

namespace Rollout.Yaml

inductive Tag where
  | null
  | bool
  | int
  | float
  | binary
  | timestamp
  | orderedMap
  | pairs
  | set
  | str
  | seq
  | map
  /-- The key `<<`, whose value is merged into the mapping. -/
  | merge
  /-- The key `=`. -/
  | value
  | unknown
  deriving DecidableEq, Repr

namespace Tag

def isCollection : Tag → Bool
  | .seq => true
  | .map => true
  | .orderedMap => true
  | .pairs => true
  | .set => true
  | _ => false

/-- Whether the tag is that of a scalar with a value. -/
def isScalar : Tag → Bool
  | .merge => false
  | .value => false
  | .unknown => false
  | tag => !tag.isCollection

/-- The tag that a full name stands for. -/
def ofUri (uri : String) : Tag :=
  match uri with
  | "tag:yaml.org,2002:null" => .null
  | "tag:yaml.org,2002:bool" => .bool
  | "tag:yaml.org,2002:int" => .int
  | "tag:yaml.org,2002:float" => .float
  | "tag:yaml.org,2002:binary" => .binary
  | "tag:yaml.org,2002:timestamp" => .timestamp
  | "tag:yaml.org,2002:omap" => .orderedMap
  | "tag:yaml.org,2002:pairs" => .pairs
  | "tag:yaml.org,2002:set" => .set
  | "tag:yaml.org,2002:str" => .str
  | "tag:yaml.org,2002:seq" => .seq
  | "tag:yaml.org,2002:map" => .map
  | "tag:yaml.org,2002:merge" => .merge
  | "tag:yaml.org,2002:value" => .value
  | _ => .unknown

/-! ## Spellings -/

/-- A spelling without the line end that may follow it; a line end alone is a spelling. -/
def dropLineEnd : List Char → List Char
  | [] => []
  | [c] => [c]
  | [c, '\n'] => [c]
  | c :: rest => c :: dropLineEnd rest

/-- The decimal digits of ASCII, or the underscore. -/
def isDigitOrBar (c : Char) : Bool := c.isDigit || c == '_'

/-- Without a sign at the front. -/
def dropSign : List Char → List Char
  | '-' :: rest => rest
  | '+' :: rest => rest
  | cs => cs

/-- A nonempty text whose characters all pass a test. -/
def allOf (p : Char → Bool) (cs : List Char) : Bool := !cs.isEmpty && cs.all p

/-- An exponent with its sign, or nothing. -/
def isExponent : List Char → Bool
  | [] => true
  | e :: sign :: ds => (e == 'e' || e == 'E') && (sign == '-' || sign == '+') && allOf Char.isDigit ds
  | _ => false

/-- Parts in base sixty after the first: each `:` and one digit, or two from `00` to `59`. -/
def sixties : List Char → Option (List Char)
  | ':' :: a :: b :: rest =>
      if a.isDigit && b.isDigit then (if a ≤ '5' then some rest else none)
      else if a.isDigit then some (b :: rest) else none
  | [':', a] => if a.isDigit then some [] else none
  | _ => none

/-- Past as many parts in base sixty as there are. -/
def dropSixties : (fuel : Nat) → List Char → List Char
  | 0, cs => cs
  | fuel + 1, cs =>
      match sixties cs with
      | some rest => dropSixties fuel rest
      | none => cs

/-- A first part and at least one more in base sixty; what follows them. -/
def afterSixties? (cs : List Char) : Option (List Char) :=
  (sixties (cs.dropWhile isDigitOrBar)).map fun rest => dropSixties rest.length rest

/-- Spellings of truth values. -/
def looksBool (cs : List Char) : Bool :=
  ["yes", "Yes", "YES", "no", "No", "NO", "true", "True", "TRUE", "false", "False", "FALSE",
   "on", "On", "ON", "off", "Off", "OFF"].contains (String.ofList cs)

/-- Spellings of nothing. -/
def looksNull (cs : List Char) : Bool :=
  ["", "~", "null", "Null", "NULL"].contains (String.ofList cs)

/-- A number with a point: `1.5`, `.5`, `1_0.`, `1.5e+3`. -/
def looksDecimal (cs : List Char) : Bool :=
  match cs with
  | '.' :: d :: rest => d.isDigit && isExponent (rest.dropWhile isDigitOrBar)
  | _ =>
      let body := dropSign cs
      match body.dropWhile isDigitOrBar with
      | '.' :: rest => (body.headD '.').isDigit && isExponent (rest.dropWhile isDigitOrBar)
      | _ => false

/-- A number in base sixty with a point: `1:30.5`. -/
def looksSixtyFloat (cs : List Char) : Bool :=
  let body := dropSign cs
  (body.headD '.').isDigit &&
    match afterSixties? body with
    | some ('.' :: rest) => rest.all isDigitOrBar
    | _ => false

/-- Infinity and not-a-number. -/
def looksSpecial (cs : List Char) : Bool :=
  [".inf", ".Inf", ".INF"].contains (String.ofList (dropSign cs)) ||
    [".nan", ".NaN", ".NAN"].contains (String.ofList cs)

/-- Spellings of floating point numbers. -/
def looksFloat (cs : List Char) : Bool :=
  looksDecimal cs || looksSixtyFloat cs || looksSpecial cs

/-- Spellings of integers: binary, octal, decimal, hexadecimal and in base sixty. -/
def looksInt (cs : List Char) : Bool :=
  let body := dropSign cs
  match body with
  | '0' :: 'b' :: ds => allOf (fun c => c == '0' || c == '1' || c == '_') ds
  | '0' :: 'x' :: ds =>
      allOf (fun c => isDigitOrBar c || ('a' ≤ c && c ≤ 'f') || ('A' ≤ c && c ≤ 'F')) ds
  | '0' :: ds => ds.all fun c => ('0' ≤ c && c ≤ '7') || c == '_'
  | d :: ds => d.isDigit && (ds.all isDigitOrBar || afterSixties? body == some [])
  | [] => false

/-! ## Timestamps -/

/-- One or two digits at the front, as many as there are. -/
def twoDigits? : List Char → Option (List Char × List Char)
  | a :: b :: rest =>
      if a.isDigit && b.isDigit then some ([a, b], rest)
      else if a.isDigit then some ([a], b :: rest) else none
  | [a] => if a.isDigit then some ([a], []) else none
  | [] => none

/-- Exactly `n` digits at the front. -/
def digits? (n : Nat) (cs : List Char) : Option (List Char × List Char) :=
  let ds := cs.take n
  if ds.length = n ∧ ds.all Char.isDigit then some (ds, cs.drop n) else none

/-- A given character at the front. -/
def char? (c : Char) : List Char → Option (List Char)
  | d :: rest => if d = c then some rest else none
  | [] => none

end Tag

/-- The parts of a timestamp as digits; the time of day may be missing. -/
structure Timestamp where
  year : List Char
  month : List Char
  day : List Char
  /-- Hour, minute, second and fraction. -/
  time : Option (List Char × List Char × List Char × List Char)
  /-- Nothing, universal time, or a sign with hours and minutes. -/
  zone : Option (Option (Bool × List Char × List Char))
  deriving Repr

namespace Timestamp

open Tag

/-- A time zone after the time, with blanks in front of it. -/
def zone? (cs : List Char) : Option (Option (Option (Bool × List Char × List Char))) :=
  match cs.dropWhile fun c => c == ' ' || c == '\t' with
  | [] => if cs.isEmpty then some none else none
  | ['Z'] => some (some none)
  | sign :: rest =>
      if sign == '-' || sign == '+' then do
        let (hours, rest) ← twoDigits? rest
        if rest.isEmpty then return some (some (sign == '-', hours, []))
        let rest ← char? ':' rest
        let (minutes, rest) ← digits? 2 rest
        if rest.isEmpty then return some (some (sign == '-', hours, minutes)) else none
      else none

/-- The time of day after the date: `T`, `t` or blanks, then the time and its zone. -/
def timeOf? (year month day : List Char) (cs : List Char) : Option Timestamp := do
  let rest ← match cs with
    | 'T' :: rest => some rest
    | 't' :: rest => some rest
    | c :: _ =>
        if c == ' ' || c == '\t' then some (cs.dropWhile fun c => c == ' ' || c == '\t')
        else none
    | [] => none
  let (hour, rest) ← twoDigits? rest
  let (minute, rest) ← digits? 2 (← char? ':' rest)
  let (second, rest) ← digits? 2 (← char? ':' rest)
  let (fraction, rest) := match rest with
    | '.' :: rest => (rest.takeWhile Char.isDigit, rest.dropWhile Char.isDigit)
    | _ => ([], rest)
  let zone ← zone? rest
  return { year, month, day, time := some (hour, minute, second, fraction), zone }

/-- The parts of a timestamp, which may end with a line. -/
def parse? (cs : List Char) : Option Timestamp := do
  let (year, rest) ← digits? 4 (dropLineEnd cs)
  let (month, rest) ← twoDigits? (← char? '-' rest)
  let (day, rest) ← twoDigits? (← char? '-' rest)
  if rest.isEmpty then return { year, month, day, time := none, zone := none }
  timeOf? year month day rest

/-- Spellings of timestamps. A date alone needs two digits for month and day. -/
def looks (cs : List Char) : Bool :=
  match parse? cs with
  | some t => t.time.isSome || (t.month.length == 2 && t.day.length == 2)
  | none => false

end Timestamp

namespace Tag

/-- The type that a spelling looks like; a line end after it does not count. -/
def ofSpelling (text : List Char) : Tag :=
  let cs := dropLineEnd text
  if looksBool cs then .bool
  else if looksFloat cs then .float
  else if looksInt cs then .int
  else if cs == ['<', '<'] then .merge
  else if looksNull cs then .null
  else if Timestamp.looks cs then .timestamp
  else if cs == ['='] then .value
  else if cs == ['!'] || cs == ['&'] || cs == ['*'] then .unknown
  else .str

end Tag

end Rollout.Yaml

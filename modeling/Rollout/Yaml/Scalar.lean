import Rollout.Value.Basic
import Rollout.Yaml.Error
import Rollout.Yaml.Tag

/-!
# Values of scalars

A scalar is a text with a type, and `Scalar.value` reads the text by the type.
Whether a plain text looks like a number is settled before; here a type that is
written out may still meet a text that does not suit it.

Numbers may be grouped by underscores. Integers have binary, octal, hexadecimal
and sexagesimal spellings, and numbers with a point a sexagesimal one.
-/

namespace Rollout.Yaml

namespace Scalar

/-- Decimal parts of a number in base sixty. -/
def sixtyParts (cs : List Char) : List (List Char) :=
  match cs with
  | [] => [[]]
  | c :: rest =>
      if c = ':' then [] :: sixtyParts rest
      else match sixtyParts rest with
        | [] => [[c]]
        | part :: parts => (c :: part) :: parts

/-- An integer in any of its spellings. -/
def readInt (text : String) : Except Error Int :=
  let cs := text.toList.filter (· != '_')
  if cs.isEmpty then .error .emptyNumber
  else
    let (negative, body) := Integer.splitSign cs
    let result : Option Int :=
      match body with
      | ['0'] => some 0
      | '0' :: 'b' :: ds => Integer.readBased? 2 'b' ds
      | '0' :: 'x' :: ds => Integer.readBased? 16 'x' ds
      | '0' :: ds => Integer.readBased? 8 'o' ('0' :: ds)
      | _ =>
          if body.contains ':' then do
            let parts ← (sixtyParts body).mapM Integer.readDecimal?
            return parts.foldl (fun n part => 60 * n + part) 0
          else Integer.readDecimal? body
    if body.isEmpty then .error .emptyNumber
    else match result with
      | some n => .ok (if negative then -n else n)
      | none => .error .malformedInteger

/-- The sum of the parts of a number in base sixty, the last part first, each at a place that is
`base` times one. A place has to be near a floating point number even where its part is zero. -/
def sumSixties : (sum : Binary64) → (base : Int) → List Binary64 → Except Error Binary64
  | sum, _, [] => .ok sum
  | sum, base, part :: parts =>
      match Binary64.ofInt base with
      | .finite s m e =>
          sumSixties (Binary64.add sum (Binary64.mul part (.finite s m e))) (base * 60) parts
      | _ => .error .placeTooLarge

/-- The spelling of a floating point number without grouping, in lower case. -/
def floatSpelling (text : String) : List Char :=
  (text.toList.filter (· != '_')).map Char.toLower

/-- Whether a text is the word for NaN. -/
def isNanWord (text : String) : Bool :=
  (Integer.splitSign (floatSpelling text)).2 == ".nan".toList

/-- A floating point number without a sign. -/
def readUnsignedFloat (cs : List Char) : Except Error Binary64 :=
  if cs == ".inf".toList then .ok (.infinite false)
  else if cs == ".nan".toList then .ok .nan
  else if cs.contains ':' then
    match (sixtyParts cs).mapM Binary64.read? with
    | some parts => sumSixties (.zero false) 1 parts.reverse
    | none => .error .malformedFloat
  else match Binary64.read? cs with
    | some x => .ok x
    | none => .error .malformedFloat

/-- A floating point number in any of its spellings. -/
def readFloat (text : String) : Except Error Binary64 :=
  let cs := floatSpelling text
  let (negative, body) := Integer.splitSign cs
  if cs.isEmpty then .error .emptyNumber
  else (readUnsignedFloat body).map fun x => if negative then x.neg else x

/-- A truth value. -/
def readBool (text : String) : Except Error Bool :=
  let word := String.ofList (text.toList.map Char.toLower)
  if ["yes", "true", "on"].contains word then .ok true
  else if ["no", "false", "off"].contains word then .ok false
  else .error .malformedBoolean

/-- The number that digits denote. -/
def digitsValue (ds : List Char) : Nat := ds.foldl (fun n d => 10 * n + (d.toNat - 48)) 0

/-- A fraction of a second in microseconds: its first six digits. -/
def microseconds (fraction : List Char) : Nat :=
  let ds := fraction.take 6
  digitsValue (ds ++ List.replicate (6 - ds.length) '0')

/-- A date, or a moment if a time is written. -/
def readTimestamp (text : String) : Except Error Value :=
  match Timestamp.parse? text.toList with
  | none => .error .malformedTimestamp
  | some t =>
      match Date.make? (digitsValue t.year) (digitsValue t.month) (digitsValue t.day) with
      | none => .error .impossibleDate
      | some date =>
          match t.time with
          | none => .ok (.date date)
          | some (hour, minute, second, fraction) =>
              let offset : Option Int := t.zone.map fun zone => match zone with
                | none => 0
                | some (negative, hours, minutes) =>
                    Integer.signed negative (60 * digitsValue hours + digitsValue minutes)
              match Moment.make? date (digitsValue hour) (digitsValue minute)
                  (digitsValue second) (microseconds fraction) offset with
              | some m => .ok (.moment m)
              | none => .error .impossibleDate

/-- The value of a digit in base sixty-four. -/
def sextet? (c : Char) : Option Nat :=
  if 'A' ≤ c && c ≤ 'Z' then some (c.toNat - 65)
  else if 'a' ≤ c && c ≤ 'z' then some (c.toNat - 71)
  else if '0' ≤ c && c ≤ '9' then some (c.toNat + 4)
  else if c == '+' then some 62
  else if c == '/' then some 63
  else none

/-- Digits in base sixty-four up to the padding; `none` for padding that is missing. -/
def sextets (count pads : Nat) : List Char → Option (List Nat)
  | [] => if count % 4 = 0 then some [] else none
  | c :: rest =>
      if c == '=' then
        if 2 ≤ count % 4 ∧ 4 ≤ count % 4 + pads + 1 then some []
        else sextets count (if 2 ≤ count % 4 then pads + 1 else pads) rest
      else match sextet? c with
        | some n => (sextets (count + 1) 0 rest).map (n :: ·)
        | none => sextets count pads rest

/-- Bytes of six bits at a time. -/
def ofSextets : List Nat → Bytes
  | a :: b :: c :: d :: rest =>
      UInt8.ofNat (a * 4 + b / 16) :: UInt8.ofNat (b % 16 * 16 + c / 4) ::
        UInt8.ofNat (c % 4 * 64 + d) :: ofSextets rest
  | [a, b, c] => [UInt8.ofNat (a * 4 + b / 16), UInt8.ofNat (b % 16 * 16 + c / 4)]
  | [a, b] => [UInt8.ofNat (a * 4 + b / 16)]
  | _ => []

/-- Bytes written in base sixty-four. -/
def readBinary (text : String) : Except Error Bytes :=
  if text.toList.any fun c => 128 ≤ c.toNat then .error .malformedBinary
  else match sextets 0 0 text.toList with
    | some ns => .ok (ofSextets ns)
    | none => .error .malformedBinary

/-- The value of a scalar by its type. -/
def value (tag : Tag) (text : String) : Except Error Value :=
  match tag with
  | .null => .ok .null
  | .bool => .bool <$> readBool text
  | .int => .int <$> readInt text
  | .float => .float <$> readFloat text
  | .binary => .bytes <$> readBinary text
  | .timestamp => readTimestamp text
  | .str => .ok (.text text)
  | .orderedMap => .error .wrongKind
  | .pairs => .error .wrongKind
  | .set => .error .wrongKind
  | .seq => .error .wrongKind
  | .map => .error .wrongKind
  | .merge => .error .malformedMerge
  | .value => .error .unknownTag
  | .unknown => .error .unknownTag

end Scalar

end Rollout.Yaml

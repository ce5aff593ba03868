import Rollout.Address
import Rollout.Value.Basic

/-!
# Types of call arguments

A contract's interface gives every argument a type by its name: `address`,
`uint256`, `bytes32[]`, `(bool,string)[2]`. `AbiType.parse?` reads the name, and
`AbiType.admits` says which values can be encoded at the type.

A name that is no type admits nothing. The names `int`, `uint`, `fixed` and
`ufixed` stand for their widest usual forms. Inside an array or a tuple the names
`function` and `byte` stand for bytes of a fixed size; alone, a `function` may be
shorter, and a `byte` is no type.

A decimal number is given by a whole number, never by a floating point one. A
text that stands for bytes leaves it open whether it can be encoded if it is not
in ASCII, and `admits` gives an `AdmissionFault`. Items are looked at from the
left, and nothing after the first that cannot be encoded is looked at.
-/

namespace Rollout

/-- Why it is left open whether a value can be encoded at a type. -/
inductive AdmissionFault where
  /-- A text in place of bytes that has a character beyond ASCII. -/
  | notAscii
  deriving DecidableEq, Repr

inductive AbiType where
  | address
  | bool
  | string
  | bytes
  | function
  /-- A byte, which is a type only inside another. -/
  | byte
  | fixedBytes (size : Nat)
  | uint (bits : Nat)
  | int (bits : Nat)
  /-- A decimal number of `places` places in so many bits. -/
  | decimal (isSigned : Bool) (bits places : Nat)
  | array (item : AbiType)
  | sizedArray (size : Nat) (item : AbiType)
  | tuple (components : List AbiType)
  deriving Repr

namespace AbiType

/-! ## Names of types -/

/-- A positive number without leading zeros at the front. -/
def readSize? (cs : List Char) : Option (Nat × List Char) :=
  let ds := cs.takeWhile Char.isDigit
  match ds with
  | [] => none
  | d :: _ =>
      if d = '0' then none
      else some (ds.foldl (fun n c => 10 * n + (c.toNat - 48)) 0, cs.dropWhile Char.isDigit)

/-- A width in bits: a multiple of eight up to 256. -/
def isWidth (bits : Nat) : Bool := 8 ≤ bits && bits ≤ 256 && bits % 8 == 0

/-- The type of a name and the sizes after it. -/
def ofParts? (base : List Char) (size places : Option Nat) : Option AbiType :=
  match String.ofList base, size, places with
  | "address", none, none => some .address
  | "bool", _, _ => some .bool
  | "string", none, none => some .string
  | "bytes", none, none => some .bytes
  | "function", none, none => some .function
  | "byte", none, none => some .byte
  | "uint", none, none => some (.uint 256)
  | "int", none, none => some (.int 256)
  | "fixed", none, none => some (.decimal true 128 18)
  | "ufixed", none, none => some (.decimal false 128 18)
  | "bytes", some n, none => if n ≤ 32 then some (.fixedBytes n) else none
  | "uint", some n, none => if isWidth n then some (.uint n) else none
  | "int", some n, none => if isWidth n then some (.int n) else none
  | "fixed", some n, some p => if isWidth n && p ≤ 80 then some (.decimal true n p) else none
  | "ufixed", some n, some p => if isWidth n && p ≤ 80 then some (.decimal false n p) else none
  | _, _, _ => none

/-- A type without brackets at the front. -/
def readBase? (cs : List Char) : Option (AbiType × List Char) := do
  let base := cs.takeWhile Char.isAlpha
  let rest := cs.dropWhile Char.isAlpha
  if base.isEmpty then none
  match readSize? rest with
  | none => return (← ofParts? base none none, rest)
  | some (size, rest) =>
      match rest with
      | 'x' :: more =>
          let (places, rest) ← readSize? more
          return (← ofParts? base (some size) (some places), rest)
      | _ => return (← ofParts? base (some size) none, rest)

/-- What a type stands for inside an array or a tuple. -/
def inside : AbiType → AbiType
  | .function => .fixedBytes 24
  | .byte => .fixedBytes 1
  | t => t

/-- The brackets of arrays after the type of their items. -/
def readBrackets : (fuel : Nat) → AbiType → List Char → Option (AbiType × List Char)
  | 0, t, cs => some (t, cs)
  | fuel + 1, t, cs =>
      match cs with
      | '[' :: ']' :: rest => readBrackets fuel (.array t.inside) rest
      | '[' :: rest => do
          let (size, rest) ← readSize? rest
          match rest with
          | ']' :: rest => readBrackets fuel (.sizedArray size t.inside) rest
          | _ => none
      | _ => some (t, cs)

mutual

/-- A type at the front. -/
def readType : (fuel : Nat) → List Char → Option (AbiType × List Char)
  | 0, _ => none
  | fuel + 1, cs => do
      let (t, rest) ← match cs with
        | '(' :: rest => do
            let (ts, rest) ← readComponents fuel rest
            pure (.tuple ts, rest)
        | _ => readBase? cs
      readBrackets rest.length t rest

/-- The components of a tuple and its closing bracket. -/
def readComponents : (fuel : Nat) → List Char → Option (List AbiType × List Char)
  | 0, _ => none
  | fuel + 1, cs => do
      let (t, rest) ← readType fuel cs
      match rest with
      | ')' :: rest => return ([t.inside], rest)
      | ',' :: rest =>
          let (ts, rest) ← readComponents fuel rest
          return (t.inside :: ts, rest)
      | _ => none

end

/-- The type of a name. -/
def parse? (name : String) : Option AbiType :=
  let cs := name.toList
  match readType (2 * cs.length + 2) cs with
  | some (t, []) => some t
  | _ => none

/-! ## Values of types -/

/-- Whether no two apostrophes follow one another. -/
def areApart : List Char → Bool
  | '\'' :: '\'' :: _ => false
  | _ :: rest => areApart rest
  | [] => true

/-- Whether a label of a registered name is well formed. It has underscores only at its start. Its
apostrophes are apart, and none is at an end of it; a label without one does not have hyphens at
both its third and its fourth place. -/
def isLabel (label : List Char) : Bool :=
  !label.isEmpty &&
    (label.dropWhile (· == '_')).all (fun c => c.isAlphanum || "$-'".toList.contains c) &&
    (if label.contains '\'' then
      label.head? != some '\'' && label.getLast? != some '\'' && areApart label
    else !(label.getD 2 ' ' == '-' && label.getD 3 ' ' == '-'))

/-- The labels of a name, between points. -/
def labels : List Char → List (List Char)
  | [] => [[]]
  | c :: rest =>
      if c = '.' then [] :: labels rest
      else match labels rest with
        | [] => [[c]]
        | part :: parts => (c :: part) :: parts

/-- Whether a text is a mark `0x` and nothing but hexadecimal digits. -/
def isMarkedHex (cs : List Char) : Bool :=
  match cs with
  | '0' :: 'x' :: rest => rest.all Hex.isDigit
  | '0' :: 'X' :: rest => rest.all Hex.isDigit
  | _ => false

/-- Names that may be registered for an account, in ASCII. -/
def isRegisteredName (s : String) : Bool :=
  !isMarkedHex s.toList && (labels s.toList).all isLabel

/-- The number of bytes of a text in hexadecimal behind the mark `0x`. -/
def hexSize? (s : String) : Option Nat :=
  match s.toList with
  | '0' :: 'x' :: rest => (Hex.decode? rest).map List.length
  | _ => none

/-- Whether a text stands for bytes of a size that passes a check; only ASCII can. -/
def admitsHex (s : String) (check : Nat → Bool) : Except AdmissionFault Bool :=
  if s.toList.all fun c => c.toNat < 128 then .ok ((hexSize? s).any check)
  else .error .notAscii

/-- Whether an integer fits into unsigned bits. -/
def fitsUnsigned (bits : Nat) (n : Int) : Bool := 0 ≤ n && n < Nat.pow 2 bits

/-- Whether an integer fits into signed bits. -/
def fitsSigned (bits : Nat) (n : Int) : Bool :=
  -(Nat.pow 2 (bits - 1) : Int) ≤ n && n < Nat.pow 2 (bits - 1)

/-- Whether an integer at `places` decimal places fits into bits. -/
def fitsDecimal (isSigned : Bool) (bits places : Nat) (n : Int) : Bool :=
  if isSigned then fitsSigned bits (n * Nat.pow 10 places)
  else fitsUnsigned bits (n * Nat.pow 10 places)

def itemsOf? : Value → Option (List Value)
  | .list items => some items
  | .tuple items => some items
  | _ => none

/-- Whether a value that is no collection can be encoded at a type that is none. -/
def admitsScalar : AbiType → Value → Except AdmissionFault Bool
  | .address, .bytes bs => .ok (bs.length == 20)
  | .address, .text s => .ok (Address.isAddress s || isRegisteredName s)
  | .bool, .bool _ => .ok true
  | .string, .text _ => .ok true
  | .bytes, .bytes _ => .ok true
  | .bytes, .text s => admitsHex s fun _ => true
  | .function, .bytes bs => .ok (bs.length ≤ 24)
  | .fixedBytes n, .bytes bs => .ok (bs.length == n)
  | .fixedBytes n, .text s => admitsHex s fun size => size == n
  | .uint bits, .int n => .ok (fitsUnsigned bits n)
  | .int bits, .int n => .ok (fitsSigned bits n)
  | .decimal isSigned bits places, .int n => .ok (fitsDecimal isSigned bits places n)
  | .decimal isSigned bits places, .bool b =>
      .ok (fitsDecimal isSigned bits places (if b then 1 else 0))
  | _, _ => .ok false

/-- Whether all items pass a check; the first that does not, or that is left open, decides. -/
def every (check : Value → Except AdmissionFault Bool) :
    List Value → Except AdmissionFault Bool
  | [] => .ok true
  | v :: vs => do if ← check v then every check vs else return false

mutual

/-- Whether a value can be encoded at a type. The items of an array are looked at before they are
counted, and those of a tuple afterwards. -/
def admits : AbiType → Value → Except AdmissionFault Bool
  | .array item, v =>
      match itemsOf? v with
      | some vs => every (admits item) vs
      | none => .ok false
  | .sizedArray n item, v =>
      match itemsOf? v with
      | some vs => do return (← every (admits item) vs) && vs.length == n
      | none => .ok false
  | .tuple ts, v =>
      match itemsOf? v with
      | some vs => if vs.length = ts.length then admitsAll ts vs else .ok false
      | none => .ok false
  | t, v => admitsScalar t v

/-- Whether values can be encoded at as many types. -/
def admitsAll : List AbiType → List Value → Except AdmissionFault Bool
  | t :: ts, v :: vs => do if ← admits t v then admitsAll ts vs else return false
  | _, _ => .ok true

end

end AbiType

/-- Whether a value can be encoded at the type of a name. -/
def encodable (type : String) (v : Value) : Except AdmissionFault Bool :=
  match AbiType.parse? type with
  | some t => t.admits v
  | none => .ok false

end Rollout

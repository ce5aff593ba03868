import Rollout.Abi.Arguments
import Rollout.Crypto.Keccak
import Rollout.Chain.Basic

/-!
# Contracts

A contract type is what a compiler says of a contract: its name, the inputs of
its constructor and the overloads of each method. A contract is a type at an
address. The getters of the role identifiers are on every contract; they are
read, not called, so they hide methods of the same name. So do the names under
which a contract has its address and its type.
-/

namespace Rollout

structure ContractType where
  name : String
  constructor : List Input
  methods : List (String × List Overload)
  deriving Repr

/-- A contract at an address. A contract that is there already is taken to be wherever it is said to
be, so its address may be any value. -/
structure Contract where
  type : ContractType
  address : Value

/-- The first ten characters of an address as they are shown, or as many items of one that is a
list; nothing for a value that has no beginning. -/
def Contract.shortAddress? (c : Contract) : Option String :=
  match c.address with
  | .text s => some (String.ofList (s.toList.take 10))
  | .bytes bs => some (Value.bytes (bs.take 10)).shown
  | .list items => some (Value.list (items.take 10)).shown
  | .tuple items => some (Value.tuple (items.take 10)).shown
  | _ => none

/-! ## Role identifiers -/

/-- The getter of the role that administers all others. -/
def adminGetter : String := "DEFAULT_ADMIN_ROLE"

def roleGetters : List String :=
  [adminGetter, "UPGRADER_ROLE", "UNLIMITED_CREATOR_ROLE", "REGISTRAR_ROLE"]

/-- The role identifier behind a getter: the hash of the role's name, and zeros for the role that
administers all others. -/
def roleIdWith (hash : Bytes → Bytes) (getter : String) : Option Bytes :=
  if getter = adminGetter then some (List.replicate 32 0)
  else if roleGetters.contains getter then
    let name := getter.toList.take (getter.length - "_ROLE".length)
    some (hash (name.map fun c => UInt8.ofNat c.toNat))
  else none

/-- The names under which a contract has its own data. -/
def dataNames : List String := ["address", "contract_type"]

namespace ContractType

def method? (t : ContractType) (name : String) : Option (List Overload) :=
  if roleGetters.contains name || dataNames.contains name then none
  else (t.methods.find? (·.1 == name)).map Prod.snd

/-- Overloads by the name of their method, in the order in which the names first came. -/
def group (overloads : List Overload) : List (String × List Overload) :=
  overloads.foldl (fun groups o =>
    if groups.any (·.1 == o.name) then
      groups.map fun g => if g.1 == o.name then (g.1, g.2 ++ [o]) else g
    else groups ++ [(o.name, [o])]) []

end ContractType

end Rollout

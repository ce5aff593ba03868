import Rollout.Address
import Rollout.Crypto.Curve

/-!
# The keystore

Accounts are kept under an alias that is made from the first digits of their
address, each with the passphrase it was imported with. The keystore only grows:
an alias that is there is never written again.

How an address comes from a private key is a parameter of what uses the
keystore; `addressOfKey?` is the one that the chain's accounts follow.
-/

namespace Rollout

/-- An account as it is kept. -/
structure Keyfile where
  address : String
  passphrase : String
  deriving DecidableEq, Repr

/-- Accounts by alias. -/
abbrev Keystore := List (String × Keyfile)

namespace Keystore

/-- The account of an alias. -/
def find? (k : Keystore) (name : String) : Option Keyfile :=
  (List.find? (·.1 == name) k).map Prod.snd

/-- The keystore with an account under an alias that is not there yet. -/
def add (k : Keystore) (name : String) (f : Keyfile) : Keystore := k ++ [(name, f)]

/-- The alias of the account of an address: eight of its digits in lower case. -/
def aliasOf (address : String) : String :=
  "untron-deployer-" ++ String.ofList (((address.toList.drop 2).take 8).map Address.lower)

end Keystore

/-- The address of a private key in hexadecimal, in its canonical spelling. -/
def addressOfKey? (key : String) : Option String := do
  let bytes ← Hex.read? key
  let account ← Curve.account? bytes
  return Address.ofBytesWith Keccak.digest account

end Rollout

import Rollout.World

/-!
# The deployer's account

The account of a private key is taken from the keystore, or put there on first
use, and unlocked with a passphrase. An account that is there already under the
alias has to be the one of the key, and the passphrase has to be the one it was
put there with. How an address comes from a key is a parameter.
-/

namespace Rollout

structure Account where
  address : String
  passphrase : String
  deriving DecidableEq, Repr

namespace Account

/-- The stored account of an alias, put there under the address and the passphrase if it is new. -/
def obtain (name address passphrase : String) : Action Keyfile := do
  let w ← get
  match w.keystore.find? name with
  | some stored => return stored
  | none =>
      let stored : Keyfile := ⟨address, passphrase⟩
      set { w with keystore := w.keystore.add name stored }
      Action.say (.accountImported address)
      return stored

/-- The account of a private key, unlocked. -/
def load (addressOf? : String → Option String) (privateKey passphrase : String) :
    Action Account := do
  match addressOf? privateKey with
  | none => throw (.configuration .invalidPrivateKey)
  | some address =>
      let name := Keystore.aliasOf address
      let stored ← obtain name address passphrase
      if stored.address ≠ address then
        throw (.configuration (.foreignAlias name address))
      if stored.passphrase ≠ passphrase then
        throw (.configuration (.lockedAlias name))
      return { address := stored.address, passphrase }

end Account

end Rollout

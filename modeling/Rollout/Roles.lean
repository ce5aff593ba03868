import Rollout.Deployer

/-!
# Handing over roles

The deployer holds every role of the core contract when it is created. A role
with a recipient is handed over in two phases: first every identifier of the
role is granted to the recipient, and only then revoked from the deployer, so
that at no moment nobody holds it. A role without a recipient stays where it is.
-/

namespace Rollout

/-- A role: its name, and the getters of its identifiers. -/
structure Role where
  name : String
  getters : List String
  deriving DecidableEq, Repr

namespace Role

/-- The role that administers the others and upgrades the contract. -/
def admin : Role := ⟨"admin", [adminGetter, "UPGRADER_ROLE"]⟩

/-- The role that creates orders without limits. -/
def unlimitedCreator : Role := ⟨"unlimited creator", ["UNLIMITED_CREATOR_ROLE"]⟩

def registrar : Role := ⟨"registrar", ["REGISTRAR_ROLE"]⟩

/-- All roles with their recipients, in the order in which they are handed over. -/
def withRecipients (r : Recipients) : List (Role × Value) :=
  [(admin, r.admin), (unlimitedCreator, r.unlimitedCreator), (registrar, r.registrar)]

/-- What a name answers that is called on a contract as the getter of a role. A method that is no
getter is called without arguments and without a question; it gives a receipt, and as that is no
identifier it counts as an empty value. The data of a contract cannot be called. -/
def identifier (core : Contract) (getter : String) : Action Value := do
  match (← get).chain.roleId? getter, core.type.method? getter with
  | some id, _ => return .bytes id
  | none, some _ =>
      Action.submit (.transact core.type.name getter [])
      return .null
  | none, none => throw (if dataNames.contains getter then .wrongKind else .noSuchMember getter)

/-- Calls a method for each identifier and an account. -/
def callEach (d : Deployer) (core : Contract) (method : String) (ids : List Value)
    (account : Value) : Action Unit :=
  ids.forM fun id => do
    let _ ← d.transact core method [id, account]

/-- Hands a role over: all grants come before any revocation. -/
def transfer (d : Deployer) (core : Contract) (role : Role) (recipient holder : Value) :
    Action Unit := do
  Action.say (.transferringRole role.name recipient)
  let ids ← role.getters.mapM (identifier core)
  callEach d core "grantRole" ids recipient
  callEach d core "revokeRole" ids holder

/-- Hands over one role if it has a recipient, and gives its name if so. -/
def migrateOne (d : Deployer) (core : Contract) (role : Role) (recipient holder : Value) :
    Action (List String) := do
  if recipient.isEmpty then
    Action.say (.noRecipient role.name)
    return []
  else
    transfer d core role recipient holder
    return [role.name]

/-- Hands over every role that has a recipient, and gives the names of those roles. -/
def migrate (d : Deployer) (core : Contract) (recipients : Recipients) (holder : Value) :
    Action (List String) := do
  let moved ← (withRecipients recipients).mapM fun (role, recipient) =>
    migrateOne d core role recipient holder
  return moved.flatten

end Role

/-- Sets the proof verifier and the verification key of the core contract. -/
def configureVerifier (d : Deployer) (core : Contract) (verifier key : Value) : Action Unit := do
  Action.say .settingVerifier
  let _ ← d.transact core "setUntronZKVariables" [verifier, key]

end Rollout

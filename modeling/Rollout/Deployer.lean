import Rollout.World

/-!
# The deployer

The deployer is the account that pays for everything. It submits nothing before
the arguments have been held against the interface and the operator has been
shown what is about to happen; unless it signs on its own, the operator also has
to let it pass.

`deploy`, `transact` and `deployProxy` are the three ways in which anything
reaches the chain.
-/

namespace Rollout

structure Deployer where
  address : String
  /-- Whether it signs without asking. -/
  autosign : Bool
  /-- Which arguments can be encoded. -/
  admits : Admission

namespace Deployer

/-- The deployer of an account, with a warning if it signs without asking. -/
def start (address : String) (autosign : Bool) (admits : Admission) : Action Deployer := do
  if autosign then Action.say .autosignWarning
  return { address, autosign, admits }

/-- The arguments by name for a method's overloads. -/
def methodArgs (d : Deployer) (overloads : List Overload) (args : List Value) :
    Action NamedArgs :=
  Action.ofExcept ((Arguments.forMethod d.admits overloads args).mapError Failure.arguments)

def constructorArgs (d : Deployer) (t : ContractType) (args : List Value) : Action NamedArgs :=
  Action.ofExcept
    ((Arguments.forConstructor d.admits t.name t.constructor args).mapError Failure.arguments)

/-- The overloads of a method that a contract has to have. -/
def methodOf (t : ContractType) (name : String) : Action (List Overload) :=
  match t.method? name with
  | some overloads => pure overloads
  | none => throw (.noSuchMember name)

/-- The name of a method as its first overload has it. -/
def methodName (method : String) (overloads : List Overload) : String :=
  match overloads with
  | o :: _ => o.name
  | [] => method

/-- The address of a contract in short, which has to have a beginning. -/
def shortAddress (c : Contract) : Action String :=
  match c.shortAddress? with
  | some address => pure address
  | none => throw .wrongKind

/-- Sends a transaction and gives its receipt. -/
def transact (d : Deployer) (c : Contract) (method : String) (args : List Value) :
    Action String := do
  let overloads ← methodOf c.type method
  let named ← d.methodArgs overloads args
  let address ← shortAddress c
  Action.say (.transacting c.type.name address (methodName method overloads) named)
  if !d.autosign then Action.askContinue
  Action.submit (.transact c.type.name method args)
  return (← get).chain.receipt

def deploy (d : Deployer) (t : ContractType) (args : List Value) : Action Contract := do
  let named ← d.constructorArgs t args
  if !d.autosign then Action.askDeployment t.name named
  let address ← Action.submitDeployment (.deploy t.name args)
  Action.say (.deployed t.name address)
  return { type := t, address := .text address }

/-- Makes the call data for a method. -/
def encode (d : Deployer) (c : Contract) (method : String) (args : List Value) :
    Action Bytes := do
  let overloads ← methodOf c.type method
  let _ ← d.methodArgs overloads args
  Action.submit (.encode c.type.name method args)
  return (← get).chain.callData (.encode c.type.name method args)

/-- Deploys a proxy for an implementation that is there already, and gives the proxy as a contract
of the target's type. The proxy's constructor calls the initializer, so there is no moment at which
the proxy is not initialized. -/
def deployProxy (d : Deployer) (proxy target : ContractType) (implementation : Contract)
    (initializer : String) (args : List Value) : Action Contract := do
  let callData ← d.encode implementation initializer args
  Action.say (.deployingProxy proxy.name target.name)
  let deployed ← d.deploy proxy [implementation.address, .bytes callData]
  Action.say (.wrapped target.name proxy.name deployed.address.shown)
  return { type := target, address := deployed.address }

end Deployer

end Rollout

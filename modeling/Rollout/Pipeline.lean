import Rollout.Artifact
import Rollout.Manifest
import Rollout.Roles
import Rollout.Settings.Resolve

/-!
# A whole deployment

A deployment takes one action after the other: the external contracts are found
or replaced by mocks, the core contract is created behind its proxy, the roles
are handed over, the proof verifier is set, and at last the manifest is written.
Nothing is undone when an action fails: what the chain has accepted stays, and
there is no manifest, because it is only written when all else is done.
-/

namespace Rollout.Pipeline

/-- Deploys a mock and gives its address. -/
def deployMock (d : Deployer) (artifacts : Artifacts) (k : ContractKind) : Action Value := do
  let c ← d.deploy (artifacts k) []
  return c.address

/-- The external contracts: those of the settings, or mocks that are deployed in their place. -/
def provision (d : Deployer) (s : Settings) (artifacts : Artifacts) : Action Dependencies := do
  let found ←
    if s.mockDependencies then do
      let usdt ← deployMock d artifacts .mockUsdt
      let spokePool ← deployMock d artifacts .mockSpokePool
      let aggregationRouter ← deployMock d artifacts .mockAggregationRouter
      pure { s.defaults with usdt, spokePool, aggregationRouter }
    else pure s.defaults
  if s.mockVerifier then
    let sp1Verifier ← deployMock d artifacts .mockVerifier
    return { found with sp1Verifier }
  else return found

/-- The method that the proxy's constructor calls. -/
def initializer : String := "initialize"

/-- Deploys the core contract and its proxy; the proxy comes first in the result. The order of the
initializer's arguments is part of the core contract's interface. -/
def deployCore (d : Deployer) (artifacts : Artifacts) (deps : Dependencies) :
    Action (Contract × Contract) := do
  let implementation ← d.deploy (artifacts .core) []
  let core ← d.deployProxy (artifacts .proxy) (artifacts .core) implementation initializer
    [deps.spokePool, deps.usdt, deps.aggregationRouter]
  return (core, implementation)

/-- Everything but the writing of the manifest. -/
def execute (d : Deployer) (s : Settings) (artifacts : Artifacts) : Action Manifest := do
  let deps ← provision d s artifacts
  let (core, implementation) ← deployCore d artifacts deps
  let _ ← Role.migrate d core s.recipients (.text d.address)
  configureVerifier d core deps.sp1Verifier (.bytes s.verificationKey)
  Action.ofExcept (Manifest.build s core implementation deps (.text d.address))

/-- A whole deployment, recorded at a path. -/
def run (d : Deployer) (s : Settings) (artifacts : Artifacts) (path : Path) :
    Action Manifest := do
  let m ← execute d s artifacts
  m.write path
  return m

end Rollout.Pipeline

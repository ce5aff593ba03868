import Rollout.Value.Basic

/-!
# Settings of a deployment

Settings are put together once, before anything else happens, and handed to
every stage. The target decides what is real: towards production the external
contracts are those of the settings, and on the test network each of them is
replaced by a mock. The proof verifier alone may be a mock towards production.
-/

namespace Rollout

/-- Which network a deployment goes to. -/
inductive Target where
  | production
  | test
  deriving DecidableEq, Repr

namespace Target

/-- The name of the network. -/
def label : Target → String
  | .production => "mainnet"
  | .test => "testnet"

def name : Target → String
  | .production => "PRODUCTION"
  | .test => "TEST"

/-- The targets in the order in which parameters name their networks. -/
def all : List Target := [.production, .test]

end Target

/-- The address of a contract that is not known yet. -/
def placeholder : String := "0x..."

/-- Whether a value is the address of a contract that is not known yet. -/
def isUnresolved (v : Value) : Bool := v.isText placeholder

/-- The external contracts that the core contract is wired to. -/
inductive Dependency where
  | spokePool
  | usdt
  | aggregationRouter
  | sp1Verifier
  deriving DecidableEq, Repr

namespace Dependency

def name : Dependency → String
  | .spokePool => "spoke_pool"
  | .usdt => "usdt"
  | .aggregationRouter => "aggregation_router"
  | .sp1Verifier => "sp1_verifier"

/-- The name of a dependency among the constants of a parameter file. -/
def constant : Dependency → String
  | .spokePool => "SPOKE_POOL"
  | .usdt => "USDT"
  | .aggregationRouter => "AGGREGATION_ROUTER"
  | .sp1Verifier => "SP1_VERIFIER"

/-- The order in which a parameter file is checked for them. -/
def constants : List Dependency := [.usdt, .spokePool, .aggregationRouter, .sp1Verifier]

end Dependency

/-- The addresses of the external contracts. -/
structure Dependencies where
  spokePool : Value
  usdt : Value
  aggregationRouter : Value
  sp1Verifier : Value

/-- The address of one of them. -/
def Dependencies.get (d : Dependencies) : Dependency → Value
  | .spokePool => d.spokePool
  | .usdt => d.usdt
  | .aggregationRouter => d.aggregationRouter
  | .sp1Verifier => d.sp1Verifier

/-- Who is to hold the roles in the end; a role without a recipient stays with the deployer. -/
structure Recipients where
  admin : Value
  unlimitedCreator : Value
  registrar : Value

structure Settings where
  target : Target
  useMockVerifier : Bool
  networkUri : Value
  chainId : Int
  privateKey : String
  passphrase : String
  defaults : Dependencies
  recipients : Recipients
  verificationKey : Bytes
  manifestFilename : Value

namespace Settings

def network (s : Settings) : String := s.target.label

/-- Whether the external contracts are mocks: never towards production. -/
def mockDependencies (s : Settings) : Bool := s.target == .test

/-- Whether the proof verifier is a mock. -/
def mockVerifier (s : Settings) : Bool := s.mockDependencies || s.useMockVerifier

/-- A truth value as it is shown. -/
def boolText (b : Bool) : String := if b then "True" else "False"

/-- Whether all of the settings can be shown. -/
def isWritable (s : Settings) : Bool := s.networkUri.isWritable && Integer.isWritable s.chainId

/-- The settings in one line, without the private key and the passphrase. -/
def summary (s : Settings) : String :=
  "DeploymentConfig(target=" ++ s.target.name ++
    ", use_mock_verifier=" ++ boolText s.useMockVerifier ++
    ", network_uri=" ++ s.networkUri.shown ++ ", chain_id=" ++ Integer.text s.chainId ++ ")"

end Settings

end Rollout

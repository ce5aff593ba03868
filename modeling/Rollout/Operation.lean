import Rollout.Pipeline

/-!
# Single operations

A deployment can also be carried out by hand, one operation after the other, on
contracts that are there already. An `Operation` is an order with all its
arguments; `Operation.perform` carries it out. An operation that fails does not
stop the ones after it: `Operation.performAll` goes on with the world as the
failed one left it.
-/

namespace Rollout

inductive Operation where
  | resolve (flags : Settings.Flags) (env : Environ) (params : Option Value)
      (source : Params.Source)
  | deploy (type : ContractType) (args : List Value)
  | transact (contract : Contract) (method : String) (args : List Value)
  | deployProxy (proxy target : ContractType) (implementation : Contract) (initializer : String)
      (args : List Value)
  | provision (settings : Settings) (artifacts : Artifacts)
  | deployCore (artifacts : Artifacts) (deps : Dependencies)
  | transferRole (core : Contract) (role : Role) (recipient holder : Value)
  | migrateRoles (core : Contract) (recipients : Recipients) (holder : Value)
  | configureVerifier (core : Contract) (verifier key : Value)
  | buildManifest (settings : Settings) (core implementation : Contract) (deps : Dependencies)
      (deployer : Value)
  | writeManifest (manifest : Manifest) (path : Path)
  | readManifest (path : Path)
  | run (settings : Settings) (artifacts : Artifacts) (path : Path)
  | checkChain (settings : Settings) (connected : Int)
  | preflight (settings : Settings)
  | askContinue

/-- What an operation gives. -/
inductive Result where
  | done
  | settings (s : Settings)
  | contract (c : Contract)
  | receipt (id : String)
  | dependencies (d : Dependencies)
  /-- The core contract at its proxy, and its implementation. -/
  | core (core implementation : Contract)
  | roles (names : List String)
  | manifest (m : Manifest)
  | written (path : Path)

namespace Operation

variable [Address.CaseRule]

/-- Carries out an operation. -/
def perform (d : Deployer) : Operation → Action Result
  | .resolve flags env params source =>
      .settings <$> Settings.resolve flags env params source
  | .deploy type args => .contract <$> d.deploy type args
  | .transact contract method args => .receipt <$> d.transact contract method args
  | .deployProxy proxy target implementation initializer args =>
      .contract <$> d.deployProxy proxy target implementation initializer args
  | .provision settings artifacts => .dependencies <$> Pipeline.provision d settings artifacts
  | .deployCore artifacts deps => do
      let (core, implementation) ← Pipeline.deployCore d artifacts deps
      return .core core implementation
  | .transferRole core role recipient holder => do
      Role.transfer d core role recipient holder
      return .done
  | .migrateRoles core recipients holder => .roles <$> Role.migrate d core recipients holder
  | .configureVerifier core verifier key => do
      Rollout.configureVerifier d core verifier key
      return .done
  | .buildManifest settings core implementation deps deployer =>
      .manifest <$> Action.ofExcept (Manifest.build settings core implementation deps deployer)
  | .writeManifest manifest path => do
      manifest.write path
      return .written path
  | .readManifest path => .manifest <$> Manifest.read path
  | .run settings artifacts path => .manifest <$> Pipeline.run d settings artifacts path
  | .checkChain settings connected => do
      Action.ofExcept (settings.checkChain connected)
      return .done
  | .preflight settings => do
      Action.ofExcept (settings.preflight.mapError Failure.configuration)
      return .done
  | .askContinue => do
      Action.askContinue
      return .done

/-- Carries out operations one after the other, whether they fail or not. -/
def performAll (d : Deployer) (ops : List Operation) (w : World) : World :=
  ops.foldl (fun w op => ((op.perform d).perform w).2) w

end Operation

end Rollout

import Rollout.Abi.Arguments
import Rollout.Settings.Basic

/-!
# What the operator is told

Everything a deployment prints is a notice. A notice carries what it tells;
`Notice.text` is its wording, line ends included. A question ends without one,
because the answer is typed behind it.
-/

namespace Rollout

/-- Something the operator is told. -/
inductive Notice where
  | help (text : String)
  | validatingParams (path : String)
  | settings (s : Settings)
  | loadingArtifacts (directory : String)
  | connecting (network : String) (uri : Value)
  | accountImported (address : String)
  /-- The account and the manifest of the run that is about to start. -/
  | starting (account manifest : String)
  | autosignWarning
  | question (text : String)
  | aborting
  | noConstructorArgs (contract : String)
  | constructorArgs (contract : String) (args : NamedArgs)
  | deployed (contract address : String)
  | deployingProxy (proxy target : String)
  | wrapped (target proxy address : String)
  /-- A transaction with a contract, whose address is given in short. -/
  | transacting (contract address method : String) (args : NamedArgs)
  | transferringRole (role : String) (recipient : Value)
  | noRecipient (role : String)
  | settingVerifier
  | overwritingManifest (path : String)
  | manifestWritten (path : String)

namespace Notice

/-- Arguments by name, each on a line of its own behind a tab. -/
def argLines (args : NamedArgs) : String :=
  "\n\t".intercalate (args.map fun a => NamedArgs.shownName a.1 ++ "=" ++ a.2.shown)

/-- Lines, each ended. -/
def lines (ls : List String) : String := String.join (ls.map (· ++ "\n"))

def settingsLines (s : Settings) : List String :=
  ["Network: " ++ s.network,
   "Endpoint: " ++ s.networkUri.shown,
   "Chain ID: " ++ Integer.text s.chainId,
   "Mock dependencies: " ++ Settings.boolText s.mockDependencies,
   "Mock SP1 verifier: " ++ Settings.boolText s.mockVerifier,
   "Admin: " ++ s.recipients.admin.shown,
   "Unlimited creator: " ++ s.recipients.unlimitedCreator.shown,
   "Registrar: " ++ s.recipients.registrar.shown]

/-- The wording of a notice. -/
def text : Notice → String
  | .help text => text
  | .validatingParams path => "Validating parameters YAML " ++ path ++ "...\n"
  | .settings s => lines (settingsLines s)
  | .loadingArtifacts directory => "Loading contract artifacts from " ++ directory ++ "...\n"
  | .connecting network uri =>
      "Connecting to zkSync Era " ++ network ++ " at " ++ uri.shown ++ "...\n"
  | .accountImported address => "Account imported: " ++ address ++ "\n"
  | .starting account manifest => "Account: " ++ account ++ "\nManifest: " ++ manifest ++ "\n"
  | .autosignWarning =>
      "WARNING: Autosign is enabled. Transactions will be signed automatically.\n"
  | .question text => text ++ " Y/N? "
  | .aborting => "Aborting deployment!\n"
  | .noConstructorArgs contract => "\n(i) No constructor parameters for " ++ contract ++ "\n"
  | .constructorArgs contract args =>
      "\nConstructor parameters for " ++ contract ++ "\n" ++
        String.join (args.map fun a =>
          "\t" ++ NamedArgs.shownName a.1 ++ "=" ++ a.2.shown ++ "\n")
  | .deployed contract address => "Deployed " ++ contract ++ " at " ++ address ++ "\n"
  | .deployingProxy proxy target =>
      "\nDeploying " ++ proxy ++ " contract to proxy " ++ target ++ ".\n"
  | .wrapped target proxy address =>
      "\nWrapping " ++ target ++ " into " ++ proxy ++ " (as type " ++ target ++ ") at " ++
        address ++ ".\n"
  | .transacting contract address method args =>
      "\nTransacting " ++ contract ++ "[" ++ address ++ "]." ++ method ++
        (if args.isEmpty then " with no arguments" else " with arguments:\n\t" ++ argLines args) ++
        "\n"
  | .transferringRole role recipient =>
      "\nTransferring " ++ role ++ " role to " ++ recipient.shown ++ "\n"
  | .noRecipient role =>
      "(i) No recipient for " ++ role ++ " role; it stays with the deployer.\n"
  | .settingVerifier => "\nSetting SP1 verifier and verification key on UntronCore\n"
  | .overwritingManifest path => "Overwriting existing manifest at " ++ path ++ ".\n"
  | .manifestWritten path => "(i) Manifest written to " ++ path ++ "!\n"

end Notice

/-- The text of notices, one after the other. -/
def transcript (notices : List Notice) : String := String.join (notices.map Notice.text)

end Rollout

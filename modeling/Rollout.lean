import Rollout.Main
import Rollout.Operation
import Rollout.Proofs.Abi.Resolution
import Rollout.Proofs.Account.Openings
import Rollout.Proofs.Action.Appearance
import Rollout.Proofs.CommandLine.Run
import Rollout.Proofs.Deployer.ZeroAddress
import Rollout.Proofs.Manifest.Drafting
import Rollout.Proofs.Manifest.RoundTrip
import Rollout.Proofs.Operation.Admitted
import Rollout.Proofs.Pipeline.Canonical
import Rollout.Proofs.Pipeline.Consent
import Rollout.Proofs.Pipeline.Halt
import Rollout.Proofs.Pipeline.Reporting
import Rollout.Proofs.Pipeline.Secrets
import Rollout.Proofs.Roles.Authority
import Rollout.Proofs.Roles.Orphans
import Rollout.Proofs.Settings.Secrets
import Rollout.Proofs.Deployer.Disclosure
import Rollout.Proofs.Roles.TwoPhase
import Rollout.Proofs.Settings.VerificationKey
import Rollout.Proofs.Address.Checksum
import Rollout.Proofs.Settings.Reported
import Rollout.Proofs.Artifact.Reported
import Rollout.Proofs.Artifact.Layout
import Rollout.Proofs.Artifact.Naming
import Rollout.Proofs.Settings.Blanks
import Rollout.Proofs.Settings.ChainCheck
import Rollout.Proofs.Pipeline.Naming

import DualKey.Foundations.Exec
import DualKey.Foundations.Buffer
import DualKey.Foundations.Transition
import DualKey.Foundations.Ledger
import DualKey.Core.Intent
import DualKey.Core.Policy
import DualKey.Core.State
import DualKey.Core.Canonical
import DualKey.Core.Recovery
import DualKey.Core.Wire
import DualKey.Program.Auth
import DualKey.Program.Authorize
import DualKey.Program.ChangePolicy
import DualKey.Program.Execute
import DualKey.Program.Processor
import DualKey.System.Chain
import DualKey.System.Provenance
import DualKey.System.Proposal
import DualKey.System.Replay
import DualKey.Properties.HybridAnd
import DualKey.Properties.NonceAccounting
import DualKey.Properties.Timelock
import DualKey.Properties.CancelWindow
import DualKey.Properties.TokenAsset
import DualKey.Properties.TransferHook
import DualKey.Properties.TokenExtensions
import DualKey.Properties.PdaNamespaces
import DualKey.Properties.Refinement
import DualKey.Properties.Containment
import DualKey.Properties.PolicyChange
import DualKey.Properties.OwnerKey
import DualKey.Properties.FalconKey
import DualKey.Properties.Spoofing
import DualKey.Properties.Preimages
import DualKey.Properties.WireFormat
import DualKey.Properties.Authorization
import DualKey.Properties.VaultRepresentation
import DualKey.Properties.OptIn
import DualKey.Properties.Solvency
import DualKey.Properties.Signer
import DualKey.Properties.Approval
import DualKey.Properties.Veto
import DualKey.Properties.Relayer
import DualKey.Properties.ConfigRepresentation
import DualKey.Properties.AccountCreation
import DualKey.Foundations.Footprint
import DualKey.System.Locality
import DualKey.Client.Onchain
import DualKey.Client.Framing
import DualKey.Properties.ClientBuilders
import DualKey.Properties.Isolation
import DualKey.Foundations.Padding
import DualKey.Foundations.Hex
import DualKey.Client.Error
import DualKey.Client.FalconInterop
import DualKey.Client.Intent
import DualKey.Properties.FalconPadding
import DualKey.Properties.IntentFiles
import DualKey.Client.Sign
import DualKey.Properties.SignedBundles
import DualKey.Foundations.Lens
import DualKey.Properties.AccountViews
import DualKey.Foundations.Slice
import DualKey.Program.MachineWords
import DualKey.Foundations.Settle
import DualKey.Properties.NoAbort
import DualKey.Foundations.Schedule
import DualKey.Properties.Schedules
import DualKey.Foundations.Dialogue
import DualKey.Client.Session
import DualKey.Client.Message
import DualKey.Client.Keys
import DualKey.Client.Rpc
import DualKey.Client.Submit
import DualKey.Client.Cli
import DualKey.Properties.Confirmation
import DualKey.Properties.Confinement
import DualKey.Client.Built
import DualKey.Properties.Hosting
import DualKey.Properties.Commands
import DualKey.Properties.GuardianCommands
import DualKey.Properties.Spending
import DualKey.Properties.Founding
import DualKey.Foundations.Crash
import DualKey.Foundations.Files
import DualKey.Client.Disk
import DualKey.Properties.KeyStore
import DualKey.Properties.FirstVault
import DualKey.Properties.PacketLimit

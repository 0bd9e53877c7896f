import Kanna.Daemon.PtyGeometry
import Kanna.Server.ControlQueue
import Kanna.Daemon.FanoutBudget
import Kanna.Server.TapLifetime
import Kanna.Daemon.SessionFanout
import Kanna.Daemon.FanoutWake
import Kanna.Recovery.Worker
import Kanna.Server.WindowedStream
import Kanna.Client.CompanionReassembly
import Kanna.Daemon.ComposerAttestation
import Kanna.Server.CompanionBudget
import Kanna.Server.CompanionQueue
import Kanna.Server.SessionReplacements
import Kanna.Transfer.ArtifactDelivery
import Kanna.Transfer.AtMostOnce
import Kanna.Transfer.PairingKeys
import Kanna.Transfer.TransferBinding
import Kanna.Server.RuntimeStatus
import Kanna.Recovery.ManagerTracking
import Kanna.Transfer.AbandonTransfer
import Kanna.Transfer.ReceiptDelivery
import Kanna.Transfer.RuntimeEventOrder
import Kanna.Transfer.SubmittedPayload
import Kanna.Server.AggregateFromNow
import Kanna.Billing.DeliveryOrder
import Kanna.Billing.Subscriptions
import Kanna.Relay.CertificateOrder
import Kanna.Relay.TokenRejection
import Kanna.Relay.Handshake
import Kanna.Relay.CredentialCache
import Kanna.Relay.EntitlementCache
import Kanna.Daemon.HandoffAgreement
import Kanna.Daemon.HandoffQuiesce
import Kanna.Server.StageCompletion
import Kanna.Server.TaskPublisher
import Kanna.Server.TransferWork
import Kanna.Daemon.InputTokens
import Kanna.Server.TransferRows
import Kanna.Daemon.ProgressScanner
import Kanna.Server.BlockedCreation
import Kanna.Server.PromptVars
import Kanna.Daemon.CliVersion
import Kanna.Recovery.SnapshotNames
import Kanna.Billing.HonoredSource
import Kanna.Daemon.DraftIndices

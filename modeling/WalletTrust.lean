import WalletTrust.Op
import WalletTrust.Text.Blank
import WalletTrust.Text.Base64
import WalletTrust.Text.Percent
import WalletTrust.Json.Printer
import WalletTrust.Json.Reader
import WalletTrust.SealedText
import WalletTrust.Backup.Blob
import WalletTrust.OriginMap
import WalletTrust.Identity
import WalletTrust.Trust.Approval
import WalletTrust.Trust.Connection
import WalletTrust.Request.Message
import WalletTrust.Proof.Job
import WalletTrust.Host.Slot
import WalletTrust.Request.Queue
import WalletTrust.Session
import WalletTrust.Shelf
import WalletTrust.Backup.File
import WalletTrust.Wallet.Registries
import WalletTrust.Wallet.Flow
import WalletTrust.Wallet.Backups
import WalletTrust.Wallet.HostAction
import WalletTrust.Wallet.System
import WalletTrust.Diagnostics
import WalletTrust.Proofs.Operations
import WalletTrust.Proofs.Maps
import WalletTrust.Proofs.Questions
import WalletTrust.Proofs.DeskSteps
import WalletTrust.Proofs.DeskRun
import WalletTrust.Proofs.Attendance
import WalletTrust.Proofs.Tidiness
import WalletTrust.Proofs.Silence
import WalletTrust.Proofs.Routine
import WalletTrust.Proofs.Registries
import WalletTrust.Proofs.Flows
import WalletTrust.Proofs.Calls
import WalletTrust.Proofs.Run
import WalletTrust.Proofs.Answers
import WalletTrust.Proofs.Requesters
import WalletTrust.Proofs.Consent
import WalletTrust.Proofs.Posing
import WalletTrust.Proofs.Sealing
import WalletTrust.Proofs.Canonical
import WalletTrust.Proofs.Adopting
import WalletTrust.Proofs.Entitlement
import WalletTrust.Proofs.ReadBack
import WalletTrust.Proofs.WireFormats
import WalletTrust.Proofs.ByteOrder
import WalletTrust.Proofs.Shelves
import WalletTrust.Proofs.Deeds
import WalletTrust.Proofs.LockRun
import WalletTrust.Proofs.RegistryDeeds
import WalletTrust.Proofs.CallDeeds
import WalletTrust.Proofs.RunDeeds
import WalletTrust.Proofs.EitherRegistry
import WalletTrust.Proofs.Mirror
import WalletTrust.Proofs.Locked
import WalletTrust.Proofs.Gate
import WalletTrust.Proofs.LockIsolation
import WalletTrust.Proofs.Warrants
import WalletTrust.Proofs.Provenance
import WalletTrust.Proofs.Files
import WalletTrust.Proofs.Restoring
import WalletTrust.Proofs.Installations
import WalletTrust.Proofs.Blind
import WalletTrust.Proofs.Contexts
import WalletTrust.Proofs.Dispatching
import WalletTrust.Proofs.Cover
import WalletTrust.Proofs.Discretion
import WalletTrust.Proofs.Secrecy
import WalletTrust.Proofs.Contents
import WalletTrust.Proofs.Linking
import WalletTrust.Proofs.Vetting
import WalletTrust.Proofs.TrustTable
import WalletTrust.Proofs.Replay
import WalletTrust.Proofs.Isolation
import WalletTrust.Proofs.Failures
import WalletTrust.Proofs.FiniteMap
import WalletTrust.Proofs.Relocking
import WalletTrust.Proofs.Classification
import WalletTrust.Proofs.Revoking
import WalletTrust.Proofs.Screening
import WalletTrust.Proofs.Writes
import WalletTrust.Proofs.Pending
import WalletTrust.Proofs.Connecting
import WalletTrust.Proofs.Signatures
import WalletTrust.Proofs.DataUri
import WalletTrust.Proofs.AnyOrder
import WalletTrust.Proofs.Recovery
import WalletTrust.Proofs.Numerals
import WalletTrust.Proofs.Severing
import WalletTrust.Proofs.Windows
import WalletTrust.Proofs.Knocking
import WalletTrust.Proofs.UnlockWindow
import WalletTrust.Proofs.Platforms
import WalletTrust.Proofs.Suspension

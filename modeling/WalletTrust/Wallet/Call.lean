import WalletTrust.Wallet.Backups
import WalletTrust.Wallet.Flow

/-!
# Calls

Everything that a page, a window or the host can ask of a wallet.

A call is a value, so a run of the wallet is a list of calls and of whatever happens between them.
`perform` runs a call up to its end or to its first wait. Most calls never wait: only those that
put a question to the user, that need the session unlocked or that ask for a window do.

## Main definitions

* `Call`: The calls.
* `Wallet.perform`: What a call does at once.
-/

namespace WalletTrust

/-- What can be asked of a wallet. -/
inductive Call where
  -- The session together with the registries.
  | setupPassword (password : String)
  | unlock (password : String)
  | logout
  | status
  -- The session alone.
  | setupLock (password : String)
  | openLock (password : String)
  | sessionState
  | isAuthentic (password : String)
  | awaitUnlock
  | isUnlocked
  | ensureUnlocked
  | sealText (plain : String) (purpose : Purpose)
  | openText (sealed : String) (purpose : Purpose)
  -- Approvals.
  | loadApprovals
  | approve (entry : ApprovalEntry)
  | setPermission (origin : String) (canSkipApprove : Bool)
  | unapprove (origin : String)
  | clearApprovals
  | isApproved (origin : String)
  | canSkipApprove (origin : String)
  | permission (origin : String)
  | approvedOrigins
  -- Connections and identities.
  | loadConnections
  | connectIdentity (commitment origin : String)
  | disconnect (target : String)
  | clearConnections
  | connections
  | connection (origin : String)
  | isConnected (origin : String)
  | connectedIdentity (origin : String)
  | identity (commitment : String)
  | selectedIdentity
  -- Questions to the user. One that is submitted is answered with its number.
  | submit (kind : RequestKind) (payload : Json)
  | ask (kind : RequestKind) (payload : Json)
  | finalize (request : FinalizeRequest)
  | pendingRequests
  -- Pages.
  | connect (origin : String) (changeIdentity : Bool)
  | reveal (origin : String)
  | revoke (origin : String)
  | passIfConnected (origin : String) (payload : Json)
  -- Proofs.
  | prepare (request : ProofRequest) (origin : String)
  | generate (request : ProofRequest) (origin : String)
  | dispatch (job : ProofJob)
  -- Backups.
  | backupKeys
  | removeComponent (key : String)
  | registerComponent (component : BackupComponent)
  | downloadBackup (password : String)
  | uploadBackup (upload : UploadBackup)
  | downloadComponent (component : BackupComponent) (password : String)
  | uploadComponent (component : BackupComponent) (blob password : String)
  -- The rest.
  | config
deriving Inhabited

namespace Wallet

/-- An operation that finishes at once, with its answer. -/
def finish {α : Type} (answer : α → Answer) (x : Op Wallet α) : Op Wallet Progress := do
  return .finished (answer (← x))

/-- An operation that finishes at once and has nothing to tell. -/
def finishQuietly (x : Op Wallet Unit) : Op Wallet Progress :=
  finish (fun _ => .done) x

/-- A question about the state, which changes nothing. -/
def inspect (answer : Wallet → Answer) : Op Wallet Progress :=
  finish answer Op.get

/-- A payload of a page, let through if its origin is connected. -/
def passed? (w : Wallet) (origin : String) (payload : Json) : Option Json :=
  if w.isConnected origin then some payload else none

/-- What a call does at once. -/
def perform : Call → Op Wallet Progress
  | .setupPassword password => finish .flag (setupPassword password)
  | .unlock password => finish .flag (unlock password)
  | .logout => finish .flag logout
  | .status => finish .status (onLock SessionLock.status)
  | .setupLock password => finish .flag (onLock (SessionLock.setupPassword password))
  | .openLock password => finish .flag (onLock (SessionLock.unlock password))
  | .sessionState => finish .state (onLock SessionLock.state)
  | .isAuthentic password => finish .flag (onLock (SessionLock.isAuthentic password))
  | .awaitUnlock => resume .unlockSignal
  | .isUnlocked => inspect fun w => .flag w.core.session.isUnlocked
  | .ensureUnlocked => finishQuietly (onLock SessionLock.ensureUnlocked)
  | .sealText plain purpose => finish .text (onLock (SessionLock.sealText plain purpose))
  | .openText sealed purpose => finish .text (onLock (SessionLock.openText sealed purpose))
  | .loadApprovals => finish (fun _ => .flag true) loadApprovals
  | .approve entry => finishQuietly (approve entry)
  | .setPermission origin flag => finish (fun p => .permission (some p)) (setPermission origin flag)
  | .unapprove origin => finish .flag (unapprove origin)
  | .clearApprovals => finishQuietly clearApprovals
  | .isApproved origin => inspect fun w => .flag (w.isApproved origin)
  | .canSkipApprove origin => inspect fun w => .flag (w.canSkipApprove origin)
  | .permission origin => inspect fun w => .permission (w.permission? origin)
  | .approvedOrigins => inspect fun w => .names (w.approvalEntries.map (·.origin))
  | .loadConnections => finish (fun _ => .flag true) loadConnections
  | .connectIdentity commitment origin =>
    finish (fun c => .connection (some c)) (connectIdentity commitment origin)
  | .disconnect target => finish (fun c => .connection (some c)) (disconnect target)
  | .clearConnections => finishQuietly clearConnections
  | .connections => inspect fun w => .connections w.connectionList
  | .connection origin => inspect fun w => .connection (w.connection? origin)
  | .isConnected origin => inspect fun w => .flag (w.isConnected origin)
  | .connectedIdentity origin => finish .identity (connectedIdentity origin)
  | .identity commitment => finish .identity (identity commitment)
  | .selectedIdentity => finish .identity selectedIdentity
  | .submit kind payload => ask kind payload (.asked true)
  | .ask kind payload => ask kind payload (.asked false)
  | .finalize request => finish .flag (onDesk (Desk.finalize request))
  | .pendingRequests => inspect fun w => .requests w.core.queue.requests
  | .connect origin changeIdentity => connect origin changeIdentity
  | .reveal origin => reveal origin
  | .revoke origin => finishQuietly (revoke origin)
  | .passIfConnected origin payload => inspect fun w => .passed (w.passed? origin payload)
  | .prepare request origin => prepare request origin
  | .generate request origin => generate request origin
  | .dispatch job => dispatch job
  | .backupKeys => inspect fun w => .names (w.core.components.map (·.key))
  | .removeComponent key => finish .flag (removeComponent key)
  | .registerComponent component => finishQuietly (Op.modify (registerComponent component))
  | .downloadBackup password => finish .text (downloadBackup password)
  | .uploadBackup upload => finishQuietly (uploadBackup upload)
  | .downloadComponent component password =>
    finish .backup (downloadComponent component password)
  | .uploadComponent component blob password =>
    finishQuietly (uploadComponent component blob password)
  | .config => inspect fun w => .config w.config w.host.strategy.isIsolated

end Wallet

end WalletTrust

import WalletTrust.Wallet.State

/-!
# Session, Approvals and Connections

The operations that finish without waiting for anybody.

Approvals and connections are two shelves. Both are loaded when the session is unlocked through the
wallet, and both are forgotten when it is locked, before any other observer hears of it. While they
are not loaded every question about an origin is answered as if nothing were trusted.

Whoever is connected or disconnected is told so, but the connection stands whether or not the page
can be reached.

## Main definitions

* `Wallet.setupPassword`, `Wallet.unlock`, `Wallet.logout`: The session with its registries.
* `Wallet.approve`, `Wallet.setPermission`, `Wallet.unapprove`: What the user allows an origin.
* `Wallet.connectIdentity`, `Wallet.disconnect`: Which identity an origin is connected to.
* `Wallet.revoke`: Taking everything back from an origin.
-/

namespace WalletTrust

namespace Wallet

/-! ## Approvals -/

/-- The permission of an origin, if it is approved. -/
def permission? (w : Wallet) (origin : String) : Option HostPermission :=
  w.core.approvals.bind (·.get? origin)

def isApproved (w : Wallet) (origin : String) : Bool :=
  (w.permission? origin).isSome

/-- Whether the proof requests of an origin skip the confirmation window. -/
def canSkipApprove (w : Wallet) (origin : String) : Bool :=
  ((w.permission? origin).map (·.canSkipApprove)).getD false

def approvalEntries (w : Wallet) : List ApprovalEntry :=
  ((w.core.approvals.map OriginMap.entries).getD []).map fun e =>
    { origin := e.1, canSkipApprove := e.2.canSkipApprove }

def loadApprovals : Op Wallet Unit := do
  onApprovals (Shelf.load approvalsLabel (← secret))

/-- Approve an origin, or change its flag. -/
def approve (entry : ApprovalEntry) : Op Wallet Unit := do
  if entry.origin = "" then Op.fail .originMissing
  else
    let permission : HostPermission := { canSkipApprove := entry.canSkipApprove }
    let _ ← onApprovals (Shelf.upsert approvalsLabel (← secret) entry.origin permission)

/-- Change the flag of an origin that is approved already. -/
def setPermission (origin : String) (canSkipApprove : Bool) : Op Wallet HostPermission := do
  if origin = "" then Op.fail .originMissing
  else
    loadApprovals
    if (← Op.get).isApproved origin then
      let permission : HostPermission := { canSkipApprove }
      let _ ← onApprovals (Shelf.upsert approvalsLabel (← secret) origin permission)
      return permission
    else Op.fail .notApproved

/-- Take back the approval of an origin. The answer tells whether it had one. -/
def unapprove (origin : String) : Op Wallet Bool := do
  return (← onApprovals (Shelf.remove approvalsLabel (← secret) origin)).isSome

def clearApprovals : Op Wallet Unit := do
  onApprovals (Shelf.clear (← secret))

/-! ## Connections -/

def connection? (w : Wallet) (origin : String) : Option Connection :=
  (w.core.connections.bind (·.get? origin)).map (Connection.of origin)

def isConnected (w : Wallet) (origin : String) : Bool :=
  (w.connection? origin).isSome

def connectionList (w : Wallet) : List Connection :=
  ((w.core.connections.map OriginMap.entries).getD []).map fun e => Connection.of e.1 e.2

def loadConnections : Op Wallet Unit := do
  onConnections (Shelf.load connectionsLabel (← secret))

def loadRegistries : Op Wallet Unit := do
  loadApprovals
  loadConnections

def identity (commitment : String) : Op Wallet (Option Identity) := do
  Op.ofExcept ((← Op.get).host.identities.lookup commitment)

def selectedIdentity : Op Wallet (Option Identity) := do
  Op.ofExcept (← Op.get).host.identities.lookupSelected

/-- The identity that an origin is connected to. -/
def connectedIdentity (origin : String) : Op Wallet (Option Identity) := do
  match (← Op.get).connection? origin with
  | none => return none
  | some connection => identity connection.commitment

/-- Tell the page of an origin. That it cannot be reached is no failure. -/
def notify (origin : String) (event : PageEvent) : Op Wallet Unit :=
  (onDesktop (Desktop.pushEvent origin event)).ignore

/-- Connect an origin to the identity with a commitment, in place of any other. -/
def connectIdentity (commitment origin : String) : Op Wallet Connection := do
  if origin = "" then Op.fail .originMissing
  else
    let found ← Op.ofOption .identityMissing (← identity commitment)
    let connected : ConnectedIdentity := { commitment := found.commitment, name := found.name }
    let _ ← onConnections (Shelf.upsert connectionsLabel (← secret) origin connected)
    notify origin (.connect connected.name)
    return .of origin connected

/-- The origin that is meant: the one of that name if it is connected, or else the first that is
connected to the identity with that commitment. -/
def disconnectTarget? (w : Wallet) (target : String) : Option String :=
  if w.isConnected target then some target
  else
    (w.core.connections.bind fun m => m.find? fun c => c.commitment = target).map (·.1)

/-- Disconnect an origin, named by itself or by the commitment of its identity. -/
def disconnect (target : String) : Op Wallet Connection := do
  if target = "" then Op.fail .originMissing
  else
    loadConnections
    let origin ← Op.ofOption .notConnected ((← Op.get).disconnectTarget? target)
    let removed ← onConnections (Shelf.remove connectionsLabel (← secret) origin)
    let removed ← Op.ofOption .notConnected removed
    notify origin .disconnect
    return .of origin removed

/-- Tell each of some origins that it is disconnected. -/
def notifyDisconnected : List String → Op Wallet Unit
  | [] => pure ()
  | origin :: rest => do
    notify origin .disconnect
    notifyDisconnected rest

/-- Disconnect every origin. -/
def clearConnections : Op Wallet Unit := do
  loadConnections
  -- The pages are told first, and so they are told even if the slot cannot be emptied.
  notifyDisconnected ((← Op.get).connectionList.map (·.origin))
  onConnections (Shelf.clear (← secret))

/-- Take back the approval of an origin and disconnect it. -/
def revoke (origin : String) : Op Wallet Unit := do
  if origin = "" then Op.fail .originMissing
  else
    let _ ← unapprove origin
    -- The approval is gone by now, whatever becomes of the connection.
    if (← Op.get).isConnected origin then
      let _ ← disconnect origin

/-! ## The session -/

/-- Set up the password and load the registries. -/
def setupPassword (password : String) : Op Wallet Bool := do
  let _ ← onLock (SessionLock.setupPassword password)
  loadRegistries
  return true

/-- Unlock the session and load the registries. -/
def unlock (password : String) : Op Wallet Bool := do
  let _ ← onLock (SessionLock.unlock password)
  loadRegistries
  return true

def forgetRegistries : Op Wallet Unit :=
  Op.modify fun w => { w with core := { w.core with approvals := none, connections := none } }

/-- Tell the host's observers, one after the other, that the session is locked. -/
def tellObservers : List String → Op Wallet Unit
  | [] => pure ()
  | name :: rest => do
    onDesktop (Op.modify (Desktop.record (.observerTold name)))
    tellObservers rest

/-- Lock the session. -/
def logout : Op Wallet Bool := do
  onLock SessionLock.drop
  forgetRegistries
  -- Whoever is told finds the session locked and the registries empty.
  tellObservers (← Op.get).core.observers
  onLock SessionLock.announce
  return true

end Wallet

end WalletTrust

import WalletTrust.Identity
import WalletTrust.Proof.Strategy
import WalletTrust.Request.Queue
import WalletTrust.Session
import WalletTrust.Shelf
import WalletTrust.Trust.Approval
import WalletTrust.Trust.Connection

/-!
# The State of a Wallet

Everything that an operation of the wallet can see or change.

The state has two halves. The host's half outlives the wallet: its storage, its desktop, the
identity book, the proving strategy and the supply of random bytes. The core's half is what the
wallet holds in memory, and a restart begins it anew.

Each component works on its own small part of the state. The operations here run a component's
operation on its part; two components may be given the same slot, so a slot is fetched from the
storage for each operation and put back after it.

## Main definitions

* `Config`, `Host`, `Core`, `Wallet`: The state.
* `Wallet.onLock`, `Wallet.onApprovals`, `Wallet.onConnections`, `Wallet.onDesk`: Running the
  operations of the components.
-/

namespace WalletTrust

/-- What a wallet is told about its platform. -/
structure Config where
  artifacts : ArtifactConfig := {}
  storageKeys : StorageKeys := {}
deriving DecidableEq, Repr, Inhabited

instance : Wire StorageKeys where
  toJson k :=
    .obj [("password", toJson k.password), ("approvals", toJson k.approvals),
      ("connections", toJson k.connections)]
  ofJson? j := do
    let r ← j.record? ["password", "approvals", "connections"] 0
    return {
      password := ← r.required "password"
      approvals := ← r.required "approvals"
      connections := ← r.required "connections" }

instance : Wire Purpose where
  toJson
    | .settings => .str "Settings"
    | .identity => .str "Identity"
  ofJson? j :=
    match j.variant? .direct with
    | some "Settings" => some .settings
    | some "Identity" => some .identity
    | _ => none

/-- What the host provides. -/
structure Host where
  storage : Storage := {}
  desktop : Desktop := {}
  identities : IdentityBook := {}
  strategy : Strategy := default
  entropy : Entropy := default
deriving Inhabited

/-- A component whose state is part of a backup file. -/
inductive BackupComponent where
  | approvals
  | connections
  /-- A component of the host. It holds `data`, and may refuse to give or to take a backup. -/
  | foreign (key : String) (data : Option String) (refuses : Bool)
deriving DecidableEq, Repr, Inhabited

/-- What a wallet holds in memory. -/
structure Core where
  session : Session := {}
  approvals : Option (OriginMap HostPermission) := none
  connections : Option (OriginMap ConnectedIdentity) := none
  queue : RequestQueue := {}
  /-- The names of the host's observers of the session, in the order they were added. -/
  observers : List String := []
  components : List BackupComponent := [.approvals, .connections]
deriving Inhabited

/-- A wallet and its host. -/
structure Wallet where
  config : Config := {}
  host : Host := {}
  core : Core := {}
deriving Inhabited

def approvalsLabel : ShelfLabel := { component := "approvals", purpose := .settings }

def connectionsLabel : ShelfLabel := { component := "connections", purpose := .identity }

namespace Wallet

def onDesktop {α : Type} (x : Op Desktop α) : Op Wallet α :=
  x.zoom (fun w => w.host.desktop) fun d w => { w with host := { w.host with desktop := d } }

def onLock {α : Type} (x : Op SessionLock α) : Op Wallet α :=
  x.zoom
    (fun w =>
      { session := w.core.session
        verifier := w.host.storage.slot w.config.storageKeys.password
        entropy := w.host.entropy
        desktop := w.host.desktop })
    fun s w =>
      { w with
        host :=
          { w.host with
            storage := w.host.storage.put w.config.storageKeys.password s.verifier
            entropy := s.entropy
            desktop := s.desktop }
        core := { w.core with session := s.session } }

def onApprovals {α : Type} (x : Op (Shelf HostPermission) α) : Op Wallet α :=
  x.zoom
    (fun w =>
      { entries := w.core.approvals
        slot := w.host.storage.slot w.config.storageKeys.approvals
        entropy := w.host.entropy })
    fun s w =>
      { w with
        host :=
          { w.host with
            storage := w.host.storage.put w.config.storageKeys.approvals s.slot
            entropy := s.entropy }
        core := { w.core with approvals := s.entries } }

def onConnections {α : Type} (x : Op (Shelf ConnectedIdentity) α) : Op Wallet α :=
  x.zoom
    (fun w =>
      { entries := w.core.connections
        slot := w.host.storage.slot w.config.storageKeys.connections
        entropy := w.host.entropy })
    fun s w =>
      { w with
        host :=
          { w.host with
            storage := w.host.storage.put w.config.storageKeys.connections s.slot
            entropy := s.entropy }
        core := { w.core with connections := s.entries } }

def onDesk {α : Type} (x : Op Desk α) : Op Wallet α :=
  x.zoom (fun w => { queue := w.core.queue, desktop := w.host.desktop })
    fun s w =>
      { w with
        host := { w.host with desktop := s.desktop }
        core := { w.core with queue := s.queue } }

/-- The secret of the session, which the registries borrow. -/
def secret : Op Wallet (Option String) :=
  Op.gets fun w => w.core.session.secret

end Wallet

end WalletTrust

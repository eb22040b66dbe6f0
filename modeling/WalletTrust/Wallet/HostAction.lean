import WalletTrust.Wallet.State

/-!
# What the Host Does

The changes that come from outside of the wallet.

The user closes windows and selects identities. The host runs out of space, loses its windows and
its pages, lets a window wait, and other programs write to its storage. None of this goes through
the wallet, and all of it may happen between any two calls.

## Main definitions

* `HostAction`: The changes.
* `Wallet.undergo`: What a change does.
-/

namespace WalletTrust

/-- A part of the host that may be out of order. -/
inductive HostPart where
  | windows
  /-- The host cannot be reached when a window is to be opened. -/
  | reach
  | closing
  | pages
  | broadcasts
  | identities
deriving DecidableEq, Repr, Inhabited

/-- A change that comes from outside of the wallet. -/
inductive HostAction where
  | setFault (part : HostPart) (broken : Bool)
  | setReadable (slot : String) (readable : Bool)
  | setClearable (slot : String) (clearable : Bool)
  | setQuota (slot : String) (bytes : Option Nat)
  /-- A text is written into a slot, within its quota. -/
  | write (slot value : String)
  /-- A text is sealed and written into a slot, within its quota. -/
  | writeSealed (slot plain secret : String) (purpose : Purpose)
  | erase (slot : String)
  /-- The next request for a window is held. -/
  | holdWindow
  | releaseWindow
  | closeWindow (id : Nat)
  /-- The wallet alone is told that a window was closed. -/
  | reportClosed (id : Nat)
  | useProver (prover : Prover)
  | useSandbox (sandbox : Sandbox)
  | insertIdentity (identity : Identity)
  | selectIdentity (commitment : Option String)
  /-- An observer of the session is added, in place of any of the same name. -/
  | addObserver (name : String)
  | dropObserver (name : String)

namespace Desktop

/-- The desktop with a part in or out of order. Identities are no part of it. -/
def setFault (part : HostPart) (broken : Bool) (d : Desktop) : Desktop :=
  match part with
  | .windows => { d with refusesWindows := broken }
  | .reach => { d with unreachable := broken }
  | .closing => { d with closingFails := broken }
  | .pages => { d with pagesGone := broken }
  | .broadcasts => { d with broadcastsFail := broken }
  | .identities => d

end Desktop

namespace Host

/-- The host with a part in or out of order. -/
def setFault (part : HostPart) (broken : Bool) (h : Host) : Host :=
  match part with
  | .identities => { h with identities := { h.identities with available := !broken } }
  | _ => { h with desktop := h.desktop.setFault part broken }

/-- The host with another prover, if its proofs are computed in process. -/
def useProver (prover : Prover) (h : Host) : Host :=
  match h.strategy with
  | .inProcess _ => { h with strategy := .inProcess prover }
  | .isolated _ => h

/-- The host with other isolated contexts, if it has any. -/
def useSandbox (sandbox : Sandbox) (h : Host) : Host :=
  match h.strategy with
  | .inProcess _ => h
  | .isolated _ => { h with strategy := .isolated sandbox }

end Host

namespace Wallet

def onHost (f : Host → Host) : Op Wallet Unit :=
  Op.modify fun w => { w with host := f w.host }

/-- Run an operation on a slot, past the wallet. -/
def onSlot {α : Type} (name : String) (x : Op Slot α) : Op Wallet α :=
  (Storage.on name x).zoom (fun w => w.host.storage) fun s w =>
    { w with host := { w.host with storage := s } }

/-- Seal a text with the host's supply of random bytes. -/
def sealOutside (plain secret : String) (purpose : Purpose) : Op Wallet String :=
  Op.draw fun w =>
    let (text, entropy) := SealedText.sealFresh plain secret purpose w.host.entropy
    (text, { w with host := { w.host with entropy } })

def onObservers (f : List String → List String) : Op Wallet Unit :=
  Op.modify fun w => { w with core := { w.core with observers := f w.core.observers } }

/-- What a change from outside does. It fails only where a slot refuses a text for its size. -/
def undergo : HostAction → Op Wallet Unit
  | .setFault part broken => onHost (Host.setFault part broken)
  | .setReadable slot readable => onSlot slot (Op.modify fun s => { s with readable })
  | .setClearable slot clearable => onSlot slot (Op.modify fun s => { s with clearable })
  | .setQuota slot bytes => onSlot slot (Op.modify fun s => { s with quota := bytes })
  | .write slot value => onSlot slot (Slot.write value)
  | .writeSealed slot plain secret purpose => do
    let text ← sealOutside plain secret purpose
    onSlot slot (Slot.write text)
  | .erase slot => onSlot slot (Op.modify Slot.erased)
  | .holdWindow => onDesktop (Op.modify fun d => { d with holdsNext := true })
  | .releaseWindow => onDesktop (Op.modify Desktop.release)
  | .closeWindow id => onDesk (Desk.windowClosed id)
  | .reportClosed id => onDesk (Desk.surfaceClosed id)
  | .useProver prover => onHost (Host.useProver prover)
  | .useSandbox sandbox => onHost (Host.useSandbox sandbox)
  | .insertIdentity identity =>
    onHost fun h => { h with identities := h.identities.insert identity }
  | .selectIdentity commitment =>
    onHost fun h => { h with identities := h.identities.select commitment }
  | .addObserver name => onObservers fun names => names.filter (· ≠ name) ++ [name]
  | .dropObserver name => onObservers fun names => names.filter (· ≠ name)

end Wallet

end WalletTrust

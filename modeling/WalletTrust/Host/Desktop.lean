import WalletTrust.Proof.Job
import WalletTrust.Request.Message

/-!
# The Desktop

The windows and message channels that the host offers, and the record of what was asked of it.

A window is opened in two steps. The wallet asks for it, and then either it is there at once or the
request is held for as long as the host likes. When the window comes, opening may still fail.
Closing a window makes the host call every listener that is registered at that moment. A listener
belongs to the request queue that registered it; when that queue is gone the listener stays
registered and does nothing.

Everything the host is asked for is recorded in order, including what the provers and the backup
components are asked for. The record is what an outsider can observe.

## Main definitions

* `HostEvent`: Something the host was asked for.
* `Desktop`: The windows, the listeners, the faults and the record.
* `Desktop.requestWindow`, `Desktop.openWindow`: The two steps of opening a window.
* `Desktop.pushEvent`, `Desktop.broadcast`: Telling a page, and telling every open window.
-/

namespace WalletTrust

/-- Something the host was asked for, or that it did. -/
inductive HostEvent where
  | windowRequested
  | windowOpened (id : Nat)
  /-- A window is to be closed; without a number, whichever was opened last. -/
  | closeRequested (id : Option Nat)
  | listenerAdded (id : Nat)
  | listenerRemoved (id : Nat)
  | pageTold (origin : String) (event : PageEvent)
  | pageUnreachable (origin : String) (event : PageEvent)
  | broadcast (message : ExtensionMessage)
  | broadcastLost (message : ExtensionMessage)
  /-- The prover of this process was given a job. -/
  | proofStarted (job : ProofJob)
  | contextCreated
  | jobPosted (job : ProofJob)
  | answerAwaited
  | contextTornDown
  /-- An observer of the session was told that it is locked. -/
  | observerTold (name : String)
  | componentDownload (key password : String)
  | componentUpload (key data password : String)
deriving Inhabited

/-- A listener for closed windows. It is `live` as long as the queue that registered it exists. -/
structure CloseListener where
  id : Nat
  live : Bool := true
deriving DecidableEq, Repr, Inhabited

/-- The windows and message channels of the host. -/
structure Desktop where
  nextWindow : Nat := 1
  nextListener : Nat := 0
  listeners : List CloseListener := []
  refusesWindows : Bool := false
  /-- The host cannot be reached when a window is to be opened. -/
  unreachable : Bool := false
  closingFails : Bool := false
  pagesGone : Bool := false
  broadcastsFail : Bool := false
  /-- The next request for a window is held. -/
  holdsNext : Bool := false
  nextTicket : Nat := 0
  /-- The tickets of the requests for a window that are held, the oldest first. -/
  held : List Nat := []
  log : List HostEvent := []
deriving Inhabited

namespace Desktop

def record (e : HostEvent) (d : Desktop) : Desktop :=
  { d with log := d.log ++ [e] }

/-- Ask for a window. The answer is the ticket of the request, if it is held. -/
def requestWindow : Op Desktop (Option Nat) := fun d =>
  let asked : Desktop := d.record .windowRequested
  if d.holdsNext then
    (.ok (some d.nextTicket),
      { asked with
        holdsNext := false
        nextTicket := d.nextTicket + 1
        held := d.held ++ [d.nextTicket] })
  else (.ok none, asked)

/-- The window of a request that is held no longer. -/
def openWindow : Op Desktop Nat := fun d =>
  if d.refusesWindows then (.error (.surfaceUnavailable "window creation refused"), d)
  else if d.unreachable then (.error (.transport "host is gone"), d)
  else
    let opened : Desktop := { d with nextWindow := d.nextWindow + 1 }
    (.ok d.nextWindow, opened.record (.windowOpened d.nextWindow))

/-- The window that was opened last, if any. -/
def lastWindow (d : Desktop) : Option Nat :=
  if d.nextWindow ≤ 1 then none else some (d.nextWindow - 1)

/-- Ask for a window to be closed. The answer is the window that the host closes. -/
def requestClose (id : Option Nat) : Op Desktop (Option Nat) := fun d =>
  let asked : Desktop := d.record (.closeRequested id)
  if d.closingFails then (.error (.transport "window is gone"), asked)
  else (.ok (id.or d.lastWindow), asked)

def addListener : Op Desktop Nat := fun d =>
  let added : Desktop :=
    { d with
      nextListener := d.nextListener + 1
      listeners := d.listeners ++ [{ id := d.nextListener }] }
  (.ok d.nextListener, added.record (.listenerAdded d.nextListener))

def removeListener (id : Nat) : Op Desktop Unit := fun d =>
  let removed : Desktop := { d with listeners := d.listeners.filter fun l => l.id ≠ id }
  (.ok (), removed.record (.listenerRemoved id))

def pushEvent (origin : String) (event : PageEvent) : Op Desktop Unit := fun d =>
  if d.pagesGone then
    (.error (.transport "page context is gone"), d.record (.pageUnreachable origin event))
  else (.ok (), d.record (.pageTold origin event))

def broadcast (message : ExtensionMessage) : Op Desktop Unit := fun d =>
  if d.broadcastsFail then
    (.error (.transport "no receiving end"), d.record (.broadcastLost message))
  else (.ok (), d.record (.broadcast message))

/-- Let the oldest held request for a window go, and hold no further one. -/
def release (d : Desktop) : Desktop :=
  { d with holdsNext := false, held := d.held.drop 1 }

/-- Forget a held request for a window. -/
def abandonTicket (ticket : Nat) (d : Desktop) : Desktop :=
  { d with held := d.held.filter (· ≠ ticket) }

/-- The queue that registered the listeners is gone. -/
def retireListeners (d : Desktop) : Desktop :=
  { d with listeners := d.listeners.map fun l => { l with live := false } }

end Desktop

end WalletTrust

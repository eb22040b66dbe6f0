import WalletTrust.Host.Desktop

/-!
# The Request Queue

Questions wait in one queue and are shown in one window.

The first question in an empty queue has the window opened; those that follow join it. A question
is answered by a decision, by the window being closed, or by the window failing to open. Answering
takes it out of the queue, so it is answered at most once. When the queue runs empty the window is
closed, and its listener is removed before that, so the queue's own closing is not mistaken for the
user's.

The queue order is the order of display. Questions may be decided in any order.

Opening a window may take a while, and everything else may happen in between. A question whose
window is being opened is `opening` and is in the queue already.

A question has a number, by which the user's decision names it, and a channel, on which its asker
waits. Channels are counted without bound. Numbers are words of sixty-four bits and would begin
anew after the last.

## Main definitions

* `QueuedRequest`: A question in the queue.
* `RequestQueue`: The queue, with the window and the listener it holds.
* `Desk`: A queue together with the desktop it is shown on.
* `Desk.submit`, `Desk.completeOpening`: Putting a question to the user, in one step or in two.
* `Desk.finalize`: A decision.
* `Desk.windowClosed`: A window was closed.
-/

namespace WalletTrust

/-- A question in the queue, with the channel on which its asker waits. -/
structure QueuedRequest extends PendingRequest where
  channel : Nat
deriving Inhabited

/-- The questions that wait for the user. -/
structure RequestQueue where
  nonce : UInt64 := 0
  nextChannel : Nat := 0
  pending : List QueuedRequest := []
  /-- The window in which the queue is shown. -/
  popup : Option Nat := none
  /-- The listener that tells when the window is closed. -/
  listener : Option Nat := none
  /-- The answers that were given, by channel. -/
  answers : List (Nat × Except Error Json) := []
deriving Inhabited

namespace RequestQueue

/-- The questions as they are shown. -/
def requests (q : RequestQueue) : List PendingRequest :=
  q.pending.map (·.toPendingRequest)

/-- The first question in the queue with a number. -/
def find? (id : UInt64) (q : RequestQueue) : Option QueuedRequest :=
  q.pending.find? fun e => e.id = id

/-- The answer that was given on a channel. -/
def answer? (q : RequestQueue) (channel : Nat) : Option (Except Error Json) :=
  (q.answers.find? fun a => a.1 = channel).map (·.2)

def answer (channel : Nat) (outcome : Except Error Json) (q : RequestQueue) : RequestQueue :=
  { q with answers := q.answers ++ [(channel, outcome)] }

/-- Give the same answer to several questions. -/
def answerAll (entries : List QueuedRequest) (outcome : Except Error Json) (q : RequestQueue) :
    RequestQueue :=
  { q with answers := q.answers ++ entries.map fun e => (e.channel, outcome) }

/-- Put a question at the end of the queue, under the next number and with a channel of its own. -/
def enqueue (kind : RequestKind) (payload : Json) (q : RequestQueue) : RequestQueue :=
  { q with
    nonce := q.nonce + 1
    nextChannel := q.nextChannel + 1
    pending :=
      q.pending ++ [{ id := q.nonce, kind, payload, channel := q.nextChannel }] }

/-- Take the first question with a number out of the queue. -/
def dequeue (id : UInt64) (q : RequestQueue) : RequestQueue :=
  { q with pending := q.pending.eraseP fun e => e.id = id }

/-- Hold a window and the listener that tells when it is closed. -/
def hold (window listener : Nat) (q : RequestQueue) : RequestQueue :=
  { q with popup := some window, listener := some listener }

def letGo (q : RequestQueue) : RequestQueue :=
  { q with popup := none, listener := none }

/-- Drop every question. All but those of number `id` are answered with the failure. -/
def dropAll (id : UInt64) (failure : Error) (q : RequestQueue) : RequestQueue :=
  let dropped : RequestQueue := { q with pending := [] }
  dropped.answerAll (q.pending.filter fun e => e.id ≠ id) (.error failure)

/-- Take a question out of the queue and answer it. A queue that runs empty lets go of its window.
-/
def settle (entry : QueuedRequest) (outcome : Except Error Json) (q : RequestQueue) :
    RequestQueue :=
  let rest := q.dequeue entry.id
  (if rest.pending.isEmpty then rest.letGo else rest).answer entry.channel outcome

end RequestQueue

/-- A queue and the desktop it is shown on. -/
structure Desk where
  queue : RequestQueue := {}
  desktop : Desktop := {}
deriving Inhabited

/-- How far a question got when it was put. -/
inductive Submission where
  /-- It waits in the queue. -/
  | queued (id : UInt64) (channel : Nat)
  /-- Its window is being opened. -/
  | opening (id : UInt64) (channel ticket : Nat)
deriving DecidableEq, Repr, Inhabited

namespace Desk

def onDesktop {α : Type} (x : Op Desktop α) : Op Desk α :=
  x.zoom Desk.desktop fun d s => { s with desktop := d }

def onQueue (f : RequestQueue → RequestQueue) : Op Desk Unit :=
  Op.modify fun s => { s with queue := f s.queue }

/-- Show the queue in every open window. A lost message is no failure. -/
def broadcastQueue : Op Desk Unit := do
  let desk ← Op.get
  (onDesktop (Desktop.broadcast (.pendingRequests desk.queue.requests))).ignore

/-- The failure that a question is told when its window does not open. -/
def openingFailure : Error → Error
  | .surfaceUnavailable reason => .surfaceUnavailable reason
  | e => .surfaceUnavailable e.message

/-- The window of question `id` did not open. The whole queue is dropped; the other questions in it
are answered with the failure, and `id` fails with it. -/
def abandon {α : Type} (id : UInt64) (cause : Error) : Op Desk α := do
  let failure := openingFailure cause
  onQueue (·.dropAll id failure)
  broadcastQueue
  Op.fail failure

/-- Hold a window that was opened for the queue, and listen for its being closed. -/
def holdWindow (window : Nat) : Op Desk Unit := do
  let listener ← onDesktop Desktop.addListener
  onQueue (·.hold window listener)

/-- The window that was requested for question `id` comes, or fails to. -/
def completeOpening (id : UInt64) : Op Desk Unit := do
  match ← (onDesktop Desktop.openWindow).attempt with
  | .ok window =>
    holdWindow window
    broadcastQueue
  | .error cause => abandon id cause

def submit (kind : RequestKind) (payload : Json) : Op Desk Submission := do
  let queue := (← Op.get).queue
  onQueue (·.enqueue kind payload)
  -- Only the first question has a window opened; the others are seen in that one.
  if (← Op.get).queue.pending.length = 1 then
    match ← onDesktop Desktop.requestWindow with
    | some ticket => return .opening queue.nonce queue.nextChannel ticket
    | none =>
      completeOpening queue.nonce
      return .queued queue.nonce queue.nextChannel
  else
    broadcastQueue
    return .queued queue.nonce queue.nextChannel

/-- A window was closed. If it is the one the queue is shown in, every question in the queue is
rejected. -/
def surfaceClosed (window : Nat) : Op Desk Unit := do
  let queue := (← Op.get).queue
  if queue.popup = some window then
    -- The queue is empty before anybody is answered.
    onQueue fun q => { q.letGo with pending := [] }
    match queue.listener with
    | some listener => onDesktop (Desktop.removeListener listener)
    | none => pure ()
    onQueue (·.answerAll queue.pending (.error .userRejected))

/-- Call some listeners with the window that was closed. -/
def callListeners (window : Nat) : List CloseListener → Op Desk Unit
  | [] => pure ()
  | l :: rest => do
    if l.live then surfaceClosed window
    callListeners window rest

/-- A window was closed: every listener registered at this moment is called. -/
def windowClosed (window : Nat) : Op Desk Unit := do
  callListeners window (← Op.get).desktop.listeners

/-- Close a window; without a number, the one that was opened last. -/
def closeWindow (id : Option Nat) : Op Desk Unit := do
  match ← onDesktop (Desktop.requestClose id) with
  | some window => windowClosed window
  | none => pure ()

/-- Let go of the window of a queue that has run empty: stop listening, then close it. -/
def dismiss (queue : RequestQueue) : Op Desk Unit := do
  match queue.listener with
  | some listener => onDesktop (Desktop.removeListener listener)
  | none => pure ()
  (closeWindow queue.popup).ignore

/-- Decide a question. The answer tells whether there was one of that number. -/
def finalize (request : FinalizeRequest) : Op Desk Bool := do
  let queue := (← Op.get).queue
  match queue.find? request.id with
  | none => return false
  | some entry =>
    let last := (queue.dequeue entry.id).pending.isEmpty
    onQueue (·.settle entry (request.status.outcome request.data))
    broadcastQueue
    -- The window is closed last, so its closing finds an empty queue.
    if last then dismiss queue
    return true

end Desk

end WalletTrust

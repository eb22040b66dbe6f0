import WalletTrust.Wallet.Registries

/-!
# Flows

The operations that may have to wait: for an answer of the user, for the session to be unlocked, or
for a window to open.

A flow runs until it is done or has to wait. What it waits for, and what it will do then, is a
value of `Waiting`; while it waits, everything else may happen. So a flow is not a suspended
computation but a list of plain operations, each ending in a result or in the next wait, and what
can happen between two of them is whatever else the wallet can do. `Waiting.isReady` tells from the
state whether the wait is over, and `resume` runs the next part.

A flow that puts a question carries an `Errand`: what the answer is wanted for. Failures are wrapped
by the errand for the page that began the flow.

The computation of a proof is no wait of this kind, though it may take long. The job is settled
before it begins, and all that is left to be done after it is to tell the proof to whoever asked, so
it is part of the step that begins it.

## Main definitions

* `Errand`, `Waiting`: What an answer is wanted for, and what a flow waits for.
* `Wallet.connect`: Bringing an origin from unknown to connected.
* `Wallet.reveal`: Revealing the commitment of the connected identity to an origin.
* `Wallet.prepare`, `Wallet.generate`: Confirming a proof request, and computing its proof.
* `Wallet.resume`: The next part of a flow.
-/

namespace WalletTrust

/-- What the answer to a question is wanted for. -/
inductive Errand where
  /-- For whoever put the question; with the number of the question, if that is wanted too. -/
  | asked (withId : Bool)
  /-- To approve an origin and go on connecting it. -/
  | approval (origin : String) (changeIdentity : Bool)
  | identityChoice (origin : String)
  | reveal (origin commitment : String)
  /-- To return a prepared request, or to have its proof computed. -/
  | proof (job : ProofJob) (compute : Bool)
deriving Inhabited

/-- What a flow waits for. -/
inductive Waiting where
  /-- The window in which the user unlocks the session, for a connect request. -/
  | unlockWindow (ticket : Nat) (origin : String) (changeIdentity : Bool)
  /-- The session being unlocked in that window. -/
  | unlock (window : Nat) (origin : String) (changeIdentity : Bool)
  /-- The session being unlocked, for nothing else. -/
  | unlockSignal
  /-- The window for a question that is in the queue. -/
  | window (id : UInt64) (channel ticket : Nat) (errand : Errand)
  | answer (id : UInt64) (channel : Nat) (errand : Errand)
  /-- Nothing any more: the queue of the question is gone, and this is the last word on it. -/
  | lastWord (id : UInt64) (outcome : Except Error Json)
deriving Inhabited

/-- What an operation answers. -/
inductive Answer where
  | done
  | flag (value : Bool)
  | status (status : SessionStatus)
  | state (state : SessionState)
  | text (text : String)
  | backup (blob : Option String)
  | names (names : List String)
  | permission (permission : Option HostPermission)
  | connection (connection : Option Connection)
  | connections (connections : List Connection)
  | identity (identity : Option Identity)
  | requests (requests : List PendingRequest)
  /-- The data that came with an acceptance. -/
  | data (data : Json)
  /-- The number of a question, and its outcome. -/
  | reply (id : UInt64) (outcome : Except Error Json)
  /-- A payload that was let through, if it was. -/
  | passed (payload : Option Json)
  | prepared (job : ProofJob)
  | proof (output : ProofOutput)
  | config (config : Config) (isolated : Bool)
deriving Inhabited

/-- How far an operation got. -/
inductive Progress where
  | finished (answer : Answer)
  | waiting (on : Waiting)
deriving Inhabited

/-- A failure of a connect request, as the page is told it. -/
def Error.ofConnect (e : Error) : Error :=
  .connectRequestFailed e.message

/-- A failure of a proof, as the page is told it. -/
def Error.ofProof (kind : ProofKind) (e : Error) : Error :=
  .proofFailed kind.displayName e.message

namespace Errand

/-- A failure on an errand, as whoever is behind it is told it. -/
def wrap : Errand → Error → Error
  | .approval _ _, e => .ofConnect e
  | .identityChoice _, e => .ofConnect e
  | .proof job true, e => .ofProof job.kind e
  | _, e => e

end Errand

namespace Waiting

def ticket? : Waiting → Option Nat
  | .unlockWindow ticket _ _ => some ticket
  | .window _ _ ticket _ => some ticket
  | _ => none

/-- Whether the wait is over. -/
def isReady (w : Wallet) : Waiting → Bool
  | .unlockWindow ticket _ _ => !w.host.desktop.held.contains ticket
  | .unlock _ _ _ => w.core.session.signal
  | .unlockSignal => w.core.session.signal
  | .window _ _ ticket _ => !w.host.desktop.held.contains ticket
  | .answer _ channel _ => (w.core.queue.answer? channel).isSome
  | .lastWord _ _ => true

/-- A failure after the wait, as whoever is behind the flow is told it. -/
def wrap : Waiting → Error → Error
  | .unlockWindow _ _ _, e => .ofConnect e
  | .unlock _ _ _, e => .ofConnect e
  | .window _ _ _ errand, e => errand.wrap e
  | .answer _ _ errand, e => errand.wrap e
  | _, e => e

end Waiting

namespace Wallet

/-- Put a question to the user and wait for the answer. -/
def ask (kind : RequestKind) (payload : Json) (errand : Errand) : Op Wallet Progress := do
  match ← onDesk (Desk.submit kind payload) with
  | .queued id channel => return .waiting (.answer id channel errand)
  | .opening id channel ticket => return .waiting (.window id channel ticket errand)

/-! ## Connecting -/

def originPayload (origin : String) : Json :=
  .obj [("origin", toJson origin)]

/-- What an accepted question said, or `otherwise` if it said nothing. -/
def decodeData {α : Type} [Wire α] (otherwise : α) : Json → Except Error α
  | .null => .ok otherwise
  | j => Wire.decode j

/-- Have the user pick an identity for an approved origin, unless it keeps the one it has. -/
def chooseIdentity (origin : String) (changeIdentity : Bool) : Op Wallet Progress := do
  match (← Op.get).connection? origin, changeIdentity with
  | some connection, false => return .finished (.connection (some connection))
  | _, _ => ask .connectIdentity (originPayload origin) (.identityChoice origin)

/-- Have the user approve an origin, unless it is approved, and go on. -/
def seekApproval (origin : String) (changeIdentity : Bool) : Op Wallet Progress := do
  let wallet ← Op.get
  if wallet.isApproved origin then
    approve { origin, canSkipApprove := wallet.canSkipApprove origin }
    chooseIdentity origin changeIdentity
  else ask .approve (originPayload origin) (.approval origin changeIdentity)

/-- Go on connecting once the session is unlocked: load the registries and close the window in which
it was unlocked. That it cannot be closed is no failure. -/
def enterUnlocked (window : Nat) (origin : String) (changeIdentity : Bool) :
    Op Wallet Progress := do
  loadRegistries
  (onDesk (Desk.closeWindow (some window))).ignore
  loadRegistries
  seekApproval origin changeIdentity

/-- Wait for the session to be unlocked in a window. -/
def awaitUnlock (window : Nat) (origin : String) (changeIdentity : Bool) : Op Wallet Progress := do
  if (← Op.get).core.session.signal then enterUnlocked window origin changeIdentity
  else return .waiting (.unlock window origin changeIdentity)

/-- The window in which the session is to be unlocked comes, or fails to. -/
def openUnlockWindow (origin : String) (changeIdentity : Bool) : Op Wallet Progress := do
  let window ← onDesktop Desktop.openWindow
  awaitUnlock window origin changeIdentity

/-- Bring an origin from unknown to connected, as far as the user agrees. -/
def startConnect (origin : String) (changeIdentity : Bool) : Op Wallet Progress := do
  if origin = "" then Op.fail .originMissing
  else if (← Op.get).core.session.isUnlocked then
    loadRegistries
    seekApproval origin changeIdentity
  else
    match ← onDesktop Desktop.requestWindow with
    | some ticket => return .waiting (.unlockWindow ticket origin changeIdentity)
    | none => openUnlockWindow origin changeIdentity

/-- A connect request of a page. -/
def connect (origin : String) (changeIdentity : Bool) : Op Wallet Progress :=
  (startConnect origin changeIdentity).mapError .ofConnect

/-- The user answered the question whether to approve an origin. -/
def approvalAnswered (origin : String) (changeIdentity : Bool) (outcome : Except Error Json) :
    Op Wallet Progress := do
  let data ← Op.ofExcept outcome
  let permission : HostPermission ← Op.ofExcept (decodeData {} data)
  approve { origin, canSkipApprove := permission.canSkipApprove }
  chooseIdentity origin changeIdentity

/-- The commitment that was chosen, or that of the selected identity. -/
def chosenCommitment (choice : IdentityChoice) : Op Wallet String := do
  match choice.commitment with
  | some commitment => return commitment
  | none => return (← Op.ofOption .identityMissing (← selectedIdentity)).commitment

/-- The user answered the question which identity to connect an origin to. -/
def choiceAnswered (origin : String) (outcome : Except Error Json) : Op Wallet Progress := do
  let data ← Op.ofExcept outcome
  let choice : IdentityChoice ← Op.ofExcept (decodeData {} data)
  let connection ← connectIdentity (← chosenCommitment choice) origin
  return .finished (.connection (some connection))

/-! ## Revealing -/

/-- Ask the user to reveal the commitment of the connected identity to an origin. -/
def reveal (origin : String) : Op Wallet Progress := do
  let connection ← Op.ofOption .notConnected ((← Op.get).connection? origin)
  -- What will be told is settled with the question, not with the answer.
  ask .revealCommitment (.obj [("origin", toJson origin), ("name", toJson connection.name)])
    (.reveal origin connection.commitment)

/-- The user answered the question whether to reveal a commitment. -/
def revealAnswered (origin commitment : String) (outcome : Except Error Json) :
    Op Wallet Progress := do
  let _ ← Op.ofExcept outcome
  onDesktop (Desktop.pushEvent origin (.revealCommitment commitment))
  return .finished .done

/-! ## Proofs -/

/-- The proof for a job, of the system the job is for. -/
def dispatch (job : ProofJob) : Op Wallet Progress := do
  let output ← onDesktop ((← Op.get).host.strategy.dispatch job)
  return .finished (.proof (← Op.ofExcept (output.ofKind job.kind)))

/-- The job of a request: everything it needs, checked, and nothing asked or computed yet. -/
def assemble (request : ProofRequest) (origin : String) : Op Wallet ProofJob := do
  if origin = "" then Op.fail .originMissing
  else
    let identity ← Op.ofOption .identityMissing (← connectedIdentity origin)
    let raw ← Op.ofExcept request.merkle.select
    let source ← Op.ofExcept (MerkleSource.validate raw)
    let artifacts ← Op.ofExcept ((← Op.get).config.artifacts.resolve request.kind)
    return request.job source (some identity.serialized) artifacts origin

/-- A prepared request is confirmed: return it, or have its proof computed. -/
def confirmed (job : ProofJob) (compute : Bool) : Op Wallet Progress := do
  if compute then dispatch job else return .finished (.prepared job)

/-- Assemble the job of a request and have the user confirm it, unless the origin skips that. -/
def requestProof (request : ProofRequest) (origin : String) (compute : Bool) :
    Op Wallet Progress := do
  let job ← assemble request origin
  -- The job is settled here as well; the user is shown all of it but the identity.
  if (← Op.get).canSkipApprove origin then confirmed job compute
  else ask job.kind.requestKind job.withoutIdentity.preparedJson (.proof job compute)

def prepare (request : ProofRequest) (origin : String) : Op Wallet Progress :=
  requestProof request origin false

/-- Prepare a proof request, have it confirmed and compute its proof. -/
def generate (request : ProofRequest) (origin : String) : Op Wallet Progress :=
  (requestProof request origin true).mapError (.ofProof request.kind)

/-! ## Going on -/

/-- Do what an answer was wanted for. -/
def fulfil (id : UInt64) (errand : Errand) (outcome : Except Error Json) : Op Wallet Progress :=
  match errand with
  | .asked true => return .finished (.reply id outcome)
  | .asked false => return .finished (.data (← Op.ofExcept outcome))
  | .approval origin changeIdentity => approvalAnswered origin changeIdentity outcome
  | .identityChoice origin => choiceAnswered origin outcome
  | .reveal origin commitment => revealAnswered origin commitment outcome
  | .proof job compute => do
    let _ ← Op.ofExcept outcome
    confirmed job compute

/-- Go on with an errand if its question is answered, and wait for the answer if not. -/
def awaitAnswer (id : UInt64) (channel : Nat) (errand : Errand) : Op Wallet Progress := do
  match (← Op.get).core.queue.answer? channel with
  | some outcome => fulfil id errand outcome
  | none => return .waiting (.answer id channel errand)

/-- Go on after a wait. Whoever is not ready yet waits on. -/
def goOn : Waiting → Op Wallet Progress
  | .unlockWindow _ origin changeIdentity => openUnlockWindow origin changeIdentity
  | .unlock window origin changeIdentity => awaitUnlock window origin changeIdentity
  | .unlockSignal => do
    if (← Op.get).core.session.signal then return .finished .done else return .waiting .unlockSignal
  | .window id channel _ errand => do
    onDesk (Desk.completeOpening id)
    awaitAnswer id channel errand
  | .answer id channel errand => awaitAnswer id channel errand
  | .lastWord id outcome => return .finished (.reply id outcome)

/-- The next part of a flow. -/
def resume (on : Waiting) : Op Wallet Progress :=
  (goOn on).mapError on.wrap

end Wallet

end WalletTrust

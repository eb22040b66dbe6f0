import WalletTrust.Proof.Strategy
import WalletTrust.Proofs.DeskSteps
import WalletTrust.Session

/-!
# Silent Operations

Operations that use no identity and tell no page anything.

An identity is used when a job with it goes to a prover or an isolated context, and when its
commitment is told to a page. A page is also told that its origin is connected or disconnected. The
record of the host shows all of it. Nothing that a desk or the session does is a use or a message to
a page, and this is checked here once for each of their operations.

A message to a page that could not be reached counts. The wallet let go of it; that nobody was there
to hear it is the host's affair.

The exceptions are computed and not only bounded. A dispatch is one use, with the job that was
given, unless no context could be made for it; a message that reveals a commitment is one use, with
that commitment; and a message about a connection is none. So what `Consent` counts are the uses
themselves.

## Main definitions

* `Use`: A use of an identity.
* `Desktop.uses`, `Desktop.told`: The uses and the messages to pages that the record shows, in
  order.
* `Desktop.Silent`: No use and no message.
* `SessionLock.Firm`: Neither, and a session that was unlocked stays so.

## Theorems

* `Desk.submit_silent`, `Desk.completeOpening_silent`, `Desk.finalize_silent`,
  `Desk.windowClosed_silent`: What a desk does is silent.
* `SessionLock.setupPassword_firm`, `SessionLock.unlock_firm`: What the session does, short of
  locking it.
* `Strategy.dispatch_uses`, `Strategy.dispatch_told`: A job is one use, and nothing that a page is
  told of.
* `Desktop.pushEvent_told`, `Desktop.pushEvent_reveal`: A message to a page is told, and one that
  reveals a commitment is a use.
* `Desk.closeWindow_silent`: Closing a window may reject questions, and tells no page.
-/

namespace WalletTrust

/-- A use of an identity. -/
inductive Use where
  /-- A job went to a prover or an isolated context. -/
  | job (job : ProofJob)
  /-- A commitment was told to the page of an origin. -/
  | reveal (origin commitment : String)
deriving Inhabited

/-- The use of an identity that an event is. -/
def HostEvent.use? : HostEvent → Option Use
  | .proofStarted job => some (.job job)
  | .jobPosted job => some (.job job)
  | .pageTold origin (.revealCommitment commitment) => some (.reveal origin commitment)
  | .pageUnreachable origin (.revealCommitment commitment) => some (.reveal origin commitment)
  | _ => none

/-- The event has nothing to do with proofs. -/
def HostEvent.isPublic : HostEvent → Bool
  | .proofStarted _ => false
  | .contextCreated => false
  | .jobPosted _ => false
  | .answerAwaited => false
  | .contextTornDown => false
  | _ => true

/-- The message to the page of an origin that an event is, whether or not the page was there. -/
def HostEvent.told? : HostEvent → Option (String × PageEvent)
  | .pageTold origin event => some (origin, event)
  | .pageUnreachable origin event => some (origin, event)
  | _ => none

namespace Desktop

/-- The uses of identities, in order. -/
def uses (d : Desktop) : List Use :=
  d.log.filterMap HostEvent.use?

/-- The messages to pages, in order. -/
def told (d : Desktop) : List (String × PageEvent) :=
  d.log.filterMap HostEvent.told?

/-- What the wallet let go of: the uses of identities and the messages to pages. -/
def released (d : Desktop) : List Use × List (String × PageEvent) :=
  (d.uses, d.told)

/-- Recording an event adds the use that it is, if it is one. -/
theorem uses_record (e : HostEvent) (d : Desktop) :
    (d.record e).uses = d.uses ++ e.use?.toList := by
  rw [uses, record, List.filterMap_append]
  rfl

/-- And so with what a page is told. -/
theorem told_record (e : HostEvent) (d : Desktop) :
    (d.record e).told = d.told ++ e.told?.toList := by
  rw [told, record, List.filterMap_append]
  rfl

/-- An event that is neither a use nor a message to a page releases nothing. -/
theorem released_record {e : HostEvent} (huse : e.use? = none) (htold : e.told? = none)
    (d : Desktop) : (d.record e).released = d.released := by
  rw [released, uses_record, told_record, huse, htold]
  exact Prod.ext (List.append_nil _) (List.append_nil _)

/-- An operation that uses no identity and tells no page anything. -/
abbrev Silent {α : Type} (x : Op Desktop α) : Prop :=
  Op.Within (Op.Same released) x

/-- To record such an event is to be silent. -/
theorem record_silent {e : HostEvent} (huse : e.use? = none) (htold : e.told? = none) :
    Silent (Op.modify (record e)) :=
  fun d => released_record huse htold d

/-- A window is asked for, whether or not it is held back. -/
theorem requestWindow_silent : Silent requestWindow := by
  intro d
  simp only [requestWindow]
  split
  · exact released_record rfl rfl d
  · exact released_record rfl rfl d

/-- That a window has come is told to nobody but the wallet. -/
theorem openWindow_silent : Silent openWindow := by
  intro d
  simp only [openWindow]
  split
  · rfl
  · split
    · rfl
    · exact released_record rfl rfl d

theorem requestClose_silent (id : Option Nat) : Silent (requestClose id) := by
  intro d
  simp only [requestClose]
  split
  · exact released_record rfl rfl d
  · exact released_record rfl rfl d

theorem addListener_silent : Silent addListener :=
  fun d => released_record rfl rfl d

theorem removeListener_silent (id : Nat) : Silent (removeListener id) :=
  fun d => released_record rfl rfl d

/-- A broadcast goes to the surfaces of the wallet. It is no message to a page. -/
theorem broadcast_silent (message : ExtensionMessage) : Silent (broadcast message) := by
  intro d
  simp only [broadcast]
  split
  · exact released_record rfl rfl d
  · exact released_record rfl rfl d

/-- A message to a page is told, whether or not the page can be reached. -/
theorem pushEvent_told (origin : String) (event : PageEvent) (d : Desktop) :
    (pushEvent origin event d).2.told = d.told ++ [(origin, event)] := by
  simp only [pushEvent]
  split
  · exact told_record _ d
  · exact told_record _ d

/-- Only the revealing of a commitment is a use. -/
theorem pushEvent_uses {event : PageEvent} (h : ∀ commitment, event ≠ .revealCommitment commitment)
    (origin : String) (d : Desktop) : (pushEvent origin event d).2.uses = d.uses := by
  have hrecord {e : HostEvent} (he : e.use? = none) : (d.record e).uses = d.uses := by
    rw [uses_record, he]
    exact List.append_nil _
  simp only [pushEvent]
  cases event with
  | connect name =>
      split
      · exact hrecord rfl
      · exact hrecord rfl
  | disconnect =>
      split
      · exact hrecord rfl
      · exact hrecord rfl
  | revealCommitment commitment => exact absurd rfl (h commitment)

/-- Revealing a commitment is one use, whether or not the page can be reached. -/
theorem pushEvent_reveal (origin commitment : String) (d : Desktop) :
    (pushEvent origin (.revealCommitment commitment) d).2.uses =
      d.uses ++ [.reveal origin commitment] := by
  simp only [pushEvent]
  split
  · exact uses_record _ d
  · exact uses_record _ d

end Desktop

/-- A job that is dispatched is one use, unless the context for it cannot be made. -/
theorem Strategy.dispatch_uses (strategy : Strategy) (job : ProofJob) (d : Desktop) :
    (strategy.dispatch job d).2.uses = d.uses ++ [.job job] ∨
      (strategy.dispatch job d).2.uses = d.uses := by
  cases strategy with
  | inProcess prover => exact .inl (Desktop.uses_record (.proofStarted job) d)
  | isolated sandbox =>
      let asked := d.record .contextCreated
      have hasked : asked.uses = d.uses := congrArg Prod.fst (Desktop.released_record rfl rfl d)
      -- A context that is never made gets no job.
      rcases hcreate : sandbox.create with e | _
      · refine .inr ?_
        simp only [dispatch, Op.bind_apply, Op.modify, Op.ofExcept, hcreate]
        exact hasked
      · refine .inl ?_
        have hposted : (converse sandbox job asked).2.uses = asked.uses ++ [.job job] := by
          have hrest : Desktop.Silent (do
              Op.ofExcept (sandbox.post job)
              Op.modify (Desktop.record .answerAwaited)
              Op.ofExcept (ofMessage (sandbox.answer job)) : Op Desktop ProofOutput) := by
            refine .bind (.ofExcept _) fun _ => ?_
            refine .bind (Desktop.record_silent rfl rfl) fun _ => ?_
            exact .ofExcept _
          have hposting := congrArg Prod.fst (hrest (asked.record (.jobPosted job)))
          exact hposting.trans (Desktop.uses_record _ asked)
        -- The context is torn down afterwards, whatever it answered.
        have htorn : Desktop.Silent (do
            Op.modify (Desktop.record .contextTornDown)
            Op.ofExcept (converse sandbox job asked).1 : Op Desktop ProofOutput) := by
          refine .bind (Desktop.record_silent rfl rfl) fun _ => ?_
          exact .ofExcept _
        simp only [dispatch, Op.bind_apply, Op.modify, Op.ofExcept, hcreate, Op.attempt]
        exact ((congrArg Prod.fst (htorn _)).trans hposted).trans
          (congrArg (· ++ [Use.job job]) hasked)

/-- A job is nothing that a page is told of. -/
theorem Strategy.dispatch_told (strategy : Strategy) (job : ProofJob) :
    Op.Within (Op.Same Desktop.told) (strategy.dispatch job) := by
  have hrecord {e : HostEvent} (he : e.told? = none) :
      Op.Within (Op.Same Desktop.told) (Op.modify (Desktop.record e)) := fun d => by
    rw [Op.Same, Op.modify, Desktop.told_record, he]
    exact List.append_nil _
  -- Each event is about a context or a proof, and none is told to a page.
  cases strategy with
  | inProcess prover =>
      refine .bind (hrecord rfl) fun _ => ?_
      exact .ofExcept _
  | isolated sandbox =>
      refine .bind (hrecord rfl) fun _ => ?_
      refine .bind (.ofExcept _) fun _ => ?_
      refine .bind ?_ ?_
      · refine .attempt ?_
        refine .bind (hrecord rfl) fun _ => ?_
        refine .bind (.ofExcept _) fun _ => ?_
        refine .bind (hrecord rfl) fun _ => ?_
        exact .ofExcept _
      · intro outcome
        refine .bind (hrecord rfl) fun _ => ?_
        exact .ofExcept _

/-! ## The desk -/

namespace Desk

/-- An operation that uses no identity and tells no page anything. -/
abbrev Silent {α : Type} (x : Op Desk α) : Prop :=
  Op.Within (Op.Same fun d => d.desktop.released) x

/-- What the desk does to its desktop is silent if it is so for the desktop alone. -/
theorem onDesktop_silent {α : Type} {x : Op Desktop α} (hx : Desktop.Silent x) :
    Silent (onDesktop x) :=
  .zoom hx fun _ _ h => h

/-- A change of the queue records nothing. -/
theorem onQueue_silent (f : RequestQueue → RequestQueue) : Silent (onQueue f) :=
  .modify fun _ => rfl

theorem broadcastQueue_silent : Silent broadcastQueue := by
  unfold broadcastQueue
  refine .bind .get fun _ => ?_
  exact .ignore (onDesktop_silent (Desktop.broadcast_silent _))

/-- Giving up a question answers it, and answers to questions are no messages to pages. -/
theorem abandon_silent {α : Type} (id : UInt64) (cause : Error) :
    Silent (abandon id cause : Op Desk α) := by
  unfold abandon
  refine .bind (onQueue_silent _) fun _ => ?_
  refine .bind broadcastQueue_silent fun _ => ?_
  exact .fail _

/-- Holding a window adds a listener for its closing. -/
theorem holdWindow_silent (window : Nat) : Silent (holdWindow window) := by
  unfold holdWindow
  refine .bind (onDesktop_silent Desktop.addListener_silent) fun _ => ?_
  exact onQueue_silent _

/-- The window has come, or the question is given up. -/
theorem completeOpening_silent (id : UInt64) : Silent (completeOpening id) := by
  unfold completeOpening
  refine .bind (.attempt (onDesktop_silent Desktop.openWindow_silent)) fun outcome => ?_
  cases outcome with
  | ok window =>
      refine .bind (holdWindow_silent window) fun _ => ?_
      exact broadcastQueue_silent
  | error cause => exact abandon_silent id cause

/-- Putting a question shows it to the user and to nobody else. -/
theorem submit_silent (kind : RequestKind) (payload : Json) : Silent (submit kind payload) := by
  unfold submit
  refine .bind .get fun before => ?_
  refine .bind (onQueue_silent _) fun _ => ?_
  refine .bind .get fun after => ?_
  refine .ite (fun _ => ?_) fun _ => ?_
  · refine .bind (onDesktop_silent Desktop.requestWindow_silent) fun ticket => ?_
    cases ticket with
    | some ticket => exact .pure _
    | none =>
        refine .bind (completeOpening_silent _) fun _ => ?_
        exact .pure _
  · refine .bind broadcastQueue_silent fun _ => ?_
    exact .pure _

/-- The questions are rejected, and nothing is released by that. -/
theorem surfaceClosed_silent (window : Nat) : Silent (surfaceClosed window) := by
  unfold surfaceClosed
  refine .bind .get fun before => ?_
  refine .ite (fun _ => ?_) fun _ => ?_
  · refine .bind (onQueue_silent _) fun _ => ?_
    cases before.queue.listener with
    | some listener =>
        refine .bind (onDesktop_silent (Desktop.removeListener_silent listener)) fun _ => ?_
        exact onQueue_silent _
    | none => exact onQueue_silent _
  · exact .pure _

/-- By induction on the listeners, of whom each may find the window its own. -/
theorem callListeners_silent (window : Nat) (listeners : List CloseListener) :
    Silent (callListeners window listeners) := by
  -- A listener that is no longer live is passed over.
  induction listeners with
  | nil => exact .pure _
  | cons l rest ih =>
      refine .ite (fun _ => ?_) fun _ => ?_
      · refine .bind (surfaceClosed_silent window) fun _ => ?_
        exact ih
      · exact ih

/-- All who listen for the closing of a window are called. -/
theorem windowClosed_silent (window : Nat) : Silent (windowClosed window) := by
  unfold windowClosed
  refine .bind .get fun d => ?_
  exact callListeners_silent window d.desktop.listeners

/-- The window is asked to close, and if it does it is as if the user had closed it. -/
theorem closeWindow_silent (id : Option Nat) : Silent (closeWindow id) := by
  unfold closeWindow
  refine .bind (onDesktop_silent (Desktop.requestClose_silent id)) fun window => ?_
  cases window with
  | some window => exact windowClosed_silent window
  | none => exact .pure _

theorem dismiss_silent (queue : RequestQueue) : Silent (dismiss queue) := by
  have hclose : Silent (closeWindow queue.popup).ignore := .ignore (closeWindow_silent _)
  rw [dismiss]
  cases queue.listener with
  | some listener =>
      refine .bind (onDesktop_silent (Desktop.removeListener_silent listener)) fun _ => ?_
      exact hclose
  | none => exact hclose

/-- An answer is kept for whoever has asked. What is done with it comes later. -/
theorem finalize_silent (request : FinalizeRequest) : Silent (finalize request) := by
  unfold finalize
  refine .bind .get fun before => ?_
  dsimp only
  cases before.queue.find? request.id with
  | none => exact .pure _
  | some entry =>
      refine .bind (onQueue_silent _) fun _ => ?_
      refine .bind broadcastQueue_silent fun _ => ?_
      refine .ite (fun _ => ?_) fun _ => ?_
      · refine .bind (dismiss_silent _) fun _ => ?_
        exact .pure _
      · exact .pure _

end Desk

/-! ## The session -/

namespace SessionLock

/-- No identity is used and no page is told anything, and a session that was unlocked stays so. -/
def Firm (s t : SessionLock) : Prop :=
  t.desktop.released = s.desktop.released ∧ (s.session.isUnlocked → t.session.isUnlocked)

instance : Std.Refl Firm := ⟨fun _ => ⟨rfl, id⟩⟩

instance : Trans Firm Firm Firm := ⟨fun h k => ⟨k.1.trans h.1, k.2 ∘ h.2⟩⟩

/-- Whatever is done to the verifier, neither the record nor the session is part of it. -/
theorem onVerifier_firm {α : Type} (x : Op Slot α) : Op.Within Firm (onVerifier x) :=
  .zoom_any fun _ _ => ⟨rfl, id⟩

/-- What is silent on the desktop leaves the session what it is. -/
theorem onDesktop_firm {α : Type} {x : Op Desktop α} (hx : Desktop.Silent x) :
    Op.Within Firm (onDesktop x) :=
  .zoom hx fun _ _ h => ⟨h, id⟩

theorem status_firm : Op.Within Firm status := by
  unfold status
  refine .bind (onVerifier_firm _) fun _ => ?_
  refine .bind .get fun _ => ?_
  exact .pure _

theorem state_firm : Op.Within Firm state := by
  unfold state
  refine .bind .get fun lock => ?_
  refine .ite (fun _ => ?_) fun _ => ?_
  · exact .pure _
  · refine .bind (onVerifier_firm _) fun verifier => ?_
    cases verifier with
    | some _ => exact .pure _
    | none => exact .pure _

theorem announce_firm : Op.Within Firm announce := by
  unfold announce
  refine .bind (.attempt status_firm) fun outcome => ?_
  cases outcome with
  | ok status => exact .ignore (onDesktop_firm (Desktop.broadcast_silent _))
  | error => exact .pure _

theorem isAuthentic_firm (password : String) : Op.Within Firm (isAuthentic password) := by
  unfold isAuthentic
  refine .ite (fun _ => ?_) fun _ => ?_
  · exact .fail _
  · refine .bind (onVerifier_firm _) fun verifier => ?_
    cases verifier with
    | none => exact .fail _
    | some verifier =>
        refine .ite (fun _ => ?_) fun _ => ?_
        · exact .pure _
        · exact .fail _

/-- A session that is unlocked is announced, and it keeps nothing of the record. -/
theorem unlock_firm (password : String) : Op.Within Firm (unlock password) := by
  unfold unlock
  refine .bind .get fun lock => ?_
  refine .ite (fun _ => ?_) fun _ => ?_
  · exact .pure _
  · refine .bind (isAuthentic_firm password) fun _ => ?_
    -- The one change of the session unlocks it.
    refine .bind (.modify fun _ => ⟨rfl, fun _ => rfl⟩) fun _ => ?_
    refine .bind announce_firm fun _ => ?_
    exact .pure _

theorem sealWith_firm (secret plain : String) (purpose : Purpose) :
    Op.Within Firm (sealWith secret plain purpose) :=
  fun _ => ⟨rfl, id⟩

/-- The verifier is written, and then the session is unlocked with the new password. -/
theorem setupPassword_firm (password : String) : Op.Within Firm (setupPassword password) := by
  unfold setupPassword
  refine .ite (fun _ => ?_) fun _ => ?_
  · exact .fail _
  · refine .bind (onVerifier_firm _) fun verifier => ?_
    refine .ite (fun _ => ?_) fun _ => ?_
    · exact .fail _
    · refine .bind (sealWith_firm _ _ _) fun sealed => ?_
      -- What is written is the verifier, which is no part of the session.
      refine .bind (onVerifier_firm _) fun _ => ?_
      exact unlock_firm password

theorem ensureUnlocked_firm : Op.Within Firm ensureUnlocked := by
  unfold ensureUnlocked
  refine .bind .get fun _ => ?_
  refine .ite (fun _ => ?_) fun _ => ?_
  · exact .pure _
  · exact .fail _

theorem sealText_firm (plain : String) (purpose : Purpose) :
    Op.Within Firm (sealText plain purpose) := by
  unfold sealText
  refine .bind .get fun lock => ?_
  cases lock.session.secret with
  | some secret => exact sealWith_firm secret plain purpose
  | none => exact .fail _

theorem openText_firm (sealed : String) (purpose : Purpose) :
    Op.Within Firm (openText sealed purpose) := by
  unfold openText
  refine .bind .get fun lock => ?_
  cases lock.session.secret with
  | some secret => exact .ofExcept _
  | none => exact .fail _

end SessionLock

end WalletTrust

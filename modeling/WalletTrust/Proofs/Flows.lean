import WalletTrust.Proofs.Registries
import WalletTrust.Wallet.Flow

/-!
# Flows, Part by Part

What each part of a flow does after a wait, and what the next part may be.

Nothing about the state is looked at again when an answer comes: `fulfil` acts on the errand alone.
An errand is for a use of an identity or it is not. If it is, fulfilling it leads to that use, and
only on an acceptance; if not, fulfilling it is routine. A connect request may go on to another
question, and no other flow does.

A flow whose window comes late goes on in one part to its answer, if there is one. A flow whose
window fails to come ends there, whatever was answered in the meantime.

The operations of a flow call each other: whoever has come past the gate seeks approval, whoever has
it has an identity chosen, and each of them may end or ask. They are therefore gone through in that
order, the last one first, and for each there is one lemma for what it respects and one for whom it
leaves waiting.

## Main definitions

* `Errand.use?`: The use of an identity that an errand is for.
* `Errand.Spares`, `Waiting.Spares`: The origins that parts of flows spare.
* `Errand.Links`, `Waiting.Links`: The errands and the waits of a connect request for an origin.
* `Waiting.asked?`: The question that a flow waits for.
* `Waiting.failure?`: How a flow fails whose window does not come.
* `Waiting.settled`: What a flow finds once its window has come or failed.

## Theorems

* `Wallet.fulfil_routine`, `Wallet.fulfil_use`: Fulfilling an errand.
* `Wallet.goOn_settled`, `Wallet.goOn_refused`, `Wallet.goOn_asked`: Going on with a question.
* `Wallet.resume_keeps`, `Wallet.resume_uses`, `Wallet.resume_queue`: What going on respects.
* `Waiting.links_unique`: A connect request is for one origin.
* `Wallet.chooseIdentity_routine`, `Wallet.seekApproval_routine`, `Wallet.awaitUnlock_routine`,
  `Wallet.connect_routine`: The steps of a connect request spare everyone.
* `Wallet.awaitAnswer_none`, `Wallet.awaitAnswer_some`: Without an answer the call waits on, with
  one the errand is fulfilled.
* `Wallet.completeOpening_cases`: A window that was requested fails to come and the queue is
  dropped, or it comes and is held.
* `Wallet.fulfil_over`: Only a connect request goes on to another question.
-/

namespace WalletTrust

namespace Errand

/-- The origins that fulfilling an errand spares. -/
def Spares : Errand → String → String → Prop
  | .identityChoice origin => fun o _ => o ≠ origin
  | _ => fun _ _ => True

/-- The errands of a connect request. -/
def Connects : Errand → Prop
  | .approval _ _ => True
  | .identityChoice _ => True
  | _ => False

/-- The errands of a connect request for an origin. -/
def Links (origin : String) : Errand → Prop
  | .approval o _ => o = origin
  | .identityChoice o => o = origin
  | _ => False

/-- An errand that connects does so for some origin. -/
theorem connects_iff {errand : Errand} : errand.Connects ↔ ∃ origin, errand.Links origin := by
  cases errand with
  | approval origin changeIdentity => exact ⟨fun _ => ⟨origin, rfl⟩, fun _ => trivial⟩
  | identityChoice origin => exact ⟨fun _ => ⟨origin, rfl⟩, fun _ => trivial⟩
  | _ => exact ⟨nofun, nofun⟩

/-- The use of an identity that an errand is for. -/
def use? : Errand → Option Use
  | .reveal origin commitment => some (.reveal origin commitment)
  | .proof job true => some (.job job)
  | _ => none

end Errand

namespace Waiting

/-- The origins that going on after a wait spares. -/
def Spares : Waiting → String → String → Prop
  | .window _ _ _ errand => errand.Spares
  | .answer _ _ errand => errand.Spares
  | _ => fun _ _ => True

/-- The question that a flow waits for: its number, its channel and the errand. -/
def asked? : Waiting → Option (UInt64 × Nat × Errand)
  | .window id channel _ errand => some (id, channel, errand)
  | .answer id channel errand => some (id, channel, errand)
  | _ => none

/-- The failure of a flow whose window does not come. -/
def failure? (w : Wallet) : Waiting → Option Error
  | .window _ _ _ _ =>
    match w.host.desktop.opened with
    | .error cause => some (Desk.openingFailure cause)
    | .ok _ => none
  | _ => none

/-- What a flow finds once the window that it waits for, if any, has come or failed. -/
def settled (w : Wallet) : Waiting → Wallet
  | .window id _ _ _ => (Wallet.onDesk (Desk.completeOpening id) w).2
  | _ => w

/-- The waits of a connect request for an origin. -/
def Links (origin : String) : Waiting → Prop
  | .unlockWindow _ o _ => o = origin
  | .unlock _ o _ => o = origin
  | .window _ _ _ errand => errand.Links origin
  | .answer _ _ errand => errand.Links origin
  | _ => False

end Waiting

/-- Whoever waits for an answer connects the origin that its errand connects. -/
theorem Waiting.links_iff {on : Waiting} {id : UInt64} {channel : Nat} {errand : Errand}
    {origin : String} (h : on.asked? = some (id, channel, errand)) :
    on.Links origin ↔ errand.Links origin := by
  cases on with
  | window => rcases Option.some.inj h; exact Iff.rfl
  | answer => rcases Option.some.inj h; exact Iff.rfl
  | _ => cases h

/-- What a page is told of a failure is up to the errand, whichever way it is waited for. -/
theorem Waiting.wrap_of_asked {on : Waiting} {id : UInt64} {channel : Nat} {errand : Errand}
    (h : on.asked? = some (id, channel, errand)) : on.wrap = errand.wrap := by
  cases on with
  | window => rcases Option.some.inj h; rfl
  | answer => rcases Option.some.inj h; rfl
  | _ => cases h

/-- A connect request is for one origin. -/
theorem Waiting.links_unique {on : Waiting} {origin other : String} (h : on.Links origin)
    (k : on.Links other) : origin = other := by
  have herrand {errand : Errand} (h : errand.Links origin) (k : errand.Links other) :
      origin = other := by
    cases errand with
    | approval => exact Eq.trans (Eq.symm h) k
    | identityChoice => exact Eq.trans (Eq.symm h) k
    | _ => exact h.elim
  cases on with
  | unlockWindow => exact Eq.trans (Eq.symm h) k
  | unlock => exact Eq.trans (Eq.symm h) k
  | window => exact herrand h k
  | answer => exact herrand h k
  | _ => exact h.elim

/-- An operation is over, or waits as a connect request for an origin does. -/
def Progress.Links (origin : String) : Progress → Prop
  | .finished _ => True
  | .waiting on => on.Links origin

/-- An operation is over. -/
def Progress.Over : Progress → Prop
  | .finished _ => True
  | .waiting _ => False

namespace Wallet

open Op (Within Yields)

variable {spared : String → String → Prop} {w : Wallet}

/-! ## Connect requests -/

/-- To put a question is a matter of the queue alone. -/
theorem ask_routine (kind : RequestKind) (payload : Json) (errand : Errand) :
    Within (Routine spared) (ask kind payload errand) := by
  have hsubmit : Within (Routine spared) (onDesk (Desk.submit kind payload)) :=
    onDesk_routine (Desk.submit_silent kind payload) (Desk.submit_ordinary kind payload)
  refine .bind hsubmit fun submission => ?_
  cases submission with
  | queued => exact .pure _
  | opening => exact .pure _

/-- What the desk of a wallet does, as the wallet sees it. -/
theorem onDesk_does {α : Type} {x : Op Desk α} {outcome : Except Error α} {queue : RequestQueue}
    {shown : List (List PendingRequest)}
    (h : Desk.Does x { queue := w.core.queue, desktop := w.host.desktop } outcome queue shown) :
    ∃ v, onDesk x w = (outcome, v) ∧ v.core.queue = queue :=
  ⟨(onDesk x w).2, Prod.ext h.outcome rfl, h.queue⟩

/-- Asking ends in a wait for the question that was put, or fails for want of a window. It is a wait
for a window only if there is no other question. -/
theorem ask_cases (kind : RequestKind) (payload : Json) (errand : Errand) (w : Wallet) :
    (∃ on v popup listener, ask kind payload errand w = (.ok (.waiting on), v) ∧
      on.asked? = some (w.core.queue.nonce, w.core.queue.nextChannel, errand) ∧
      v.core.queue = { w.core.queue.enqueue kind payload with popup, listener } ∧
      (on = .answer w.core.queue.nonce w.core.queue.nextChannel errand ∨
        w.core.queue.pending = [])) ∨
    ∃ cause v, w.core.queue.pending = [] ∧ w.host.desktop.opened = .error cause ∧
      ask kind payload errand w = (.error (Desk.openingFailure cause), v) ∧
      v.core.queue = (w.core.queue.enqueue kind payload).dropAll w.core.queue.nonce
        (Desk.openingFailure cause) := by
  rcases Desk.submit_cases { queue := w.core.queue, desktop := w.host.desktop } kind payload with
    ⟨submission, popup, listener, _, hdoes, hid, hchannel, _, halone⟩ |
    ⟨cause, halone, hopen, hdoes⟩
  · rcases onDesk_does hdoes with ⟨v, hrun, hqueue⟩
    -- A question behind others waits for its answer; the first may wait for its window.
    cases submission with
    | queued id channel =>
        refine .inl ⟨.answer id channel errand, v, popup, listener, ?_, ?_, hqueue, .inl ?_⟩
        · rw [ask, Op.bind_ok hrun]
          rfl
        · rw [← hid, ← hchannel]
          rfl
        · rw [← hid, ← hchannel]
          rfl
    | opening id channel ticket =>
        refine .inl ⟨.window id channel ticket errand, v, popup, listener, ?_, ?_, hqueue, .inr ?_⟩
        · rw [ask, Op.bind_ok hrun]
          rfl
        · rw [← hid, ← hchannel]
          rfl
        · rcases halone with hqueued | hempty
          · cases hqueued
          · exact hempty
  · rcases onDesk_does hdoes with ⟨v, hrun, hqueue⟩
    exact .inr ⟨cause, v, halone, hopen, by rw [ask, Op.bind_error hrun], hqueue⟩

/-- Putting a question does nothing but that. -/
theorem ask_state (kind : RequestKind) (payload : Json) (errand : Errand) (w : Wallet) :
    (ask kind payload errand w).2 = (onDesk (Desk.submit kind payload) w).2 := by
  rw [ask, Op.bind_apply]
  rcases onDesk (Desk.submit kind payload) w with ⟨e | id | id, v⟩
  · rfl
  · rfl
  · rfl

/-- Who has put a question waits for what the question is for. -/
theorem ask_links (kind : RequestKind) (payload : Json) {errand : Errand} {origin : String}
    (h : errand.Links origin) : Yields (Progress.Links origin) (ask kind payload errand) := by
  unfold ask
  refine .bind fun submission => ?_
  cases submission with
  | queued => exact .pure h
  | opening => exact .pure h

/-- An origin that keeps its identity is not asked about, and for any other a question is put. -/
theorem chooseIdentity_routine (origin : String) (changeIdentity : Bool) :
    Within (Routine spared) (chooseIdentity origin changeIdentity) := by
  unfold chooseIdentity
  refine .bind .get fun w => ?_
  split
  · exact .pure _
  · exact ask_routine _ _ _

/-- What is waited for then is the choice for that origin. -/
theorem chooseIdentity_links (origin : String) (changeIdentity : Bool) :
    Yields (Progress.Links origin) (chooseIdentity origin changeIdentity) := by
  unfold chooseIdentity
  refine .bind fun w => ?_
  split
  · exact .pure trivial
  · exact ask_links _ _ rfl

/-- An origin that is approved has its approval written again, and then it is as above. -/
theorem seekApproval_routine (origin : String) (changeIdentity : Bool) :
    Within (Routine spared) (seekApproval origin changeIdentity) := by
  unfold seekApproval
  refine .bind .get fun w => ?_
  refine .ite (fun _ => ?_) fun _ => ?_
  · refine .bind (approve_routine _) fun _ => ?_
    exact chooseIdentity_routine _ _
  · exact ask_routine _ _ _

/-- What is waited for is the approval of that origin, or the choice for it. -/
theorem seekApproval_links (origin : String) (changeIdentity : Bool) :
    Yields (Progress.Links origin) (seekApproval origin changeIdentity) := by
  unfold seekApproval
  refine .bind fun w => ?_
  refine .ite ?_ ?_
  · refine .bind fun _ => ?_
    exact chooseIdentity_links _ _
  · exact ask_links _ _ rfl

/-- Loading the registries, before the window is closed and after that, spares everyone. -/
theorem enterUnlocked_routine (window : Nat) (origin : String) (changeIdentity : Bool) :
    Within (Routine spared) (enterUnlocked window origin changeIdentity) := by
  have hclose : Within (Routine spared) (onDesk (Desk.closeWindow (some window))) :=
    onDesk_routine (Desk.closeWindow_silent _) (Desk.closeWindow_ordinary _)
  -- That the window cannot be closed is passed over.
  refine .bind loadRegistries_routine fun _ => ?_
  refine .bind (.ignore hclose) fun _ => ?_
  refine .bind loadRegistries_routine fun _ => ?_
  exact seekApproval_routine _ _

/-- As long as the session is locked, nothing happens. -/
theorem awaitUnlock_routine (window : Nat) (origin : String) (changeIdentity : Bool) :
    Within (Routine spared) (awaitUnlock window origin changeIdentity) := by
  unfold awaitUnlock
  refine .bind .get fun _ => ?_
  refine .ite (fun _ => ?_) fun _ => ?_
  · exact enterUnlocked_routine _ _ _
  · exact .pure _

/-- What is waited for is the unlocking for that origin, or what comes after that. -/
theorem awaitUnlock_links (window : Nat) (origin : String) (changeIdentity : Bool) :
    Yields (Progress.Links origin) (awaitUnlock window origin changeIdentity) := by
  unfold awaitUnlock
  refine .bind fun _ => ?_
  refine .ite ?_ ?_
  · refine .bind fun _ => ?_
    refine .bind fun _ => ?_
    refine .bind fun _ => ?_
    exact seekApproval_links _ _
  · exact .pure rfl

/-- The window that comes is no question, so the queue is left as it is. -/
theorem openUnlockWindow_routine (origin : String) (changeIdentity : Bool) :
    Within (Routine spared) (openUnlockWindow origin changeIdentity) := by
  unfold openUnlockWindow
  refine .bind (onDesktop_routine Desktop.openWindow_silent) fun _ => ?_
  exact awaitUnlock_routine _ _ _

/-- And the wait is that of the origin for which it was opened. -/
theorem openUnlockWindow_links (origin : String) (changeIdentity : Bool) :
    Yields (Progress.Links origin) (openUnlockWindow origin changeIdentity) := by
  unfold openUnlockWindow
  refine .bind fun _ => ?_
  exact awaitUnlock_links _ _ _

/-- The first part of a connect request spares everyone. -/
theorem connect_routine (origin : String) (changeIdentity : Bool) :
    Within (Routine spared) (connect origin changeIdentity) := by
  unfold connect
  refine .mapError ?_
  refine .ite (fun _ => ?_) fun _ => ?_
  · exact .fail _
  · refine .bind .get fun w => ?_
    refine .ite (fun _ => ?_) ?_
    · refine .bind loadRegistries_routine fun _ => ?_
      exact seekApproval_routine _ _
    · intro _
      refine .bind (onDesktop_routine Desktop.requestWindow_silent) fun ticket => ?_
      cases ticket with
      | some ticket => exact .pure _
      | none => exact openUnlockWindow_routine _ _

/-- And if it waits it does so for the origin it was made for. -/
theorem connect_links (origin : String) (changeIdentity : Bool) :
    Yields (Progress.Links origin) (connect origin changeIdentity) := by
  unfold connect
  refine .mapError ?_
  refine .ite ?_ ?_
  · exact .fail _
  · refine .bind fun w => ?_
    refine .ite ?_ ?_
    · refine .bind fun _ => ?_
      exact seekApproval_links _ _
    · refine .bind fun ticket => ?_
      cases ticket with
      | some ticket => exact .pure rfl
      | none => exact openUnlockWindow_links _ _

/-- An answer that approves spares everyone too. It may lead to the next question. -/
theorem approvalAnswered_routine (origin : String) (changeIdentity : Bool)
    (outcome : Except Error Json) :
    Within (Routine spared) (approvalAnswered origin changeIdentity outcome) := by
  unfold approvalAnswered
  refine .bind (.ofExcept _) fun _ => ?_
  refine .bind (.ofExcept _) fun permission => ?_
  refine .bind (approve_routine _) fun _ => ?_
  exact chooseIdentity_routine _ _

/-- The origin is the same, from one question to the next. -/
theorem approvalAnswered_links (origin : String) (changeIdentity : Bool)
    (outcome : Except Error Json) :
    Yields (Progress.Links origin) (approvalAnswered origin changeIdentity outcome) := by
  unfold approvalAnswered
  refine .bind fun _ => ?_
  refine .bind fun _ => ?_
  refine .bind fun _ => ?_
  exact chooseIdentity_links _ _

/-- The selected identity is looked up where nothing was chosen. -/
theorem chosenCommitment_routine (choice : IdentityChoice) :
    Within (Routine spared) (chosenCommitment choice) := by
  rw [chosenCommitment]
  cases choice.commitment with
  | some commitment => exact .pure _
  | none =>
      refine .bind selectedIdentity_routine fun _ => ?_
      refine .bind (.ofOption _ _) fun _ => ?_
      exact .pure _

/-- The origin that an identity was chosen for is connected to it, and all others are spared. -/
theorem choiceAnswered_routine (origin : String) (outcome : Except Error Json) :
    Within (Routine fun o _ => o ≠ origin) (choiceAnswered origin outcome) := by
  unfold choiceAnswered
  refine .bind (.ofExcept _) fun _ => ?_
  refine .bind (.ofExcept _) fun choice => ?_
  -- Only the origin that the identity was chosen for gets another one.
  refine .bind (chosenCommitment_routine choice) fun commitment => ?_
  refine .bind (connectIdentity_routine commitment origin) fun _ => ?_
  exact .pure _

/-- After that the request is over. -/
theorem choiceAnswered_over (origin : String) (outcome : Except Error Json) :
    Yields Progress.Over (choiceAnswered origin outcome) := by
  unfold choiceAnswered
  refine .bind fun _ => ?_
  refine .bind fun _ => ?_
  refine .bind fun _ => ?_
  refine .bind fun _ => ?_
  exact .pure trivial

/-! ## Fulfilling an errand -/

/-- The wallet itself has no part in the computing of a proof. -/
theorem dispatch_core (job : ProofJob) (w : Wallet) : (dispatch job w).2.core = w.core := by
  have hsame : Within (Op.Same Wallet.core) (dispatch job) := by
    refine .bind .get fun _ => ?_
    refine .bind (.zoom_any fun _ _ => rfl) fun _ => ?_
    refine .bind (.ofExcept _) fun _ => ?_
    exact .pure _
  exact hsame w

/-- A job is used once, or not at all if there was nobody to give it to. -/
theorem dispatch_uses (job : ProofJob) (w : Wallet) :
    (dispatch job w).2.uses = w.uses ++ [.job job] ∨ (dispatch job w).2.uses = w.uses := by
  have huses := Strategy.dispatch_uses w.host.strategy job w.host.desktop
  have hrest : ∀ output : ProofOutput, Within (Op.Same uses) (do
      return .finished (.proof (← Op.ofExcept (output.ofKind job.kind))) : Op Wallet Progress) :=
    fun output => .bind (.ofExcept _) fun _ => .pure _
  rcases hd : onDesktop (w.host.strategy.dispatch job) w with ⟨outcome, v⟩
  have hv : v.uses = (Strategy.dispatch w.host.strategy job w.host.desktop).2.uses := by
    rw [show v = (onDesktop (w.host.strategy.dispatch job) w).2 by rw [hd]]
    rfl
  have hdispatch : (dispatch job w).2.uses = v.uses := by
    simp only [dispatch, Op.bind_apply, Op.get, hd]
    cases outcome with
    | ok output => exact hrest output v
    | error e => rfl
  -- Checking the proof that came back is no use of an identity.
  rw [hdispatch, hv]
  exact huses

/-- Pages are told nothing of a proof but as the outcome of their call. -/
theorem dispatch_told (job : ProofJob) (w : Wallet) : (dispatch job w).2.told = w.told := by
  have hsame : Within (Op.Same told) (dispatch job) := by
    refine .bind .get fun v => ?_
    refine .bind (.zoom (v.host.strategy.dispatch_told job) fun _ _ h => h) fun _ => ?_
    refine .bind (.ofExcept _) fun _ => ?_
    exact .pure _
  exact hsame w

/-- The proof is there or it is not. There is no more to wait for. -/
theorem dispatch_over (job : ProofJob) : Yields Progress.Over (dispatch job) := by
  unfold dispatch
  refine .bind fun _ => ?_
  refine .bind fun _ => ?_
  refine .bind fun _ => ?_
  exact .pure trivial

/-- An errand that is for no use of an identity is fulfilled by routine. -/
theorem fulfil_routine {errand : Errand} (h : errand.use? = none) (id : UInt64)
    (outcome : Except Error Json) : Within (Routine errand.Spares) (fulfil id errand outcome) := by
  -- The two errands that use an identity are excluded.
  cases errand with
  | asked withId =>
      cases withId with
      | true => exact .pure _
      | false =>
          refine .bind (.ofExcept _) fun _ => ?_
          exact .pure _
  | approval origin changeIdentity => exact approvalAnswered_routine _ _ _
  | identityChoice origin => exact choiceAnswered_routine _ _
  | reveal origin commitment => cases h
  | proof job compute =>
      cases compute with
      | true => cases h
      | false =>
          refine .bind (.ofExcept _) fun _ => ?_
          exact .pure _

/-- An errand that is for a use of an identity leads to it only if the answer is an acceptance, and
has no other effect on the core. -/
theorem fulfil_use {errand : Errand} {use : Use} (h : errand.use? = some use) (id : UInt64)
    (outcome : Except Error Json) (w : Wallet) :
    (fulfil id errand outcome w).2.core = w.core ∧
      ((∃ data, outcome = .ok data) ∧ (fulfil id errand outcome w).2.uses = w.uses ++ [use] ∨
        (fulfil id errand outcome w).2.host.desktop.released = w.host.desktop.released) := by
  cases errand with
  | reveal origin commitment =>
      rcases Option.some.inj h
      cases outcome with
      | error e => exact ⟨rfl, .inr rfl⟩
      | ok data =>
          have htold := Desktop.pushEvent_reveal origin commitment w.host.desktop
          rcases hp : Desktop.pushEvent origin (.revealCommitment commitment) w.host.desktop with
            ⟨result, desktop⟩
          rw [hp] at htold
          -- The commitment is let go of whether or not the page hears it.
          cases result with
          | ok =>
              simp only [fulfil, revealAnswered, Op.bind_apply, Op.ofExcept, onDesktop, Op.zoom, hp,
                Op.pure_apply]
              exact ⟨trivial, .inl ⟨⟨data, rfl⟩, htold⟩⟩
          | error =>
              simp only [fulfil, revealAnswered, Op.bind_apply, Op.ofExcept, onDesktop, Op.zoom, hp]
              exact ⟨trivial, .inl ⟨⟨data, rfl⟩, htold⟩⟩
  | proof job compute =>
      cases compute with
      | false => cases h
      | true =>
          rcases Option.some.inj h
          cases outcome with
          | error e => exact ⟨rfl, .inr rfl⟩
          | ok data =>
              have hrun : fulfil id (.proof job true) (.ok data) w = dispatch job w := rfl
              rw [hrun]
              refine ⟨dispatch_core job w, ?_⟩
              exact (dispatch_uses job w).imp (fun huse => ⟨⟨data, rfl⟩, huse⟩)
                fun huses => Prod.ext huses (dispatch_told job w)
  | _ => cases h

/-- Only a connect request goes on to another question. -/
theorem fulfil_over {errand : Errand} (h : ¬ errand.Connects) (id : UInt64)
    (outcome : Except Error Json) : Yields Progress.Over (fulfil id errand outcome) := by
  -- Only a connect request goes on to another question.
  cases errand with
  | asked withId =>
      cases withId with
      | true => exact .pure trivial
      | false =>
          refine .bind fun _ => ?_
          exact .pure trivial
  | approval => exact absurd trivial h
  | identityChoice => exact absurd trivial h
  | reveal origin commitment =>
      refine .bind fun _ => ?_
      refine .bind fun _ => ?_
      exact .pure trivial
  | proof job compute =>
      cases compute with
      | true =>
          refine .bind fun _ => ?_
          exact dispatch_over job
      | false =>
          refine .bind fun _ => ?_
          exact .pure trivial

/-- An errand that is fulfilled and leads to a question leads to one for the same origin. -/
theorem fulfil_links {errand : Errand} {origin : String} (h : errand.Links origin) (id : UInt64)
    (outcome : Except Error Json) : Yields (Progress.Links origin) (fulfil id errand outcome) := by
  cases errand with
  | approval o changeIdentity =>
      rcases h
      exact approvalAnswered_links _ _ _
  | identityChoice o =>
      rcases h
      intro w p v hp
      -- Connecting the chosen identity is the end of a connect request.
      have hover := choiceAnswered_over origin outcome w p v hp
      cases p with
      | finished => exact trivial
      | waiting => exact hover.elim
  | _ => exact h.elim

/-! ## Going on -/

variable {on : Waiting} {id : UInt64} {channel : Nat} {errand : Errand}

/-- Without an answer the call waits on and nothing else happens. -/
theorem awaitAnswer_none (h : w.core.queue.answer? channel = none) (id : UInt64) (errand : Errand) :
    awaitAnswer id channel errand w = (.ok (.waiting (.answer id channel errand)), w) := by
  simp only [awaitAnswer, Op.bind_apply, Op.get, h]
  rfl

/-- With one the errand is fulfilled. -/
theorem awaitAnswer_some {outcome : Except Error Json}
    (h : w.core.queue.answer? channel = some outcome) (id : UInt64) (errand : Errand) :
    awaitAnswer id channel errand w = fulfil id errand outcome w := by
  simp only [awaitAnswer, Op.bind_apply, Op.get, h]

/-- Who only waits for the session to be unlocked does nothing. -/
theorem unlockSignal_routine : Within (Routine spared) (goOn .unlockSignal) := by
  unfold goOn
  refine .bind .get fun _ => ?_
  refine .ite (fun _ => ?_) fun _ => ?_
  · exact .pure _
  · exact .pure _

/-- And if it waits on, it waits for that. -/
theorem unlockSignal_waits :
    Yields (fun p => ∀ on, p = .waiting on → on = .unlockSignal) (goOn .unlockSignal) := by
  unfold goOn
  refine .bind fun _ => ?_
  refine .ite ?_ ?_
  · exact .pure fun _ hon => Progress.noConfusion hon
  · exact .pure fun _ hon => (Progress.waiting.inj hon).symm

/-- A window that was requested fails to come and the queue is dropped, or it comes and is held. -/
theorem completeOpening_cases (id : UInt64) (w : Wallet) :
    (∃ cause v, w.host.desktop.opened = .error cause ∧
      onDesk (Desk.completeOpening id) w = (.error (Desk.openingFailure cause), v) ∧
      v.core.queue = w.core.queue.dropAll id (Desk.openingFailure cause)) ∨
    ∃ window listener v, w.host.desktop.opened = .ok window ∧
      onDesk (Desk.completeOpening id) w = (.ok (), v) ∧
      v.core.queue = w.core.queue.hold window listener := by
  let desk : Desk := { queue := w.core.queue, desktop := w.host.desktop }
  rcases hopen : w.host.desktop.opened with cause | window
  · rcases onDesk_does (Desk.completeOpening_refused (d := desk) hopen id) with ⟨v, hrun, hqueue⟩
    exact .inl ⟨cause, v, rfl, hrun, hqueue⟩
  · rcases Desk.completeOpening_opened (d := desk) hopen id with ⟨listener, hdoes⟩
    rcases onDesk_does hdoes with ⟨v, hrun, hqueue⟩
    exact .inr ⟨window, listener, v, rfl, hrun, hqueue⟩

/-- Going on with a question: the failure of the window is told before the answer is looked at. -/
theorem goOn_settled (h : on.asked? = some (id, channel, errand)) (w : Wallet) :
    (∃ failure, on.failure? w = some failure ∧ goOn on w = (.error failure, on.settled w)) ∨
    (on.failure? w = none ∧ goOn on w = awaitAnswer id channel errand (on.settled w) ∧
      (on.settled w).core.queue.answers = w.core.queue.answers) := by
  -- A window may still fail; who waits for the answer alone has nothing to settle.
  cases on with
  | window id' c' ticket errand' =>
      rcases Option.some.inj h
      simp only [Waiting.failure?]
      rcases completeOpening_cases id w with
        ⟨cause, v, hopen, hrun, _⟩ | ⟨window, listener, v, hopen, hrun, hqueue⟩
      · rw [hopen, goOn, Op.bind_error hrun, Waiting.settled, hrun]
        exact .inl ⟨_, rfl, rfl⟩
      · rw [hopen, goOn, Op.bind_ok hrun, Waiting.settled, hrun]
        exact .inr ⟨rfl, rfl, by rw [hqueue]; rfl⟩
  | answer id' c' errand' =>
      rcases Option.some.inj h
      exact .inr ⟨rfl, rfl, rfl⟩
  | _ => cases h

/-- The window changes no use of an identity, and it puts no question. -/
theorem settled_quiet (on : Waiting) (w : Wallet) : (on.settled w).uses = w.uses ∧
    (on.settled w).core.queue.nextChannel = w.core.queue.nextChannel := by
  cases on with
  | window id c ticket errand =>
      refine ⟨congrArg Prod.fst (Desk.completeOpening_silent id
        { queue := w.core.queue, desktop := w.host.desktop }), ?_⟩
      rw [Waiting.settled]
      rcases completeOpening_cases id w with
        ⟨cause, v, _, hrun, hqueue⟩ | ⟨window, listener, v, _, hrun, hqueue⟩
      · rw [hrun, hqueue]
        rfl
      · rw [hrun, hqueue]
        rfl
  | _ => exact ⟨rfl, rfl⟩

/-- A flow whose window fails to come fails, and the queue is dropped. -/
theorem goOn_refused (spared : String → String → Prop) {failure : Error}
    (h : on.failure? w = some failure) :
    ∃ id channel ticket errand, on = .window id channel ticket errand ∧
      (goOn on w).1 = .error failure ∧
      (goOn on w).2.core.queue = w.core.queue.dropAll id failure ∧
      Steady spared w (goOn on w).2 := by
  -- Only who waits for a window can be refused one.
  cases on with
  | window id channel ticket errand =>
      refine ⟨id, channel, ticket, errand, rfl, ?_⟩
      rw [Waiting.failure?] at h
      have hsteady : Steady spared w (onDesk (Desk.completeOpening id) w).2 :=
        onDesk_steady (Desk.completeOpening_silent id) w
      rcases completeOpening_cases id w with
        ⟨cause, v, hopen, hrun, hqueue⟩ | ⟨window, _, _, hopen, _, _⟩
      · rw [hopen] at h
        rcases Option.some.inj h
        rw [hrun] at hsteady
        rw [goOn, Op.bind_error hrun]
        exact ⟨rfl, hqueue, hsteady⟩
      · rw [hopen] at h
        cases h
  | _ => cases h

/-- What a flow finds after its window is routine if that has come. -/
theorem settled_routine (spared : String → String → Prop) (h : on.failure? w = none) :
    Routine spared w (on.settled w) := by
  -- A window that comes is held from now on.
  cases on with
  | window id channel ticket errand =>
      rw [Waiting.failure?] at h
      have hsteady : Steady spared w (onDesk (Desk.completeOpening id) w).2 :=
        onDesk_steady (Desk.completeOpening_silent id) w
      rcases completeOpening_cases id w with
        ⟨cause, _, hopen, _, _⟩ | ⟨window, listener, v, _, hrun, hqueue⟩
      · rw [hopen] at h
        cases h
      · rw [hrun] at hsteady
        rw [Waiting.settled, hrun]
        refine ⟨hsteady, ?_⟩
        rw [hqueue]
        exact .hold _ _ _
  | _ => exact Std.Refl.refl w

/-- A flow that waits for an answer, and whose window does not fail, looks for the answer. -/
theorem goOn_asked (spared : String → String → Prop)
    (ha : on.asked? = some (id, channel, errand)) (h : on.failure? w = none) :
    ∃ v, goOn on w = awaitAnswer id channel errand v ∧
      v.core.queue.answers = w.core.queue.answers ∧ Routine spared w v := by
  rcases goOn_settled ha w with ⟨failure, hfails, _⟩ | ⟨_, hrun, hanswers⟩
  · cases h.symm.trans hfails
  · exact ⟨on.settled w, hrun, hanswers, settled_routine spared h⟩

/-- Whoever waits for no answer goes on with what spares everyone. -/
theorem goOn_unasked (ha : on.asked? = none) : Routine spared w (goOn on w).2 := by
  cases on with
  | unlockWindow ticket origin changeIdentity => exact openUnlockWindow_routine _ _ w
  | unlock window origin changeIdentity => exact awaitUnlock_routine _ _ _ w
  | unlockSignal => exact unlockSignal_routine w
  | lastWord => exact Std.Refl.refl w
  | _ => cases ha

theorem answer?_congr {q r : RequestQueue} (h : r.answers = q.answers) (channel : Nat) :
    r.answer? channel = q.answer? channel := by
  rw [RequestQueue.answer?, RequestQueue.answer?, h]

/-- Going on fails for want of a window, or is routine, or is a use of an identity that the user has
agreed to, after what is routine. -/
theorem goOn_cases (on : Waiting) (w : Wallet) :
    (∃ failure, on.failure? w = some failure) ∨ Routine on.Spares w (goOn on w).2 ∨
    ∃ id channel errand use data v, on.asked? = some (id, channel, errand) ∧
      errand.use? = some use ∧ w.core.queue.answer? channel = some (.ok data) ∧
      Routine on.Spares w v ∧ (goOn on w).2.core = v.core ∧
      (goOn on w).2.uses = w.uses ++ [use] := by
  rcases hfails : on.failure? w with _ | failure
  · refine .inr ?_
    rcases hasked : on.asked? with _ | ⟨id, channel, errand⟩
    · exact .inl (goOn_unasked hasked)
    · rcases goOn_asked on.Spares hasked hfails with ⟨v, hrun, hanswers, hroutine⟩
      -- What is spared is up to the errand, whichever way it is waited for.
      have hspares : on.Spares = errand.Spares := by
        cases on with
        | window => rcases Option.some.inj hasked; rfl
        | answer => rcases Option.some.inj hasked; rfl
        | _ => cases hasked
      rw [hrun]
      rcases hanswer : v.core.queue.answer? channel with _ | outcome
      · rw [awaitAnswer_none hanswer]
        exact .inl hroutine
      · rw [awaitAnswer_some hanswer]
        rcases huse : errand.use? with _ | use
        · -- An errand for no use: fulfilling it is routine too.
          rw [hspares] at hroutine ⊢
          exact .inl (Trans.trans hroutine (fulfil_routine huse id outcome v))
        · rcases fulfil_use huse id outcome v with ⟨hcore, ⟨⟨data, hdata⟩, huses⟩ | hidle⟩
          · subst hdata
            -- The answer was there before the window came.
            rw [answer?_congr hanswers] at hanswer
            refine .inr ⟨id, channel, errand, use, data, v, rfl, huse, hanswer, hroutine, hcore, ?_⟩
            rw [huses, hroutine.uses]
          · refine .inl {
              toKeeps := hroutine.toKeeps.trans (.of_core hcore)
              uses := (congrArg Prod.fst hidle).trans hroutine.uses
              told := fun hall => (congrArg Prod.snd hidle).trans (hroutine.told hall)
              queue := ?_ }
            rw [hcore]
            exact hroutine.queue
  · exact .inl ⟨failure, rfl⟩

/-- Failures are renamed on the way out, and that is no matter of the state. -/
theorem resume_state (on : Waiting) (w : Wallet) : (resume on w).2 = (goOn on w).2 :=
  Op.mapError_state on.wrap (goOn on) w

/-- Going on keeps the spared origins entitled. -/
theorem resume_keeps (on : Waiting) (w : Wallet) : Keeps on.Spares w (resume on w).2 := by
  rw [resume_state]
  rcases goOn_cases on w with
    ⟨failure, hfails⟩ | hroutine | ⟨_, _, _, _, _, v, _, _, _, hv, hcore, _⟩
  · rcases goOn_refused on.Spares hfails with ⟨_, _, _, _, _, _, _, hsteady⟩
    exact hsteady.toKeeps
  · exact hroutine.toKeeps
  · exact hv.toKeeps.trans (.of_core hcore)

/-- Going on uses an identity only on an errand for that use and after an acceptance. -/
theorem resume_uses (on : Waiting) (w : Wallet) : (resume on w).2.uses = w.uses ∨
    ∃ id channel errand use data, on.asked? = some (id, channel, errand) ∧
      errand.use? = some use ∧ w.core.queue.answer? channel = some (.ok data) ∧
      (resume on w).2.uses = w.uses ++ [use] := by
  rw [resume_state]
  rcases goOn_cases on w with ⟨failure, hfails⟩ | hroutine |
    ⟨id, channel, errand, use, data, v, hasked, huse, hanswer, _, _, huses⟩
  · rcases goOn_refused (fun _ _ => True) hfails with ⟨_, _, _, _, _, _, _, hsteady⟩
    exact .inl hsteady.uses
  · exact .inl hroutine.uses
  · exact .inr ⟨id, channel, errand, use, data, hasked, huse, hanswer, huses⟩

/-- Going on rejects at most, unless a window fails to come. -/
theorem resume_queue (on : Waiting) (w : Wallet) :
    w.core.queue.Ordinary (resume on w).2.core.queue ∨
    ∃ id channel ticket errand failure, on = .window id channel ticket errand ∧
      on.failure? w = some failure ∧
      (resume on w).2.core.queue = w.core.queue.dropAll id failure := by
  rw [resume_state]
  rcases goOn_cases on w with
    ⟨failure, hfails⟩ | hroutine | ⟨_, _, _, _, _, v, _, _, _, hv, hcore, _⟩
  · rcases goOn_refused (fun _ _ => True) hfails with
      ⟨id, channel, ticket, errand, hon, _, hqueue, _⟩
    exact .inr ⟨id, channel, ticket, errand, failure, hon, hfails, hqueue⟩
  · exact .inl hroutine.queue
  · refine .inl ?_
    rw [hcore]
    exact hv.queue

/-- What a flow may wait for next. A connect request goes on to what a connect request waits for;
any other flow waits for the answer to the question that it has put, if that is not there yet, or
for the session. -/
theorem resume_waiting {v : Wallet} {next : Waiting}
    (h : resume on w = (.ok (.waiting next), v)) :
    (∃ origin, on.Links origin ∧ next.Links origin) ∨
    (∃ id channel errand, on.asked? = some (id, channel, errand) ∧
      w.core.queue.answer? channel = none ∧ next = .answer id channel errand) ∨
    (on = .unlockSignal ∧ next = .unlockSignal) := by
  have hgo := Op.mapError_ok h
  rcases hasked : on.asked? with _ | ⟨id, channel, errand⟩
  · cases on with
    | unlockWindow _ origin => exact .inl ⟨origin, rfl, openUnlockWindow_links _ _ w _ v hgo⟩
    | unlock _ origin => exact .inl ⟨origin, rfl, awaitUnlock_links _ _ _ w _ v hgo⟩
    | unlockSignal => exact .inr (.inr ⟨rfl, unlockSignal_waits w _ v hgo next rfl⟩)
    | lastWord id outcome =>
        have hover : Yields Progress.Over (goOn (.lastWord id outcome)) := .pure trivial
        exact (hover w _ v hgo).elim
    | _ => cases hasked
  · rcases hfails : on.failure? w with _ | failure
    · -- The flow looks for its answer and goes on with the errand if it is there.
      rcases goOn_asked (fun _ _ => True) hasked hfails with ⟨u, hrun, hanswers, _⟩
      rw [hrun] at hgo
      rcases hanswer : u.core.queue.answer? channel with _ | outcome
      · rw [awaitAnswer_none hanswer] at hgo
        rw [answer?_congr hanswers] at hanswer
        exact .inr (.inl ⟨id, channel, errand, rfl, hanswer, by cases hgo; rfl⟩)
      · rw [awaitAnswer_some hanswer] at hgo
        by_cases hconnects : errand.Connects
        · rcases Errand.connects_iff.1 hconnects with ⟨origin, hlinks⟩
          exact .inl ⟨origin, (Waiting.links_iff hasked).2 hlinks,
            fulfil_links hlinks id outcome u _ v hgo⟩
        · exact (fulfil_over hconnects id outcome u _ v hgo).elim
    · -- A window that fails is the end of the flow.
      rcases goOn_refused (fun _ _ => True) hfails with ⟨_, _, _, _, _, herror, _, _⟩
      rw [hgo] at herror
      cases herror

end Wallet

end WalletTrust

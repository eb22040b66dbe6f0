import WalletTrust.Proofs.Run

/-!
# Whose Windows Are Closed

Which windows the wallet asks the host to close, and what else it asks of the host.

Windows are numbered in the order in which they come. The queue is shown in one of them, and lets go
of it before it holds another. So whoever closes a window closes the one that the queue is shown in,
or one that came only a moment ago. The only other windows are those in which the session is to be
unlocked. Each of them is closed by the connect request that asked for it, and that is the only
operation that closes a window from before its time.

`ClosesOwn` says this of two states, an earlier and a later one. It cannot just say it of the events
in between, since whose a window is depends on when one asks: the window that the queue holds in the
end may not have been there in the beginning. So it follows the queue as well. The number that the
next window gets never falls, and the window that the queue holds in the end is the one it held in
the beginning, or none, or one that came in between. An event that closes such a window is then an
event that closes an own window seen from the beginning too (`Desk.ClosesOwn.earlier`), and this is
what makes the relation transitive.

Proofs are the other thing that few operations ask for. So both are read off the operations in one
pass: whoever closes only own windows asks for no proof here, and the relation takes the events that
an operation is allowed besides as a parameter. A connect request that has waited to be unlocked is
allowed to close that one window; a dispatch is allowed what has to do with its proof.

The operations are gone through statement by statement. Each proof opens a definition and follows
it down, with one step for each operation that it consists of, and one case for each branch.

## Main definitions

* `HostEvent.closes?`: The window that an event asks to be closed.
* `HostEvent.ClosesOwn`: It is the window of the queue or one that is yet to come, and the event has
  nothing to do with a proof.
* `Desk.ClosesOwn`, `Wallet.ClosesOwn`: The numbers of windows grow, the queue gives up its window
  before it holds another, and what is recorded closes own windows only or is allowed besides.
* `Waiting.unlocksIn?`: The window in which the session is to be unlocked.

## Theorems

* `Desk.submit_closesOwn`, `Desk.completeOpening_closesOwn`, `Desk.finalize_closesOwn`,
  `Desk.windowClosed_closesOwn`: What a desk does.
* `Wallet.perform_closesOwn`, `Wallet.resume_closesOwn`: The calls and their parts, unless they
  dispatch a job.
* `Wallet.undergo_closesOwn`: What comes from outside.
* `Run.stage_dispatches`, `Run.stage_closesOwn`: The stages of a run, with the proofs told apart and
  with the proofs among the rest.
-/

namespace WalletTrust

namespace HostEvent

/-- The window that is named as the one to be closed. -/
def closes? : HostEvent → Option Nat
  | .closeRequested id => id
  | _ => none

/-- An event that has nothing to do with a proof, and by which no window is to be closed but the one
of the queue and those that are yet to come. -/
structure ClosesOwn (d : Desk) (e : HostEvent) : Prop where
  unproved : e.isPublic = true
  own : ∀ window, e.closes? = some window →
    d.queue.popup = some window ∨ d.desktop.nextWindow ≤ window

/-- An event that anybody may see and that closes nothing, which is what most of them are. -/
theorem ClosesOwn.of_none {d : Desk} {e : HostEvent} (hpublic : e.isPublic = true)
    (hcloses : e.closes? = none) : e.ClosesOwn d where
  unproved := hpublic
  own _ hsome := by cases hcloses.symm.trans hsome

end HostEvent

/-- The job that is dispatched once an errand is fulfilled. -/
def Errand.job? : Errand → Option ProofJob
  | .proof job true => some job
  | _ => none

namespace Waiting

/-- The window in which the session is to be unlocked, once it is open. -/
def unlocksIn? : Waiting → Option Nat
  | .unlock popup _ _ => some popup
  | _ => none

/-- The event that this window is to be closed. -/
def Closes (on : Waiting) (e : HostEvent) : Prop :=
  ∃ window, on.unlocksIn? = some window ∧ e = .closeRequested (some window)

end Waiting

namespace Desk

/-- The numbers of windows grow, the queue keeps its window, gives it up or holds a new one, and
what is recorded closes own windows only or is allowed besides. -/
structure ClosesOwn (also : HostEvent → Prop) (d t : Desk) : Prop where
  numbers : d.desktop.nextWindow ≤ t.desktop.nextWindow
  holds : t.queue.popup = d.queue.popup ∨ t.queue.popup = none ∨ ∃ window,
    t.queue.popup = some window ∧ d.desktop.nextWindow ≤ window ∧ window < t.desktop.nextWindow
  records : ∃ events, t.desktop.log = d.desktop.log ++ events ∧ ∀ e ∈ events, e.ClosesOwn d ∨ also e

variable {also more : HostEvent → Prop} {d t u : Desk} {α : Type}

open Op (Within)

/-- Nothing happens, and so nothing is closed. -/
theorem closesOwn_refl (also : HostEvent → Prop) (d : Desk) : ClosesOwn also d d where
  numbers := Nat.le_refl _
  holds := .inl rfl
  records := ⟨[], (List.append_nil _).symm, List.forall_mem_nil _⟩

/-- Who closes an own window later on closes an own window seen from the beginning. The queue holds
the window that it held, or it holds one that was yet to come. -/
theorem ClosesOwn.earlier {e : HostEvent} (h : ClosesOwn also d t) (he : e.ClosesOwn t) :
    e.ClosesOwn d where
  unproved := he.unproved
  own window hcloses := by
    rcases he.own window hcloses with hheld | hnew
    · rcases h.holds with hsame | hnone | ⟨popup, hpopup, hnew, _⟩
      · exact .inl (hsame ▸ hheld)
      · cases hnone.symm.trans hheld
      · exact .inr (Option.some.inj (hpopup.symm.trans hheld) ▸ hnew)
    · exact .inr (Nat.le_trans h.numbers hnew)

/-- One after the other. The window that the queue holds between the two may be given up or kept in
the second, and what is recorded there is seen from the beginning of the first. -/
theorem ClosesOwn.trans (h : ClosesOwn also d t) (k : ClosesOwn also t u) : ClosesOwn also d u where
  numbers := Nat.le_trans h.numbers k.numbers
  holds := by
    rcases k.holds with hsame | hnone | ⟨window, hwindow, hnew, hlt⟩
    · rw [hsame]
      refine h.holds.imp_right fun hrest => hrest.imp_right ?_
      rintro ⟨window, hwindow, hnew, hlt⟩
      exact ⟨window, hwindow, hnew, Nat.lt_of_lt_of_le hlt k.numbers⟩
    · exact .inr (.inl hnone)
    -- A window that is held is new if it was opened in either part.
    · exact .inr (.inr ⟨window, hwindow, Nat.le_trans h.numbers hnew, hlt⟩)
  records := by
    rcases h.records with ⟨before, hbefore, hall⟩
    rcases k.records with ⟨after, hafter, hrest⟩
    refine ⟨before ++ after, by rw [hafter, hbefore, List.append_assoc], fun e he => ?_⟩
    rcases List.mem_append.1 he with he | he
    · exact hall e he
    · exact (hrest e he).imp_left h.earlier

instance : Std.Refl (ClosesOwn also) := ⟨closesOwn_refl also⟩

instance : Trans (ClosesOwn also) (ClosesOwn also) (ClosesOwn also) := ⟨ClosesOwn.trans⟩

/-- What is allowed besides may turn out to close own windows only, and then it need not be
allowed. -/
theorem ClosesOwn.mono (hmore : ∀ e, also e → e.ClosesOwn d ∨ more e) (h : ClosesOwn also d t) :
    ClosesOwn more d t where
  numbers := h.numbers
  holds := h.holds
  records := by
    rcases h.records with ⟨events, hlog, hall⟩
    exact ⟨events, hlog, fun e he => (hall e he).elim .inl (hmore e)⟩

/-- A change of the queue that keeps its window or gives it up. -/
theorem onQueue_closesOwn {f : RequestQueue → RequestQueue}
    (h : ∀ q : RequestQueue, (f q).popup = q.popup ∨ (f q).popup = none) :
    Within (ClosesOwn also) (onQueue f) :=
  fun d => {
    numbers := Nat.le_refl _
    holds := (h d.queue).imp_right .inl
    records := ⟨[], (List.append_nil _).symm, List.forall_mem_nil _⟩ }

end Desk

/-! ## The desktop -/

namespace Desktop

open Op (Within)

variable {also : HostEvent → Prop} {d t : Desktop}

/-- What an operation does to a desktop, whatever the queue. -/
def ClosesOwn (also : HostEvent → Prop) (d t : Desktop) : Prop :=
  ∀ queue, Desk.ClosesOwn also { queue, desktop := d } { queue, desktop := t }

instance : Std.Refl (ClosesOwn also) := ⟨fun _ _ => Desk.closesOwn_refl also _⟩

instance : Trans (ClosesOwn also) (ClosesOwn also) (ClosesOwn also) :=
  ⟨fun h k queue => (h queue).trans (k queue)⟩

/-- One event that is allowed, while no window comes. -/
theorem closesOwn_record {e : HostEvent} (h : also e ∨ e.isPublic = true ∧ e.closes? = none)
    (hnumbers : t.nextWindow = d.nextWindow) (hlog : t.log = d.log ++ [e]) : ClosesOwn also d t :=
  fun _ => {
    numbers := Nat.le_of_eq hnumbers.symm
    holds := .inl rfl
    records := ⟨[e], hlog, fun _ he =>
      List.mem_singleton.1 he ▸ h.symm.imp_left fun howned => .of_none howned.1 howned.2⟩ }

theorem record_closesOwn {e : HostEvent} (h : also e ∨ e.isPublic = true ∧ e.closes? = none) :
    Within (ClosesOwn also) (Op.modify (record e)) :=
  fun _ => closesOwn_record h rfl rfl

/-- A broadcast is public and closes nothing, whether or not it is lost. -/
theorem broadcast_closesOwn (message : ExtensionMessage) :
    Within (ClosesOwn also) (broadcast message) := by
  intro d
  rw [broadcast]
  split
  · exact closesOwn_record (.inr ⟨rfl, rfl⟩) rfl rfl
  · exact closesOwn_record (.inr ⟨rfl, rfl⟩) rfl rfl

/-- The same is true of a message to a page, whether or not the page is there. -/
theorem pushEvent_closesOwn (origin : String) (event : PageEvent) :
    Within (ClosesOwn also) (pushEvent origin event) := by
  intro d
  rw [pushEvent]
  split
  · exact closesOwn_record (.inr ⟨rfl, rfl⟩) rfl rfl
  · exact closesOwn_record (.inr ⟨rfl, rfl⟩) rfl rfl

theorem removeListener_closesOwn (id : Nat) : Within (ClosesOwn also) (removeListener id) :=
  fun _ => closesOwn_record (.inr ⟨rfl, rfl⟩) rfl rfl

/-- A window that is asked for may be held back. Either way none is closed. -/
theorem requestWindow_closesOwn : Within (ClosesOwn also) requestWindow := by
  intro d
  rw [requestWindow]
  split
  · exact closesOwn_record (.inr ⟨rfl, rfl⟩) rfl rfl
  · exact closesOwn_record (.inr ⟨rfl, rfl⟩) rfl rfl

/-- Asking for a window to be closed is what has to be allowed. -/
theorem requestClose_closesOwn {id : Option Nat} (h : also (.closeRequested id)) :
    Within (ClosesOwn also) (requestClose id) := by
  intro d
  rw [requestClose]
  split
  · exact closesOwn_record (.inl h) rfl rfl
  · exact closesOwn_record (.inl h) rfl rfl

/-- A window that comes has the next number. -/
theorem openWindow_cases (d : Desktop) :
    (∃ cause, openWindow d = (.error cause, d)) ∨
    openWindow d = (.ok d.nextWindow,
      record (.windowOpened d.nextWindow) { d with nextWindow := d.nextWindow + 1 }) := by
  rw [openWindow]
  split
  · exact .inl ⟨_, rfl⟩
  · split
    · exact .inl ⟨_, rfl⟩
    · exact .inr rfl

/-- Whoever computes a proof does nothing else. -/
theorem dispatch_closesOwn (strategy : Strategy) (job : ProofJob) :
    Within (ClosesOwn fun e => e.isPublic = false) (strategy.dispatch job) := by
  -- A dispatch records what it does with its context, and pages are told nothing of it.
  cases strategy with
  | inProcess prover =>
      refine .bind (record_closesOwn (.inl rfl)) fun _ => ?_
      exact .ofExcept _
  | isolated sandbox =>
      refine .bind (record_closesOwn (.inl rfl)) fun _ => ?_
      refine .bind (.ofExcept _) fun _ => ?_
      refine .bind ?_ fun outcome => ?_
      · refine .attempt ?_
        refine .bind (record_closesOwn (.inl rfl)) fun _ => ?_
        refine .bind (.ofExcept _) fun _ => ?_
        refine .bind (record_closesOwn (.inl rfl)) fun _ => ?_
        exact .ofExcept _
      · refine .bind (record_closesOwn (.inl rfl)) fun _ => ?_
        exact .ofExcept _

end Desktop

/-! ## The desk -/

namespace Desk

open Op (Within)

variable {also : HostEvent → Prop} {α : Type}

/-- What happens on the desktop leaves the window of the queue what it is. -/
theorem onDesktop_closesOwn {x : Op Desktop α} (h : Within (Desktop.ClosesOwn also) x) :
    Within (ClosesOwn also) (onDesktop x) :=
  fun d => h d.desktop d.queue

theorem broadcastQueue_closesOwn : Within (ClosesOwn also) broadcastQueue := by
  unfold broadcastQueue
  refine .bind .get fun _ => ?_
  exact .ignore (onDesktop_closesOwn (Desktop.broadcast_closesOwn _))

/-- Whoever gives up a question takes it out of the queue, and leaves the queue its window. -/
theorem abandon_closesOwn (id : UInt64) (cause : Error) :
    Within (ClosesOwn also) (abandon id cause : Op Desk α) := by
  unfold abandon
  refine .bind (onQueue_closesOwn fun _ => .inl rfl) fun _ => ?_
  refine .bind broadcastQueue_closesOwn fun _ => ?_
  exact .fail _

/-- The window that has come is held by the queue from now on. If none has come the question is
given up. -/
theorem completeOpening_closesOwn (id : UInt64) : Within (ClosesOwn also) (completeOpening id) := by
  intro d
  rcases Desktop.openWindow_cases d.desktop with ⟨cause, hopen⟩ | hopen
  · have hrun : completeOpening id d = abandon id cause d := by
      rw [completeOpening, Op.bind_apply]
      simp only [onDesktop, Op.attempt, Op.zoom, hopen]
    rw [hrun]
    exact abandon_closesOwn id cause d
  · let desktop : Desktop := { d.desktop with nextWindow := d.desktop.nextWindow + 1 }
    let opened : Desk :=
      { d with desktop := desktop.record (.windowOpened d.desktop.nextWindow) }
    have hrun : completeOpening id d =
        (do holdWindow d.desktop.nextWindow; broadcastQueue : Op Desk Unit) opened := by
      rw [completeOpening, Op.bind_apply]
      simp only [onDesktop, Op.attempt, Op.zoom, hopen, opened, desktop]
    -- The window that the queue holds then is the one that has just come.
    have hholds : ClosesOwn also d (holdWindow d.desktop.nextWindow opened).2 := {
      numbers := Nat.le_succ _
      holds := .inr (.inr ⟨_, rfl, Nat.le_refl _, Nat.lt_succ_self _⟩)
      records := by
        refine ⟨[.windowOpened d.desktop.nextWindow, .listenerAdded d.desktop.nextListener],
          List.append_assoc _ _ _, fun e he => .inl ?_⟩
        rcases List.mem_pair.1 he with rfl | rfl
        · exact .of_none rfl rfl
        · exact .of_none rfl rfl }
    rw [hrun]
    exact hholds.trans (broadcastQueue_closesOwn _)

/-- The first question asks for a window, and every other one is shown in the window that is
there. -/
theorem submit_closesOwn (kind : RequestKind) (payload : Json) :
    Within (ClosesOwn also) (submit kind payload) := by
  unfold submit
  refine .bind .get fun before => ?_
  refine .bind (onQueue_closesOwn fun _ => .inl rfl) fun _ => ?_
  refine .bind .get fun after => ?_
  refine .ite (fun _ => ?_) fun _ => ?_
  · refine .bind (onDesktop_closesOwn Desktop.requestWindow_closesOwn) fun ticket => ?_
    cases ticket with
    | some ticket => exact .pure _
    | none =>
        refine .bind (completeOpening_closesOwn _) fun _ => ?_
        exact .pure _
  · refine .bind broadcastQueue_closesOwn fun _ => ?_
    exact .pure _

/-- A window that is reported closed is given up by the queue if it is its own. -/
theorem surfaceClosed_closesOwn (window : Nat) :
    Within (ClosesOwn also) (surfaceClosed window) := by
  unfold surfaceClosed
  refine .bind .get fun before => ?_
  refine .ite (fun _ => ?_) fun _ => ?_
  · refine .bind (onQueue_closesOwn fun _ => .inr rfl) fun _ => ?_
    cases before.queue.listener with
    | some listener =>
        refine .bind (onDesktop_closesOwn (Desktop.removeListener_closesOwn listener)) fun _ => ?_
        exact onQueue_closesOwn fun _ => .inl rfl
    | none => exact onQueue_closesOwn fun _ => .inl rfl
  · exact .pure _

/-- By induction on the listeners, each of whom gives up the window of the queue or does nothing. -/
theorem callListeners_closesOwn (window : Nat) (listeners : List CloseListener) :
    Within (ClosesOwn also) (callListeners window listeners) := by
  induction listeners with
  | nil => exact .pure _
  | cons l rest ih =>
      refine .ite (fun _ => ?_) fun _ => ?_
      · refine .bind (surfaceClosed_closesOwn window) fun _ => ?_
        exact ih
      · exact ih

/-- The host has closed a window, and all who have listened for that are told. Nobody is asked to
close one. -/
theorem windowClosed_closesOwn (window : Nat) : Within (ClosesOwn also) (windowClosed window) := by
  unfold windowClosed
  refine .bind .get fun d => ?_
  exact callListeners_closesOwn window d.desktop.listeners

/-- A window is closed by whoever is allowed to. -/
theorem closeWindow_closesOwn {id : Option Nat} (h : also (.closeRequested id)) :
    Within (ClosesOwn also) (closeWindow id) := by
  unfold closeWindow
  refine .bind (onDesktop_closesOwn (Desktop.requestClose_closesOwn h)) fun window => ?_
  cases window with
  | some window => exact windowClosed_closesOwn window
  | none => exact .pure _

/-- Without a question the window of the queue is closed, and nobody listens for that any more. -/
theorem dismiss_closesOwn {queue : RequestQueue} (h : also (.closeRequested queue.popup)) :
    Within (ClosesOwn also) (dismiss queue) := by
  have hclose : Within (ClosesOwn also) (closeWindow queue.popup).ignore :=
    .ignore (closeWindow_closesOwn h)
  rw [dismiss]
  cases queue.listener with
  | some listener =>
      refine .bind (onDesktop_closesOwn (Desktop.removeListener_closesOwn listener)) fun _ => ?_
      exact hclose
  | none => exact hclose

/-- A queue keeps its window while there are questions, and gives it up with the last. -/
theorem settle_popup (entry : QueuedRequest) (outcome : Except Error Json) (q : RequestQueue) :
    (q.settle entry outcome).popup = q.popup ∨ (q.settle entry outcome).popup = none := by
  simp only [RequestQueue.settle, RequestQueue.answer]
  split
  · exact .inr rfl
  · exact .inl rfl

/-- An answer closes the window of the queue or none, and that is an own one. -/
theorem finalize_closesOwn (request : FinalizeRequest) :
    Within (ClosesOwn also) (finalize request) := by
  refine Within.get_bind fun d => ?_
  -- The window that is closed last is the one that the queue held at the beginning.
  have hmore : ∀ e : HostEvent, (e = .closeRequested d.queue.popup ∨ also e) →
      e.ClosesOwn d ∨ also e := by
    rintro e (rfl | he)
    · exact .inl ⟨rfl, fun window hwindow => .inl hwindow⟩
    · exact .inr he
  refine ClosesOwn.mono hmore ?_
  dsimp only
  cases d.queue.find? request.id with
  | none => exact closesOwn_refl _ d
  | some entry =>
      have hrest : Within (ClosesOwn fun e => e = .closeRequested d.queue.popup ∨ also e) (do
          onQueue (·.settle entry (request.status.outcome request.data))
          broadcastQueue
          if (d.queue.dequeue entry.id).pending.isEmpty then dismiss d.queue
          return true : Op Desk Bool) := by
        refine .bind (onQueue_closesOwn (settle_popup entry _)) fun _ => ?_
        refine .bind broadcastQueue_closesOwn fun _ => ?_
        refine .ite (fun _ => ?_) fun _ => ?_
        · refine .bind (dismiss_closesOwn (.inl rfl)) fun _ => ?_
          exact .pure _
        · exact .pure _
      exact hrest d

end Desk

/-! ## The session -/

namespace SessionLock

open Op (Within)

variable {also : HostEvent → Prop} {α : Type}

/-- What a session does to its desktop. -/
abbrev ClosesOwn (also : HostEvent → Prop) (s t : SessionLock) : Prop :=
  Desktop.ClosesOwn also s.desktop t.desktop

instance : Std.Refl (ClosesOwn also) := ⟨fun s => Std.Refl.refl s.desktop⟩

instance : Trans (ClosesOwn also) (ClosesOwn also) (ClosesOwn also) := ⟨fun h k => Trans.trans h k⟩

/-- An operation that leaves the desktop alone. -/
theorem closesOwn_of_same {x : Op SessionLock α} (h : ∀ s, (x s).2.desktop = s.desktop) :
    Within (ClosesOwn also) x := by
  intro s
  rw [ClosesOwn, h]
  exact Std.Refl.refl s.desktop

/-- The verifier is in a slot, and slots are no part of the desktop. -/
theorem onVerifier_closesOwn (x : Op Slot α) : Within (ClosesOwn also) (onVerifier x) :=
  closesOwn_of_same fun _ => rfl

theorem status_closesOwn : Within (ClosesOwn also) status := by
  unfold status
  refine .bind (onVerifier_closesOwn _) fun _ => ?_
  refine .bind .get fun _ => ?_
  exact .pure _

/-- The status is broadcast. -/
theorem announce_closesOwn : Within (ClosesOwn also) announce := by
  unfold announce
  refine .bind (.attempt status_closesOwn) fun outcome => ?_
  cases outcome with
  | ok status =>
      exact .ignore fun s => Desktop.broadcast_closesOwn (.sessionStatus status) s.desktop
  | error => exact .pure _

theorem state_closesOwn : Within (ClosesOwn also) state := by
  unfold state
  refine .bind .get fun lock => ?_
  refine .ite (fun _ => ?_) fun _ => ?_
  · exact .pure _
  · refine .bind (onVerifier_closesOwn _) fun verifier => ?_
    cases verifier with
    | some _ => exact .pure _
    | none => exact .pure _

theorem isAuthentic_closesOwn (password : String) :
    Within (ClosesOwn also) (isAuthentic password) := by
  unfold isAuthentic
  refine .ite (fun _ => ?_) fun _ => ?_
  · exact .fail _
  · refine .bind (onVerifier_closesOwn _) fun verifier => ?_
    cases verifier with
    | none => exact .fail _
    | some verifier =>
        refine .ite (fun _ => ?_) fun _ => ?_
        · exact .pure _
        · exact .fail _

theorem unlock_closesOwn (password : String) : Within (ClosesOwn also) (unlock password) := by
  unfold unlock
  refine .bind .get fun lock => ?_
  refine .ite (fun _ => ?_) fun _ => ?_
  · exact .pure _
  · refine .bind (isAuthentic_closesOwn password) fun _ => ?_
    refine .bind (closesOwn_of_same fun _ => rfl) fun _ => ?_
    refine .bind announce_closesOwn fun _ => ?_
    exact .pure _

theorem sealWith_closesOwn (secret plain : String) (purpose : Purpose) :
    Within (ClosesOwn also) (sealWith secret plain purpose) := by
  intro s
  rcases hseal : SealedText.sealFresh plain secret purpose s.entropy with ⟨text, entropy⟩
  simp only [sealWith, Op.draw, hseal]
  exact Std.Refl.refl s.desktop

/-- What is broadcast in the end is that the session is unlocked. -/
theorem setupPassword_closesOwn (password : String) :
    Within (ClosesOwn also) (setupPassword password) := by
  unfold setupPassword
  refine .ite (fun _ => ?_) fun _ => ?_
  · exact .fail _
  · refine .bind (onVerifier_closesOwn _) fun verifier => ?_
    refine .ite (fun _ => ?_) fun _ => ?_
    · exact .fail _
    · refine .bind (sealWith_closesOwn _ _ _) fun sealed => ?_
      refine .bind (onVerifier_closesOwn _) fun _ => ?_
      exact unlock_closesOwn password

theorem ensureUnlocked_closesOwn : Within (ClosesOwn also) ensureUnlocked := by
  unfold ensureUnlocked
  refine .bind .get fun _ => ?_
  refine .ite (fun _ => ?_) fun _ => ?_
  · exact .pure _
  · exact .fail _

theorem sealText_closesOwn (plain : String) (purpose : Purpose) :
    Within (ClosesOwn also) (sealText plain purpose) := by
  unfold sealText
  refine .bind .get fun lock => ?_
  cases lock.session.secret with
  | some secret => exact sealWith_closesOwn secret plain purpose
  | none => exact .fail _

theorem openText_closesOwn (sealed : String) (purpose : Purpose) :
    Within (ClosesOwn also) (openText sealed purpose) := by
  unfold openText
  refine .bind .get fun lock => ?_
  cases lock.session.secret with
  | some secret => exact .ofExcept _
  | none => exact .fail _

end SessionLock

/-! ## The wallet -/

namespace Wallet

open Op (Within)

variable {also more : HostEvent → Prop} {w v u : Wallet} {α : Type}

/-- The queue and the desktop. -/
def desk (w : Wallet) : Desk where
  queue := w.core.queue
  desktop := w.host.desktop

/-- What a wallet does to its queue and its desktop. -/
def ClosesOwn (also : HostEvent → Prop) (w v : Wallet) : Prop :=
  Desk.ClosesOwn also w.desk v.desk

instance : Std.Refl (ClosesOwn also) := ⟨fun w => Desk.closesOwn_refl also w.desk⟩

instance : Trans (ClosesOwn also) (ClosesOwn also) (ClosesOwn also) := ⟨Desk.ClosesOwn.trans⟩

/-- The queue and the desktop are all that counts. -/
theorem ClosesOwn.of_desk (h : v.desk = w.desk) : ClosesOwn also w v := by
  rw [ClosesOwn, h]
  exact Desk.closesOwn_refl also w.desk

/-- An operation that leaves the queue and the desktop alone. -/
theorem closesOwn_of_same {x : Op Wallet α} (h : ∀ w : Wallet, (x w).2.desk = w.desk) :
    Within (ClosesOwn also) x :=
  fun w => .of_desk (h w)

/-- A registry is in a slot and in memory, and neither is part of the desktop. -/
theorem onApprovals_closesOwn (x : Op (Shelf HostPermission) α) :
    Within (ClosesOwn also) (onApprovals x) :=
  closesOwn_of_same fun _ => rfl

theorem onConnections_closesOwn (x : Op (Shelf ConnectedIdentity) α) :
    Within (ClosesOwn also) (onConnections x) :=
  closesOwn_of_same fun _ => rfl

/-- What a desk does to its windows is what a wallet does to them. -/
theorem onDesk_closesOwn {x : Op Desk α} (h : Within (Desk.ClosesOwn also) x) :
    Within (ClosesOwn also) (onDesk x) :=
  fun w => h w.desk

/-- And so with what a session does. -/
theorem onLock_closesOwn {x : Op SessionLock α} (h : Within (SessionLock.ClosesOwn also) x) :
    Within (ClosesOwn also) (onLock x) :=
  fun w => h
    { session := w.core.session
      verifier := w.host.storage.slot w.config.storageKeys.password
      entropy := w.host.entropy
      desktop := w.host.desktop } w.core.queue

theorem onDesktop_closesOwn {x : Op Desktop α} (h : Within (Desktop.ClosesOwn also) x) :
    Within (ClosesOwn also) (onDesktop x) :=
  fun w => h w.host.desktop w.core.queue

theorem record_closesOwn {e : HostEvent} (hpublic : e.isPublic = true)
    (hcloses : e.closes? = none) :
    Within (ClosesOwn also) (onDesktop (Op.modify (Desktop.record e))) :=
  onDesktop_closesOwn (Desktop.record_closesOwn (.inr ⟨hpublic, hcloses⟩))

/-! ### Registries, session and backups -/

theorem loadApprovals_closesOwn : Within (ClosesOwn also) loadApprovals := by
  unfold loadApprovals
  refine .bind (.gets _) fun _ => ?_
  exact onApprovals_closesOwn _

theorem loadConnections_closesOwn : Within (ClosesOwn also) loadConnections := by
  unfold loadConnections
  refine .bind (.gets _) fun _ => ?_
  exact onConnections_closesOwn _

theorem loadRegistries_closesOwn : Within (ClosesOwn also) loadRegistries := by
  unfold loadRegistries
  refine .bind loadApprovals_closesOwn fun _ => ?_
  exact loadConnections_closesOwn

/-- To approve an origin is a write, and no page is told of it. -/
theorem approve_closesOwn (entry : ApprovalEntry) : Within (ClosesOwn also) (approve entry) := by
  unfold approve
  refine .ite (fun _ => ?_) fun _ => ?_
  · exact .fail _
  · refine .bind (.gets _) fun _ => ?_
    refine .bind (onApprovals_closesOwn _) fun _ => ?_
    exact .pure _

theorem setPermission_closesOwn (origin : String) (flag : Bool) :
    Within (ClosesOwn also) (setPermission origin flag) := by
  unfold setPermission
  refine .ite (fun _ => ?_) fun _ => ?_
  · exact .fail _
  · refine .bind loadApprovals_closesOwn fun _ => ?_
    refine .bind .get fun _ => ?_
    refine .ite (fun _ => ?_) fun _ => ?_
    · refine .bind (.gets _) fun _ => ?_
      refine .bind (onApprovals_closesOwn _) fun _ => ?_
      exact .pure _
    · exact .fail _

theorem unapprove_closesOwn (origin : String) : Within (ClosesOwn also) (unapprove origin) := by
  unfold unapprove
  refine .bind (.gets _) fun _ => ?_
  refine .bind (onApprovals_closesOwn _) fun _ => ?_
  exact .pure _

theorem clearApprovals_closesOwn : Within (ClosesOwn also) clearApprovals := by
  unfold clearApprovals
  refine .bind (.gets _) fun _ => ?_
  exact onApprovals_closesOwn _

theorem identity_closesOwn (commitment : String) :
    Within (ClosesOwn also) (identity commitment) := by
  unfold identity
  refine .bind .get fun _ => ?_
  exact .ofExcept _

theorem selectedIdentity_closesOwn : Within (ClosesOwn also) selectedIdentity := by
  unfold selectedIdentity
  refine .bind .get fun _ => ?_
  exact .ofExcept _

theorem connectedIdentity_closesOwn (origin : String) :
    Within (ClosesOwn also) (connectedIdentity origin) := by
  unfold connectedIdentity
  refine .bind .get fun w => ?_
  cases w.connection? origin with
  | none => exact .pure _
  | some connection => exact identity_closesOwn _

theorem notify_closesOwn (origin : String) (event : PageEvent) :
    Within (ClosesOwn also) (notify origin event) :=
  .ignore (onDesktop_closesOwn (Desktop.pushEvent_closesOwn origin event))

/-- The page is told that it is connected. Its window is its own affair. -/
theorem connectIdentity_closesOwn (commitment origin : String) :
    Within (ClosesOwn also) (connectIdentity commitment origin) := by
  unfold connectIdentity
  refine .ite (fun _ => ?_) fun _ => ?_
  · exact .fail _
  · refine .bind (identity_closesOwn commitment) fun found => ?_
    refine .bind (.ofOption _ _) fun identity => ?_
    refine .bind (.gets _) fun _ => ?_
    refine .bind (onConnections_closesOwn _) fun _ => ?_
    refine .bind (notify_closesOwn _ _) fun _ => ?_
    exact .pure _

/-- The page is told that it is disconnected. -/
theorem disconnect_closesOwn (target : String) : Within (ClosesOwn also) (disconnect target) := by
  unfold disconnect
  refine .ite (fun _ => ?_) fun _ => ?_
  · exact .fail _
  · refine .bind loadConnections_closesOwn fun _ => ?_
    refine .bind .get fun w => ?_
    refine .bind (.ofOption _ _) fun origin => ?_
    refine .bind (.gets _) fun _ => ?_
    refine .bind (onConnections_closesOwn _) fun _ => ?_
    refine .bind (.ofOption _ _) fun _ => ?_
    refine .bind (notify_closesOwn _ _) fun _ => ?_
    exact .pure _

/-- By induction on the origins, each of which is told once. -/
theorem notifyDisconnected_closesOwn (origins : List String) :
    Within (ClosesOwn also) (notifyDisconnected origins) := by
  induction origins with
  | nil => exact .pure _
  | cons origin rest ih =>
      refine .bind (notify_closesOwn _ _) fun _ => ?_
      exact ih

theorem clearConnections_closesOwn : Within (ClosesOwn also) clearConnections := by
  unfold clearConnections
  refine .bind loadConnections_closesOwn fun _ => ?_
  refine .bind .get fun w => ?_
  refine .bind (notifyDisconnected_closesOwn _) fun _ => ?_
  refine .bind (.gets _) fun _ => ?_
  exact onConnections_closesOwn _

/-- The approval is taken back, and the page is told if it was connected. -/
theorem revoke_closesOwn (origin : String) : Within (ClosesOwn also) (revoke origin) := by
  unfold revoke
  refine .ite (fun _ => ?_) fun _ => ?_
  · exact .fail _
  · refine .bind (unapprove_closesOwn origin) fun _ => ?_
    refine .bind .get fun w => ?_
    refine .ite (fun _ => ?_) fun _ => ?_
    · refine .bind (disconnect_closesOwn origin) fun _ => ?_
      exact .pure _
    · exact .pure _

theorem setupPassword_closesOwn (password : String) :
    Within (ClosesOwn also) (setupPassword password) := by
  unfold setupPassword
  refine .bind (onLock_closesOwn (SessionLock.setupPassword_closesOwn password)) fun _ => ?_
  refine .bind loadRegistries_closesOwn fun _ => ?_
  exact .pure _

/-- Who unlocks the session closes no window. The window in which that was done is closed by the
connect request that has asked for it. -/
theorem unlock_closesOwn (password : String) : Within (ClosesOwn also) (unlock password) := by
  unfold unlock
  refine .bind (onLock_closesOwn (SessionLock.unlock_closesOwn password)) fun _ => ?_
  refine .bind loadRegistries_closesOwn fun _ => ?_
  exact .pure _

theorem tellObservers_closesOwn (names : List String) :
    Within (ClosesOwn also) (tellObservers names) := by
  induction names with
  | nil => exact .pure _
  | cons name rest ih =>
      refine .bind (record_closesOwn rfl rfl) fun _ => ?_
      exact ih

/-- Locking the session is announced and leaves all windows open. -/
theorem logout_closesOwn : Within (ClosesOwn also) logout := by
  unfold logout
  refine .bind (closesOwn_of_same fun _ => rfl) fun _ => ?_
  refine .bind (closesOwn_of_same fun _ => rfl) fun _ => ?_
  refine .bind .get fun w => ?_
  refine .bind (tellObservers_closesOwn _) fun _ => ?_
  refine .bind (onLock_closesOwn SessionLock.announce_closesOwn) fun _ => ?_
  exact .pure _

theorem downloadComponent_closesOwn (c : BackupComponent) (password : String) :
    Within (ClosesOwn also) (downloadComponent c password) := by
  cases c with
  | approvals =>
      refine .bind (.gets _) fun _ => ?_
      exact onApprovals_closesOwn _
  | connections =>
      refine .bind (.gets _) fun _ => ?_
      exact onConnections_closesOwn _
  | foreign key data refuses =>
      refine .bind (record_closesOwn rfl rfl) fun _ => ?_
      refine .ite (fun _ => ?_) fun _ => ?_
      · exact .fail _
      · exact .pure _

theorem uploadComponent_closesOwn (c : BackupComponent) (blob password : String) :
    Within (ClosesOwn also) (uploadComponent c blob password) := by
  cases c with
  | approvals =>
      refine .bind (.gets _) fun _ => ?_
      exact onApprovals_closesOwn _
  | connections =>
      refine .bind (.gets _) fun _ => ?_
      exact onConnections_closesOwn _
  | foreign key data refuses =>
      refine .bind (record_closesOwn rfl rfl) fun _ => ?_
      refine .ite (fun _ => ?_) fun _ => ?_
      · exact .fail _
      · exact .pure _

/-- By induction on the components, each of which is backed up in turn. -/
theorem collect_closesOwn (password : String) (components : List BackupComponent)
    (file : BackupFile) : Within (ClosesOwn also) (collect password components file) := by
  induction components generalizing file with
  | nil => exact .pure _
  | cons c rest ih =>
      refine .bind (downloadComponent_closesOwn c password) fun _ => ?_
      exact ih _

theorem downloadBackup_closesOwn (password : String) :
    Within (ClosesOwn also) (downloadBackup password) := by
  unfold downloadBackup
  refine .bind (onLock_closesOwn (SessionLock.isAuthentic_closesOwn password)) fun _ => ?_
  refine .bind .get fun _ => ?_
  refine .bind (collect_closesOwn _ _ _) fun _ => ?_
  exact .pure _

/-- By induction on the components. Those that the file does not mention are passed by. -/
theorem restore_closesOwn (file : BackupFile) (password : String)
    (components : List BackupComponent) :
    Within (ClosesOwn also) (restore file password components) := by
  induction components with
  | nil => exact .pure _
  | cons c rest ih =>
      rw [restore]
      cases Assoc.lookup c.key file with
      | none => exact ih
      | some data =>
          cases data with
          | none => exact ih
          | some data =>
              refine .bind (uploadComponent_closesOwn c data password) fun _ => ?_
              exact ih

theorem uploadBackup_closesOwn (upload : UploadBackup) :
    Within (ClosesOwn also) (uploadBackup upload) := by
  unfold uploadBackup
  refine .bind (onLock_closesOwn (SessionLock.isAuthentic_closesOwn _)) fun _ => ?_
  refine .bind (.ofExcept _) ?_
  intro json
  refine .bind (.ofOption _ _) fun file => ?_
  refine .bind .get fun w => ?_
  refine .ite (fun _ => ?_) fun _ => ?_
  · exact restore_closesOwn _ _ _
  · exact .fail _

/-! ### Connect requests -/

/-- A question is put, and there may be no answer yet. -/
theorem ask_closesOwn (kind : RequestKind) (payload : Json) (errand : Errand) :
    Within (ClosesOwn also) (ask kind payload errand) := by
  unfold ask
  refine .bind (onDesk_closesOwn (Desk.submit_closesOwn kind payload)) fun submission => ?_
  cases submission with
  | queued => exact .pure _
  | opening => exact .pure _

theorem chooseIdentity_closesOwn (origin : String) (changeIdentity : Bool) :
    Within (ClosesOwn also) (chooseIdentity origin changeIdentity) := by
  unfold chooseIdentity
  refine .bind .get fun w => ?_
  split
  · exact .pure _
  · exact ask_closesOwn _ _ _

/-- An origin that is approved is not asked about again. -/
theorem seekApproval_closesOwn (origin : String) (changeIdentity : Bool) :
    Within (ClosesOwn also) (seekApproval origin changeIdentity) := by
  unfold seekApproval
  refine .bind .get fun w => ?_
  refine .ite (fun _ => ?_) fun _ => ?_
  · refine .bind (approve_closesOwn _) fun _ => ?_
    exact chooseIdentity_closesOwn _ _
  · exact ask_closesOwn _ _ _

/-- The window in which the session was unlocked is closed, if that is allowed. -/
theorem awaitUnlock_closesOwn {window : Nat} (h : also (.closeRequested (some window)))
    (origin : String) (changeIdentity : Bool) :
    Within (ClosesOwn also) (awaitUnlock window origin changeIdentity) := by
  unfold awaitUnlock
  refine .bind .get fun w => ?_
  refine .ite (fun _ => ?_) fun _ => ?_
  · refine .bind loadRegistries_closesOwn fun _ => ?_
    refine .bind (.ignore (onDesk_closesOwn (Desk.closeWindow_closesOwn h))) fun _ => ?_
    refine .bind loadRegistries_closesOwn fun _ => ?_
    exact seekApproval_closesOwn _ _
  · exact .pure _

/-- The window in which the session is to be unlocked has the next number. -/
theorem openWindow_cases (w : Wallet) :
    (∃ cause, w.host.desktop.opened = .error cause ∧
      onDesktop Desktop.openWindow w = (.error cause, w)) ∨
    ∃ v, w.host.desktop.opened = .ok w.host.desktop.nextWindow ∧
      onDesktop Desktop.openWindow w = (.ok w.host.desktop.nextWindow, v) ∧
      v.core = w.core ∧ v.host.desktop.nextWindow = w.host.desktop.nextWindow + 1 ∧
      v.host.desktop.log = w.host.desktop.log ++ [.windowOpened w.host.desktop.nextWindow] := by
  rw [Desktop.opened]
  -- A desktop that opens a window gives it the next number.
  rcases Desktop.openWindow_cases w.host.desktop with ⟨cause, hopen⟩ | hopen
  · refine .inl ⟨cause, by rw [hopen], ?_⟩
    rw [onDesktop, Op.zoom, hopen]
  · refine .inr ⟨(onDesktop Desktop.openWindow w).2, by rw [hopen], ?_, rfl, ?_, ?_⟩
    · rw [onDesktop, Op.zoom, hopen]
    · rw [onDesktop, Op.zoom, hopen]
      rfl
    · rw [onDesktop, Op.zoom, hopen]
      rfl

/-- The window to unlock in is closed at once if the session is unlocked by the time it comes. -/
theorem openUnlockWindow_closesOwn (origin : String) (changeIdentity : Bool) :
    Within (ClosesOwn also) (openUnlockWindow origin changeIdentity) := by
  intro w
  rcases openWindow_cases w with ⟨cause, _, hopen⟩ | ⟨v, _, hopen, hcore, hnumber, hlog⟩
  · rw [openUnlockWindow, Op.bind_error hopen]
    exact Std.Refl.refl w
  · rw [openUnlockWindow, Op.bind_ok hopen]
    -- The window was yet to come when this began, so that it may be closed at once.
    have hopened : ClosesOwn
        (fun e => e = .closeRequested (some w.host.desktop.nextWindow) ∨ also e) w v := {
      numbers := hnumber.symm ▸ Nat.le_succ _
      holds := .inl (congrArg (fun core => core.queue.popup) hcore)
      records := ⟨_, hlog, fun e he => .inl (by
        rw [List.mem_singleton.1 he]
        exact .of_none rfl rfl)⟩ }
    refine Desk.ClosesOwn.mono ?_ (hopened.trans (awaitUnlock_closesOwn (.inl rfl) _ _ v))
    rintro e (rfl | he)
    · exact .inl ⟨rfl, fun window hwindow => .inr (Nat.le_of_eq (Option.some.inj hwindow))⟩
    · exact .inr he

/-- The first part of a connect request has no window yet that it could close too early. -/
theorem connect_closesOwn (origin : String) (changeIdentity : Bool) :
    Within (ClosesOwn also) (connect origin changeIdentity) := by
  unfold connect
  refine .mapError ?_
  refine .ite (fun _ => ?_) fun _ => ?_
  · exact .fail _
  · refine .bind .get fun w => ?_
    refine .ite (fun _ => ?_) ?_
    · refine .bind loadRegistries_closesOwn fun _ => ?_
      exact seekApproval_closesOwn _ _
    · intro _
      refine .bind (onDesktop_closesOwn Desktop.requestWindow_closesOwn) fun ticket => ?_
      cases ticket with
      | some ticket => exact .pure _
      | none => exact openUnlockWindow_closesOwn _ _

theorem approvalAnswered_closesOwn (origin : String) (changeIdentity : Bool)
    (outcome : Except Error Json) :
    Within (ClosesOwn also) (approvalAnswered origin changeIdentity outcome) := by
  unfold approvalAnswered
  refine .bind (.ofExcept _) fun _ => ?_
  refine .bind (.ofExcept _) fun permission => ?_
  refine .bind (approve_closesOwn _) fun _ => ?_
  exact chooseIdentity_closesOwn _ _

theorem chosenCommitment_closesOwn (choice : IdentityChoice) :
    Within (ClosesOwn also) (chosenCommitment choice) := by
  rw [chosenCommitment]
  cases choice.commitment with
  | some commitment => exact .pure _
  | none =>
      refine .bind selectedIdentity_closesOwn fun _ => ?_
      refine .bind (.ofOption _ _) fun _ => ?_
      exact .pure _

/-- The identity that was chosen is connected, and the window it was chosen in stays with the
queue. -/
theorem choiceAnswered_closesOwn (origin : String) (outcome : Except Error Json) :
    Within (ClosesOwn also) (choiceAnswered origin outcome) := by
  unfold choiceAnswered
  refine .bind (.ofExcept _) fun _ => ?_
  refine .bind (.ofExcept _) fun choice => ?_
  refine .bind (chosenCommitment_closesOwn choice) fun commitment => ?_
  refine .bind (connectIdentity_closesOwn commitment origin) fun _ => ?_
  exact .pure _

/-! ### Calls and their parts -/

/-- Whoever dispatches a job has a proof computed and does nothing else. -/
theorem dispatch_closesOwn (job : ProofJob) :
    Within (ClosesOwn fun e => e.isPublic = false) (dispatch job) := by
  unfold dispatch
  refine .bind .get fun w => ?_
  refine .bind (onDesktop_closesOwn (Desktop.dispatch_closesOwn _ job)) fun output => ?_
  refine .bind (.ofExcept _) fun _ => ?_
  exact .pure _

theorem finish_closesOwn {x : Op Wallet α} (h : Within (ClosesOwn also) x) (answer : α → Answer) :
    Within (ClosesOwn also) (finish answer x) := by
  unfold finish
  refine .bind h fun _ => ?_
  exact .pure _

/-- A call that dispatches no job closes own windows only. -/
theorem perform_closesOwn {call : Call} (h : w.dispatched? call = none) :
    ClosesOwn also w (perform call w).2 := by
  -- Whatever puts a question does nothing else, so what is left are the calls that put none.
  rcases hasks : w.question? call with _ | q
  · cases call with
    | setupPassword password => exact finish_closesOwn (setupPassword_closesOwn _) _ w
    | unlock password => exact finish_closesOwn (unlock_closesOwn _) _ w
    | logout => exact finish_closesOwn logout_closesOwn _ w
    | status => exact finish_closesOwn (onLock_closesOwn SessionLock.status_closesOwn) _ w
    | setupLock password =>
        exact finish_closesOwn (onLock_closesOwn (SessionLock.setupPassword_closesOwn _)) _ w
    | openLock password =>
        exact finish_closesOwn (onLock_closesOwn (SessionLock.unlock_closesOwn _)) _ w
    | sessionState => exact finish_closesOwn (onLock_closesOwn SessionLock.state_closesOwn) _ w
    | isAuthentic password =>
        exact finish_closesOwn (onLock_closesOwn (SessionLock.isAuthentic_closesOwn _)) _ w
    | awaitUnlock =>
        refine Within.mapError (.bind .get fun _ => ?_) w
        refine .ite (fun _ => ?_) fun _ => ?_
        · exact .pure _
        · exact .pure _
    | ensureUnlocked =>
        exact finish_closesOwn (onLock_closesOwn SessionLock.ensureUnlocked_closesOwn) _ w
    | sealText plain purpose =>
        exact finish_closesOwn (onLock_closesOwn (SessionLock.sealText_closesOwn _ _)) _ w
    | openText sealed purpose =>
        exact finish_closesOwn (onLock_closesOwn (SessionLock.openText_closesOwn _ _)) _ w
    | loadApprovals => exact finish_closesOwn loadApprovals_closesOwn _ w
    | approve entry => exact finish_closesOwn (approve_closesOwn _) _ w
    | setPermission origin flag => exact finish_closesOwn (setPermission_closesOwn _ _) _ w
    | unapprove origin => exact finish_closesOwn (unapprove_closesOwn _) _ w
    | clearApprovals => exact finish_closesOwn clearApprovals_closesOwn _ w
    | loadConnections => exact finish_closesOwn loadConnections_closesOwn _ w
    | connectIdentity commitment origin =>
        exact finish_closesOwn (connectIdentity_closesOwn _ _) _ w
    | disconnect target => exact finish_closesOwn (disconnect_closesOwn _) _ w
    | clearConnections => exact finish_closesOwn clearConnections_closesOwn _ w
    | connectedIdentity origin => exact finish_closesOwn (connectedIdentity_closesOwn _) _ w
    | identity commitment => exact finish_closesOwn (identity_closesOwn _) _ w
    | selectedIdentity => exact finish_closesOwn selectedIdentity_closesOwn _ w
    | submit kind payload => cases hasks
    | ask kind payload => cases hasks
    | finalize request =>
        exact finish_closesOwn (onDesk_closesOwn (Desk.finalize_closesOwn request)) _ w
    | connect origin changeIdentity => exact connect_closesOwn _ _ w
    | reveal origin =>
        rw [reveal_unconnected (Option.map_eq_none_iff.1 hasks)]
        exact Std.Refl.refl w
    | revoke origin => exact finish_closesOwn (revoke_closesOwn _) _ w
    | prepare request origin =>
        refine .of_desk (congrArg desk (requestProof_idle hasks fun hfalse => ?_))
        exact absurd hfalse Bool.false_ne_true
    | generate request origin =>
        refine .of_desk (congrArg desk ((generate_state request origin w).trans ?_))
        refine requestProof_idle hasks fun _ hskip => ?_
        simpa only [dispatched?, hskip, if_true] using h
    | dispatch job => cases h
    | removeComponent key => exact finish_closesOwn (closesOwn_of_same fun _ => rfl) _ w
    | registerComponent component => exact finish_closesOwn (closesOwn_of_same fun _ => rfl) _ w
    | downloadBackup password => exact finish_closesOwn (downloadBackup_closesOwn _) _ w
    | uploadBackup upload => exact finish_closesOwn (uploadBackup_closesOwn _) _ w
    | downloadComponent component password =>
        exact finish_closesOwn (downloadComponent_closesOwn _ _) _ w
    | uploadComponent component blob password =>
        exact finish_closesOwn (uploadComponent_closesOwn _ _ _) _ w
    | _ => exact finish_closesOwn .get _ w
  · rw [perform_question hasks]
    exact Within.mapError (ask_closesOwn _ _ _) w

/-- An errand that is fulfilled without a proof closes nothing. -/
theorem fulfil_closesOwn {errand : Errand} (h : errand.job? = none) (id : UInt64)
    (outcome : Except Error Json) : Within (ClosesOwn also) (fulfil id errand outcome) := by
  cases errand with
  | asked withId =>
      cases withId with
      | true => exact .pure _
      | false =>
          refine .bind (.ofExcept _) fun _ => ?_
          exact .pure _
  | approval origin changeIdentity => exact approvalAnswered_closesOwn _ _ _
  | identityChoice origin => exact choiceAnswered_closesOwn _ _
  | reveal origin commitment =>
      refine .bind (.ofExcept _) fun _ => ?_
      refine .bind (onDesktop_closesOwn (Desktop.pushEvent_closesOwn _ _)) fun _ => ?_
      exact .pure _
  | proof job compute =>
      cases compute with
      | true => cases h
      | false =>
          refine .bind (.ofExcept _) fun _ => ?_
          exact .pure _

/-- With an answer, an errand is fulfilled without a proof, or a job is dispatched and that is all.
-/
theorem fulfil_cases (id : UInt64) (errand : Errand) (outcome : Except Error Json) (w : Wallet) :
    ClosesOwn also w (fulfil id errand outcome w).2 ∨
    ∃ job, (fulfil id errand outcome w).2 = (dispatch job w).2 := by
  rcases hjob : errand.job? with _ | _
  · exact .inl (fulfil_closesOwn hjob id outcome w)
  · cases errand with
    | proof job compute =>
        cases compute with
        | false => cases hjob
        | true =>
            rcases outcome with e | data
            · exact .inl (Std.Refl.refl w)
            · exact .inr ⟨job, rfl⟩
    | _ => cases hjob

/-- A part of a flow closes the window in which the session was to be unlocked, if it waited for
that, or it dispatches a job in the end, or neither. -/
theorem resume_closesOwn (on : Waiting) (w : Wallet) :
    ClosesOwn on.Closes w (resume on w).2 ∨
    ∃ job v, ClosesOwn on.Closes w v ∧ v.host.strategy = w.host.strategy ∧
      (resume on w).2 = (dispatch job v).2 := by
  rw [resume_state]
  -- Only an answer that has come may have the job dispatched. Until then nothing happens.
  have hanswer {id : UInt64} {channel : Nat} {errand : Errand} (v : Wallet) :
      ClosesOwn on.Closes v (awaitAnswer id channel errand v).2 ∨
      ∃ job, (awaitAnswer id channel errand v).2 = (dispatch job v).2 := by
    rcases hanswer : v.core.queue.answer? channel with _ | outcome
    · rw [awaitAnswer_none hanswer]
      exact .inl (Std.Refl.refl v)
    · rw [awaitAnswer_some hanswer]
      exact fulfil_cases id errand outcome v
  cases on with
  | unlockWindow ticket origin changeIdentity => exact .inl (openUnlockWindow_closesOwn _ _ w)
  | unlock window origin changeIdentity =>
      exact .inl (awaitUnlock_closesOwn ⟨window, rfl, rfl⟩ origin changeIdentity w)
  | unlockSignal =>
      have hsignal : Within (ClosesOwn (Waiting.Closes .unlockSignal)) (goOn .unlockSignal) := by
        unfold goOn
        refine .bind .get fun _ => ?_
        refine .ite (fun _ => ?_) fun _ => ?_
        · exact .pure _
        · exact .pure _
      exact .inl (hsignal w)
  | window id channel ticket errand =>
      rw [goOn]
      have hopens : ClosesOwn (Waiting.Closes (.window id channel ticket errand)) w
          (onDesk (Desk.completeOpening id) w).2 :=
        onDesk_closesOwn (Desk.completeOpening_closesOwn id) w
      rcases hrun : onDesk (Desk.completeOpening id) w with ⟨outcome, v⟩
      rw [hrun] at hopens
      have hstrategy : v.host.strategy = w.host.strategy := by
        rw [← (Prod.mk.inj hrun).2]
      cases outcome with
      | error e =>
          rw [Op.bind_error hrun]
          exact .inl hopens
      | ok u =>
          rw [Op.bind_ok hrun]
          refine (hanswer v).imp hopens.trans ?_
          rintro ⟨job, hjob⟩
          exact ⟨job, v, hopens, hstrategy, hjob⟩
  | answer id channel errand =>
      refine (hanswer w).imp_right (Exists.imp fun job hjob => ?_)
      exact ⟨w, Std.Refl.refl w, rfl, hjob⟩
  | lastWord id outcome => exact .inl (Std.Refl.refl w)

/-! ### What comes from outside -/

/-- Nothing is recorded, and no window comes or goes. -/
theorem ClosesOwn.of_quiet (hnumbers : v.host.desktop.nextWindow = w.host.desktop.nextWindow)
    (hlog : v.host.desktop.log = w.host.desktop.log) (hqueue : v.core.queue = w.core.queue) :
    ClosesOwn also w v where
  numbers := Nat.le_of_eq hnumbers.symm
  holds := .inl (congrArg RequestQueue.popup hqueue)
  records := ⟨[], hlog.trans (List.append_nil _).symm, List.forall_mem_nil _⟩

/-- The host closes what windows it likes. It does not ask itself to. -/
theorem undergo_closesOwn (action : HostAction) : Within (ClosesOwn also) (undergo action) := by
  intro w
  cases action with
  | setFault part broken =>
      cases part with
      | _ => exact .of_quiet rfl rfl rfl
  -- A user may close the window that is held, and the desk lets go of it.
  | closeWindow id => exact onDesk_closesOwn (Desk.windowClosed_closesOwn id) w
  | reportClosed id => exact onDesk_closesOwn (Desk.surfaceClosed_closesOwn id) w
  | writeSealed slot plain secret purpose =>
      have hseal : Within (ClosesOwn also) (sealOutside plain secret purpose) := by
        intro u
        rcases hsealed : SealedText.sealFresh plain secret purpose u.host.entropy with ⟨_, _⟩
        simp only [sealOutside, Op.draw, hsealed]
        exact .of_desk rfl
      exact Within.bind hseal (fun _ => closesOwn_of_same fun _ => rfl) w
  | useProver prover =>
      have hsame : (w.host.useProver prover).desktop = w.host.desktop := by
        rw [Host.useProver]
        split
        · rfl
        · rfl
      exact .of_desk (congrArg (Desk.mk w.core.queue) hsame)
  | useSandbox sandbox =>
      have hsame : (w.host.useSandbox sandbox).desktop = w.host.desktop := by
        rw [Host.useSandbox]
        split
        · rfl
        · rfl
      exact .of_desk (congrArg (Desk.mk w.core.queue) hsame)
  | _ => exact .of_quiet rfl rfl rfl

end Wallet

/-! ## In a run -/

/-- Giving up a call that waits for a window withdraws the request for it, and that is all. -/
theorem System.cancel_closesOwn {also : HostEvent → Prop} (n : Nat) (s : System) :
    Wallet.ClosesOwn also s.wallet (s.cancel n).2.wallet := by
  rw [cancel]
  split
  · exact Std.Refl.refl _
  · split
    · exact Std.Refl.refl _
    · exact .of_quiet rfl rfl rfl

namespace Run

variable {run : Run}

/-- A stage closes the window in which a call that it goes on with has waited for the session to be
unlocked, or dispatches a job in the end, or neither. -/
theorem stage_dispatches (run : Run) (t : Nat) :
    Wallet.ClosesOwn (fun e => ∃ n on, run.GoesOn t n on ∧ on.Closes e) (run.wallet t)
      (run.wallet (t + 1)) ∨
    ∃ job v, Wallet.ClosesOwn (fun e => ∃ n on, run.GoesOn t n on ∧ on.Closes e) (run.wallet t) v ∧
      v.host.strategy = (run.wallet t).host.strategy ∧
      run.wallet (t + 1) = (Wallet.dispatch job v).2 := by
  -- A stage ends with a dispatch if a call does, or the answer it has waited for.
  rcases hmove : run.move t with call | n | action | n
  · rw [wallet_call hmove]
    rcases hdispatched : (run.wallet t).dispatched? call with _ | job
    · exact .inl (Wallet.perform_closesOwn hdispatched)
    · exact .inr ⟨job, run.wallet t, Std.Refl.refl _, rfl, Wallet.perform_dispatched hdispatched⟩
  · by_cases hgoes : ∃ on, run.GoesOn t n on
    · rcases hgoes with ⟨on, hgoes⟩
      have hallowed : ∀ e, on.Closes e → ∃ n on, run.GoesOn t n on ∧ on.Closes e :=
        fun e he => ⟨n, on, hgoes, he⟩
      rw [wallet_goOn hgoes]
      rcases Wallet.resume_closesOwn on (run.wallet t) with hown | ⟨job, v, hown, hstrategy, hlast⟩
      · exact .inl (Desk.ClosesOwn.mono (fun e he => .inr (hallowed e he)) hown)
      · exact .inr ⟨job, v, Desk.ClosesOwn.mono (fun e he => .inr (hallowed e he)) hown, hstrategy,
          hlast⟩
    · rw [wallet, wallet, system_unready hmove fun on h => hgoes ⟨on, h⟩]
      exact .inl (Std.Refl.refl _)
  · have hstep : run.wallet (t + 1) = (Wallet.undergo action (run.wallet t)).2 := by
      rw [wallet, system, hmove]
      rfl
    rw [hstep]
    exact .inl (Wallet.undergo_closesOwn action (run.wallet t))
  · have hstep : run.wallet (t + 1) = ((run.system t).cancel n).2.wallet := by
      rw [wallet, system, hmove]
      rfl
    rw [hstep]
    exact .inl (System.cancel_closesOwn n (run.system t))

/-- What a stage does to the queue and the desktop, proofs included. -/
theorem stage_closesOwn (run : Run) (t : Nat) :
    Wallet.ClosesOwn (fun e => e.isPublic = false ∨ ∃ n on, run.GoesOn t n on ∧ on.Closes e)
      (run.wallet t) (run.wallet (t + 1)) := by
  rcases run.stage_dispatches t with hown | ⟨job, v, hown, _, hlast⟩
  · exact Desk.ClosesOwn.mono (fun e he => .inr (.inr he)) hown
  · have hdispatch := Wallet.dispatch_closesOwn job v
    rw [← hlast] at hdispatch
    exact Desk.ClosesOwn.trans (Desk.ClosesOwn.mono (fun e he => .inr (.inr he)) hown)
      (Desk.ClosesOwn.mono (fun e he => .inr (.inl he)) hdispatch)

end Run

end WalletTrust

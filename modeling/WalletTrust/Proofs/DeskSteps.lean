import WalletTrust.Proofs.Operations
import WalletTrust.Proofs.Questions

/-!
# What a Desk Does

One description for each operation of a desk: its outcome, what it makes of the queue, and the
queues it shows to the open windows.

A step changes the queue by one of the changes of `Questions`, or by two where a question joins and
its window comes or fails at once. Closing a window is the exception. The host calls every listener,
and a listener may be that of the queue; but the window closed has to be the one held, and once the
queue has let go of it no listener has any effect. So the broker's own closing, which comes after it
has let go, never rejects anything.

A description has the form `Desk.Does`: the outcome of an operation, the queue and the queues that
were shown. Windows and listeners are left out of it, as most of what is said of a desk is about its
questions. `Attendance` and `Tidiness` say the rest.

## Main definitions

* `Desktop.shown`: The queues that were shown, in order, whether or not a window received them.
* `Desktop.opened`, `Desktop.obstacles`: What opening a window would answer, and what keeps one from
  coming.

## Theorems

* `Desk.submit_behind`, `Desk.submit_held`, `Desk.submit_opened`, `Desk.submit_refused`: Putting a
  question.
* `Desk.completeOpening_opened`, `Desk.completeOpening_refused`: A window that was waited for.
* `Desk.windowClosed_queue`, `Desk.closeWindow_queue`: A window is closed.
* `Desk.finalize_unknown`, `Desk.finalize_known`: A decision.
* `Desktop.requestWindow_free`, `Desktop.requestWindow_held`: A window comes at once or leaves a
  ticket.
* `Desktop.opened_eq`, `Desk.completeOpening_obstacles`: Whether a window can be opened depends on
  the faults alone, and opening one does not change them.
* `Desk.surfaceClosed_own`, `Desk.surfaceClosed_other`: Of the windows that are closed only the one
  of the queue counts.
-/

namespace WalletTrust

/-- The queue that an event shows to the open windows. -/
def HostEvent.shown? : HostEvent → Option (List PendingRequest)
  | .broadcast (.pendingRequests queue) => some queue
  | .broadcastLost (.pendingRequests queue) => some queue
  | _ => none

namespace Submission

def id : Submission → UInt64
  | .queued id _ => id
  | .opening id _ _ => id

def channel : Submission → Nat
  | .queued _ channel => channel
  | .opening _ channel _ => channel

end Submission

namespace Desktop

/-- The queues that were shown, in order. -/
def shown (d : Desktop) : List (List PendingRequest) :=
  d.log.filterMap HostEvent.shown?

/-- What opening a window would answer. -/
def opened (d : Desktop) : Except Error Nat :=
  (openWindow d).1

/-- Recording an event adds what it shows, if it shows anything. -/
theorem shown_record (e : HostEvent) (d : Desktop) :
    (d.record e).shown = d.shown ++ e.shown?.toList := by
  rw [shown, record, List.filterMap_append]
  rfl

/-- A window that comes shows nothing by itself. What is in the queue is broadcast. -/
theorem openWindow_shown (d : Desktop) : (openWindow d).2.shown = d.shown := by
  simp only [openWindow]
  split
  · rfl
  · split
    · rfl
    · rw [shown_record]
      exact List.append_nil _

theorem requestClose_shown (id : Option Nat) (d : Desktop) :
    (requestClose id d).2.shown = d.shown := by
  simp only [requestClose]
  split
  · rw [shown_record]
    exact List.append_nil _
  · rw [shown_record]
    exact List.append_nil _

/-- A broadcast of the queue shows the queue, even if nobody hears it. -/
theorem broadcast_shown (queue : List PendingRequest) (d : Desktop) :
    (broadcast (.pendingRequests queue) d).2.shown = d.shown ++ [queue] := by
  simp only [broadcast]
  split
  · rw [shown_record]
    rfl
  · rw [shown_record]
    rfl

theorem addListener_shown (d : Desktop) : (addListener d).2.shown = d.shown := by
  simp only [addListener]
  rw [shown_record]
  exact List.append_nil _

theorem removeListener_shown (id : Nat) (d : Desktop) :
    (removeListener id d).2.shown = d.shown := by
  simp only [removeListener]
  rw [shown_record]
  exact List.append_nil _

/-- Whether a window can be opened depends on the faults alone. -/
theorem opened_eq (d : Desktop) : d.opened =
    if d.refusesWindows then .error (.surfaceUnavailable "window creation refused")
    else if d.unreachable then .error (.transport "host is gone")
    else .ok d.nextWindow := by
  simp only [opened, openWindow]
  split
  · rfl
  · split
    · rfl
    · rfl

/-- Asking for a window does not change whether one will come. -/
theorem requestWindow_opened (d : Desktop) : (requestWindow d).2.opened = d.opened := by
  simp only [requestWindow]
  split
  · rw [opened_eq, opened_eq]
    rfl
  · rw [opened_eq, opened_eq]
    rfl

/-- A window that is held back leaves a ticket for it. -/
theorem requestWindow_held {d : Desktop} (h : d.holdsNext = true) :
    (requestWindow d).1 = .ok (some d.nextTicket) ∧ (requestWindow d).2.shown = d.shown := by
  simp only [requestWindow, h, if_true]
  exact ⟨trivial, by rw [← List.append_nil d.shown]; exact shown_record .windowRequested d⟩

/-- A window that is not held back may come at once. -/
theorem requestWindow_free {d : Desktop} (h : d.holdsNext = false) :
    (requestWindow d).1 = .ok none ∧ (requestWindow d).2.shown = d.shown := by
  simp only [requestWindow, h, Bool.false_eq_true, if_false]
  exact ⟨trivial, by rw [← List.append_nil d.shown]; exact shown_record .windowRequested d⟩

/-- What keeps windows from coming. -/
def obstacles (d : Desktop) : Bool × Bool :=
  (d.refusesWindows, d.unreachable)

/-- A window that fails to come does so for what stood in its way before. -/
theorem opened_error {d t : Desktop} {cause : Error} (h : t.obstacles = d.obstacles)
    (hopen : t.opened = .error cause) : d.opened = .error cause := by
  rcases Prod.mk.inj h with ⟨hrefuses, hunreachable⟩
  rw [opened_eq, hrefuses, hunreachable] at hopen
  rw [opened_eq]
  split
  · next hrefused =>
    rw [if_pos hrefused] at hopen
    exact hopen
  · next hrefused =>
    rw [if_neg hrefused] at hopen
    split
    · next hlost =>
      rw [if_pos hlost] at hopen
      exact hopen
    · next hreached =>
      -- Where nothing is in the way there is a window.
      rw [if_neg hreached] at hopen
      cases hopen

end Desktop

namespace Desk

variable {d : Desk}

/-! ## Showing the queue and holding a window -/

/-- What there is to say about an operation of a desk: its outcome, the queue it leaves, and the
queues it showed. -/
structure Does {α : Type} (x : Op Desk α) (d : Desk) (outcome : Except Error α)
    (queue : RequestQueue) (shown : List (List PendingRequest)) : Prop where
  outcome : (x d).1 = outcome
  queue : (x d).2.queue = queue
  shown : (x d).2.desktop.shown = d.desktop.shown ++ shown

namespace Does

variable {α : Type} {x : Op Desk α} {outcome : Except Error α} {queue : RequestQueue}
  {shown : List (List PendingRequest)}

/-- What an operation does, read off its run. -/
theorem of_run {t : Desk} (h : x d = (outcome, t)) (hqueue : t.queue = queue)
    (hshown : t.desktop.shown = d.desktop.shown ++ shown) : Does x d outcome queue shown where
  outcome := by rw [h]
  queue := by rw [h]; exact hqueue
  shown := by rw [h]; exact hshown

/-- And the other way round. -/
theorem run (h : Does x d outcome queue shown) :
    ∃ t : Desk, x d = (outcome, t) ∧ t.queue = queue ∧
      t.desktop.shown = d.desktop.shown ++ shown :=
  ⟨(x d).2, by rw [← h.outcome], h.queue, h.shown⟩

end Does

/-- Whatever the cause, a window that fails to come is told as one that is unavailable. -/
theorem openingFailure_surface (cause : Error) :
    ∃ reason, openingFailure cause = .surfaceUnavailable reason := by
  cases cause with
  | surfaceUnavailable reason => exact ⟨reason, rfl⟩
  | _ => exact ⟨_, rfl⟩

/-- A window that comes is held, and the queue is shown. -/
theorem completeOpening_opened {window : Nat} (h : d.desktop.opened = .ok window) (id : UInt64) :
    ∃ listener, Does (completeOpening id) d (.ok ()) (d.queue.hold window listener)
      [d.queue.requests] := by
  have hshown := Desktop.openWindow_shown d.desktop
  rcases hopen : Desktop.openWindow d.desktop with ⟨outcome, desktop⟩
  simp only [Desktop.opened, hopen] at h hshown
  subst h
  have hrun : completeOpening id d =
      (do holdWindow window; broadcastQueue : Op Desk Unit) { d with desktop } := by
    rw [completeOpening, Op.bind_apply]
    simp only [onDesktop, Op.attempt, Op.zoom, hopen]
  -- Only the message to the windows is shown; registering the listener is not.
  refine ⟨desktop.nextListener, .of_run hrun rfl ?_⟩
  rw [← hshown, ← Desktop.addListener_shown desktop]
  exact Desktop.broadcast_shown _ _

/-- A window that fails to come drops the queue, and the empty queue is shown. -/
theorem completeOpening_refused {cause : Error} (h : d.desktop.opened = .error cause)
    (id : UInt64) : Does (completeOpening id) d (.error (openingFailure cause))
      (d.queue.dropAll id (openingFailure cause)) [[]] := by
  have hshown := Desktop.openWindow_shown d.desktop
  rcases hopen : Desktop.openWindow d.desktop with ⟨outcome, desktop⟩
  simp only [Desktop.opened, hopen] at h hshown
  subst h
  have hrun : completeOpening id d = abandon id cause { d with desktop } := by
    rw [completeOpening, Op.bind_apply]
    simp only [onDesktop, Op.attempt, Op.zoom, hopen]
  refine .of_run hrun rfl ?_
  rw [← hshown]
  exact Desktop.broadcast_shown _ _

theorem onDesktop_obstacles {α : Type} {x : Op Desktop α}
    (h : Op.Within (Op.Same Desktop.obstacles) x) :
    Op.Within (Op.Same fun d : Desk => d.desktop.obstacles) (onDesktop x) :=
  .zoom h fun _ _ h => h

/-- That a window has come changes nothing about the next. -/
theorem completeOpening_obstacles (id : UInt64) :
    Op.Within (Op.Same fun d : Desk => d.desktop.obstacles) (completeOpening id) := by
  have hshow : Op.Within (Op.Same fun d : Desk => d.desktop.obstacles) broadcastQueue := by
    refine .bind .get fun d => ?_
    refine .ignore (onDesktop_obstacles fun desktop => ?_)
    rw [Desktop.broadcast]
    split
    · rfl
    · rfl
  -- Opening and showing get at the windows and the record, not at what stands in the way.
  refine .bind (.attempt (onDesktop_obstacles fun d => ?_)) fun outcome => ?_
  · rw [Desktop.openWindow]
    split
    · rfl
    · split
      · rfl
      · rfl
  · cases outcome with
    | ok window =>
        refine .bind ?_ fun _ => ?_
        · refine .bind (onDesktop_obstacles fun _ => rfl) fun _ => ?_
          exact .modify fun _ => rfl
        · exact hshow
    | error cause =>
        refine .bind (.modify fun _ => rfl) fun _ => ?_
        refine .bind hshow fun _ => ?_
        exact .fail _

/-! ## Putting a question -/

/-- A question that is not the first joins the queue, and the queue is shown. -/
theorem submit_behind (h : d.queue.pending ≠ []) (kind : RequestKind) (payload : Json) :
    Does (submit kind payload) d (.ok (.queued d.queue.nonce d.queue.nextChannel))
      (d.queue.enqueue kind payload) [(d.queue.enqueue kind payload).requests] := by
  have hlong : ¬ (d.queue.enqueue kind payload).pending.length = 1 := by
    rw [RequestQueue.enqueue, List.length_append]
    exact fun hlen => h (List.length_eq_zero_iff.1 (Nat.succ.inj hlen))
  -- No window is asked for: the one that is there will show the question.
  have hrun : submit kind payload d =
      (do broadcastQueue; return .queued d.queue.nonce d.queue.nextChannel : Op Desk Submission)
        { d with queue := d.queue.enqueue kind payload } := by
    simp only [submit, Op.bind_apply, Op.get, onQueue, Op.modify]
    rw [if_neg hlong]
    rfl
  exact .of_run hrun rfl (Desktop.broadcast_shown _ _)

/-- The first question asks for a window; if that is held, its number is all there is so far. -/
theorem submit_held (h : d.queue.pending = []) (hheld : d.desktop.holdsNext = true)
    (kind : RequestKind) (payload : Json) :
    Does (submit kind payload) d
      (.ok (.opening d.queue.nonce d.queue.nextChannel d.desktop.nextTicket))
      (d.queue.enqueue kind payload) [] := by
  have hfirst : (d.queue.enqueue kind payload).pending.length = 1 := by
    rw [RequestQueue.enqueue, h]
    rfl
  -- Asking for a window is all that happens until the host hands it over.
  have hrequest := Desktop.requestWindow_held hheld
  rcases hwin : Desktop.requestWindow d.desktop with ⟨outcome, desktop⟩
  simp only [hwin] at hrequest
  rcases hrequest with ⟨rfl, hshown⟩
  have hrun : submit kind payload d =
      (.ok (.opening d.queue.nonce d.queue.nextChannel d.desktop.nextTicket),
        { d with queue := d.queue.enqueue kind payload, desktop }) := by
    simp only [submit, Op.bind_apply, Op.get, onQueue, Op.modify]
    rw [if_pos hfirst]
    simp only [Op.bind_apply, onDesktop, Op.zoom, hwin]
    rfl
  exact .of_run hrun rfl (hshown.trans (List.append_nil _).symm)

/-- The first question opens its window at once if that is not held. -/
theorem submit_free (h : d.queue.pending = []) (hfree : d.desktop.holdsNext = false)
    (kind : RequestKind) (payload : Json) :
    ∃ t : Desk, t.queue = d.queue.enqueue kind payload ∧ t.desktop.shown = d.desktop.shown ∧
      t.desktop.opened = d.desktop.opened ∧
      submit kind payload d = (do
        completeOpening d.queue.nonce
        return .queued d.queue.nonce d.queue.nextChannel : Op Desk Submission) t := by
  -- It is the first in the queue, so it is the one that asks for the window.
  have hfirst : (d.queue.enqueue kind payload).pending.length = 1 := by
    rw [RequestQueue.enqueue, h]
    rfl
  have hrequest := Desktop.requestWindow_free hfree
  have hopened := Desktop.requestWindow_opened d.desktop
  rcases hwin : Desktop.requestWindow d.desktop with ⟨outcome, desktop⟩
  simp only [hwin] at hrequest hopened
  rcases hrequest with ⟨rfl, hshown⟩
  refine ⟨{ d with queue := d.queue.enqueue kind payload, desktop }, rfl, hshown, hopened, ?_⟩
  simp only [submit, Op.bind_apply, Op.get, onQueue, Op.modify]
  rw [if_pos hfirst]
  simp only [Op.bind_apply, onDesktop, Op.zoom, hwin]

/-- The first question, if its window comes at once. -/
theorem submit_opened {window : Nat} (h : d.queue.pending = [])
    (hfree : d.desktop.holdsNext = false) (hopen : d.desktop.opened = .ok window)
    (kind : RequestKind) (payload : Json) :
    ∃ listener, Does (submit kind payload) d (.ok (.queued d.queue.nonce d.queue.nextChannel))
      ((d.queue.enqueue kind payload).hold window listener)
      [(d.queue.enqueue kind payload).requests] := by
  rcases submit_free h hfree kind payload with ⟨t, hqueue, hshown, hopened, hrun⟩
  rcases completeOpening_opened (hopened.trans hopen) d.queue.nonce with ⟨listener, hdoes⟩
  rcases hdoes.run with ⟨u, hc, hleft, hlog⟩
  rw [Op.bind_ok hc] at hrun
  rw [hqueue] at hleft hlog
  rw [hshown] at hlog
  exact ⟨listener, .of_run hrun hleft hlog⟩

/-- The first question, if its window fails to come at once: it is gone again. -/
theorem submit_refused {cause : Error} (h : d.queue.pending = [])
    (hfree : d.desktop.holdsNext = false) (hopen : d.desktop.opened = .error cause)
    (kind : RequestKind) (payload : Json) :
    Does (submit kind payload) d (.error (openingFailure cause))
      ((d.queue.enqueue kind payload).dropAll d.queue.nonce (openingFailure cause)) [[]] := by
  rcases submit_free h hfree kind payload with ⟨t, hqueue, hshown, hopened, hrun⟩
  have hdoes := completeOpening_refused (hopened.trans hopen) d.queue.nonce
  rcases hdoes.run with ⟨u, hc, hleft, hlog⟩
  rw [Op.bind_error hc] at hrun
  rw [hqueue] at hleft
  rw [hshown] at hlog
  exact .of_run hrun hleft hlog

/-- Putting a question: it has joined the queue, which may hold a new window, or it was alone there
and is gone again because its window failed to come. It waits for a window of its own only if it is
the first in the queue. -/
theorem submit_cases (d : Desk) (kind : RequestKind) (payload : Json) :
    (∃ s popup listener shown,
      Does (submit kind payload) d (.ok s)
        { d.queue.enqueue kind payload with popup, listener } shown ∧
      s.id = d.queue.nonce ∧ s.channel = d.queue.nextChannel ∧
      (∀ queue ∈ shown, queue = (d.queue.enqueue kind payload).requests) ∧
      (s = .queued d.queue.nonce d.queue.nextChannel ∨ d.queue.pending = [])) ∨
    ∃ cause, d.queue.pending = [] ∧ d.desktop.opened = .error cause ∧
      Does (submit kind payload) d (.error (openingFailure cause))
        ((d.queue.enqueue kind payload).dropAll d.queue.nonce (openingFailure cause)) [[]] := by
  by_cases hempty : d.queue.pending = []
  · rcases hheld : d.desktop.holdsNext with _ | _
    · -- The window is asked for and comes, or fails, within the submission.
      rcases hopen : d.desktop.opened with cause | window
      · exact .inr ⟨cause, hempty, rfl, submit_refused hempty hheld hopen kind payload⟩
      · rcases submit_opened hempty hheld hopen kind payload with ⟨listener, hdoes⟩
        exact .inl ⟨_, some window, some listener, _, hdoes, rfl, rfl,
          fun queue hq => List.mem_singleton.1 hq, .inl rfl⟩
    -- The window is asked for and does not come yet.
    · exact .inl ⟨_, d.queue.popup, d.queue.listener, _, submit_held hempty hheld kind payload, rfl,
        rfl, fun queue hq => absurd hq List.not_mem_nil, .inr hempty⟩
  · exact .inl ⟨_, d.queue.popup, d.queue.listener, _, submit_behind hempty kind payload, rfl, rfl,
      fun queue hq => List.mem_singleton.1 hq, .inl rfl⟩

/-! ## Closing a window -/

/-- The queue is as it was, or its window was closed and everything in it was rejected. -/
def ClosesAtMost (window : Nat) (d t : Desk) : Prop :=
  t.desktop.shown = d.desktop.shown ∧
    (t.queue = d.queue ∨ (d.queue.popup = some window ∧ t.queue = d.queue.rejectAll))

/-- A window that is not the one of the queue may be closed without a question noticing. -/
theorem surfaceClosed_other {window : Nat} (h : d.queue.popup ≠ some window) :
    surfaceClosed window d = (.ok (), d) := by
  simp only [surfaceClosed, Op.bind_apply, Op.get]
  rw [if_neg h]
  rfl

/-- If it is the one of the queue, all questions are rejected. -/
theorem surfaceClosed_own {window : Nat} (h : d.queue.popup = some window) :
    Does (surfaceClosed window) d (.ok ()) d.queue.rejectAll [] := by
  -- The listener goes with the window, if one was registered.
  rcases hl : d.queue.listener with _ | listener
  · have hrun : surfaceClosed window d = (.ok (), { d with queue := d.queue.rejectAll }) := by
      simp only [surfaceClosed, Op.bind_apply, Op.get]
      rw [if_pos h]
      simp only [hl, Op.bind_apply, onQueue, Op.modify]
      rfl
    exact .of_run hrun rfl (List.append_nil _).symm
  · have hrun : surfaceClosed window d = (.ok (), { d with
        queue := d.queue.rejectAll
        desktop := (Desktop.removeListener listener d.desktop).2 }) := by
      simp only [surfaceClosed, Op.bind_apply, Op.get]
      rw [if_pos h]
      simp only [hl, Op.bind_apply, onQueue, Op.modify]
      rfl
    refine .of_run hrun rfl ?_
    rw [List.append_nil]
    exact Desktop.removeListener_shown listener d.desktop

theorem surfaceClosed_queue (window : Nat) (d : Desk) :
    ClosesAtMost window d (surfaceClosed window d).2 := by
  by_cases h : d.queue.popup = some window
  · have hdoes := surfaceClosed_own h
    exact ⟨by rw [hdoes.shown, List.append_nil], .inr ⟨h, hdoes.queue⟩⟩
  · rw [surfaceClosed_other h]
    exact ⟨rfl, .inl rfl⟩

/-- A window that was closed cannot close a queue that has no window any more. -/
theorem ClosesAtMost.trans {window : Nat} {t u : Desk} (h : ClosesAtMost window d t)
    (k : ClosesAtMost window t u) : ClosesAtMost window d u := by
  refine ⟨k.1.trans h.1, ?_⟩
  rcases h.2 with hsame | ⟨hown, hrejected⟩
  · rcases k.2 with hagain | ⟨hheld, hrejected⟩
    · exact .inl (hagain.trans hsame)
    · exact .inr ⟨hsame ▸ hheld, hsame ▸ hrejected⟩
  · rcases k.2 with hagain | ⟨hheld, _⟩
    · exact .inr ⟨hown, hagain.trans hrejected⟩
    · -- The queue has let go of its window, so no second listener finds it held.
      rw [hrejected] at hheld
      cases hheld

/-- By induction on the listeners: the questions are rejected once at most. -/
theorem callListeners_queue (window : Nat) (listeners : List CloseListener) (d : Desk) :
    ClosesAtMost window d (callListeners window listeners d).2 := by
  -- Each listener closes at most, and closing twice is closing once.
  induction listeners generalizing d with
  | nil => exact ⟨rfl, .inl rfl⟩
  | cons l rest ih =>
    rw [callListeners]
    by_cases hlive : l.live = true
    · have hstep := surfaceClosed_queue window d
      rcases hc : surfaceClosed window d with ⟨outcome, t⟩
      rw [hc] at hstep
      rw [if_pos hlive, Op.bind_apply, hc]
      cases outcome with
      | ok => exact hstep.trans (ih t)
      | error => exact hstep
    · rw [if_neg hlive]
      exact ih d

/-- A window that the host has closed does to the queue what its listeners do. -/
theorem windowClosed_queue (window : Nat) (d : Desk) :
    ClosesAtMost window d (windowClosed window d).2 :=
  callListeners_queue window d.desktop.listeners d

/-- Closing a window rejects the queue at most, and only if the queue is shown in that window. -/
theorem closeWindow_queue (id : Option Nat) (d : Desk) :
    ∃ window, ClosesAtMost window d (closeWindow id d).2 := by
  have hshown := Desktop.requestClose_shown id d.desktop
  rcases hc : Desktop.requestClose id d.desktop with ⟨outcome, desktop⟩
  rw [hc] at hshown
  -- The host fails, or closes nothing, or closes a window and calls the listeners.
  rcases outcome with e | _ | window
  · refine ⟨0, ?_, .inl ?_⟩
    · simp only [closeWindow, Op.bind_apply, onDesktop, Op.zoom, hc]
      exact hshown
    · simp only [closeWindow, Op.bind_apply, onDesktop, Op.zoom, hc]
  · refine ⟨0, ?_, .inl ?_⟩
    · simp only [closeWindow, Op.bind_apply, onDesktop, Op.zoom, hc]
      exact hshown
    · simp only [closeWindow, Op.bind_apply, onDesktop, Op.zoom, hc]
      rfl
  · have hrun : closeWindow id d = windowClosed window { d with desktop } := by
      simp only [closeWindow, Op.bind_apply, onDesktop, Op.zoom, hc]
    have hclosed := windowClosed_queue window { d with desktop }
    refine ⟨window, ?_, ?_⟩
    · rw [hrun]
      exact hclosed.1.trans hshown
    · rw [hrun]
      exact hclosed.2

/-- A queue that holds no window is not changed by the closing of one. -/
theorem closeWindow_unheld (h : d.queue.popup = none) (id : Option Nat) :
    (closeWindow id d).2.queue = d.queue ∧
      (closeWindow id d).2.desktop.shown = d.desktop.shown := by
  rcases closeWindow_queue id d with ⟨window, hshown, hsame | ⟨hheld, _⟩⟩
  · exact ⟨hsame, hshown⟩
  · rw [h] at hheld
    cases hheld

/-! ## Deciding a question -/

/-- A decision on a number that is not in the queue changes nothing. -/
theorem finalize_unknown {request : FinalizeRequest} (h : d.queue.find? request.id = none) :
    finalize request d = (.ok false, d) := by
  simp only [finalize, Op.bind_apply, Op.get, h]
  rfl

/-- Letting go of the window has no effect on the queue, nor on what was shown. -/
theorem dismiss_unheld (h : d.queue.popup = none) (queue : RequestQueue) :
    (dismiss queue d).1 = .ok () ∧ (dismiss queue d).2.queue = d.queue ∧
      (dismiss queue d).2.desktop.shown = d.desktop.shown := by
  rcases hl : queue.listener with _ | listener
  · have hrun : dismiss queue d = (.ok (), (closeWindow queue.popup d).2) := by
      simp only [dismiss, hl]
      rfl
    rw [hrun]
    exact ⟨rfl, closeWindow_unheld h queue.popup⟩
  · have hrun : dismiss queue d = (.ok (), (closeWindow queue.popup { d with
        desktop := (Desktop.removeListener listener d.desktop).2 }).2) := by
      simp only [dismiss, hl]
      rfl
    rw [hrun]
    rcases closeWindow_unheld (d := { d with
      desktop := (Desktop.removeListener listener d.desktop).2 }) h queue.popup with ⟨hq, hs⟩
    exact ⟨rfl, hq, hs.trans (Desktop.removeListener_shown listener d.desktop)⟩

/-- A decision on a question settles it and shows the queue. Only then, and only if the queue has
run empty, is the window closed. -/
theorem finalize_found {request : FinalizeRequest} {entry : QueuedRequest}
    (h : d.queue.find? request.id = some entry) :
    finalize request d = (if (d.queue.dequeue entry.id).pending.isEmpty then
      (do dismiss d.queue; return true) else return true : Op Desk Bool)
        (broadcastQueue { d with
          queue := d.queue.settle entry (request.status.outcome request.data) }).2 := by
  simp only [finalize, Op.bind_apply, Op.get, h, onQueue, Op.modify]
  rfl

/-- A decision settles the first question of its number, and the queue is shown. -/
theorem finalize_known {request : FinalizeRequest} {entry : QueuedRequest}
    (h : d.queue.find? request.id = some entry) :
    Does (finalize request) d (.ok true)
      (d.queue.settle entry (request.status.outcome request.data))
      [(d.queue.settle entry (request.status.outcome request.data)).requests] := by
  let outcome := request.status.outcome request.data
  let t : Desk := (broadcastQueue { d with queue := d.queue.settle entry outcome }).2
  have hlog : t.desktop.shown = d.desktop.shown ++ [(d.queue.settle entry outcome).requests] :=
    Desktop.broadcast_shown _ _
  have hrun : finalize request d = (if (d.queue.dequeue entry.id).pending.isEmpty then
      (do dismiss d.queue; return true) else return true : Op Desk Bool) t := finalize_found h
  -- Only a queue that ran empty closes its window.
  by_cases hlast : (d.queue.dequeue entry.id).pending.isEmpty = true
  · -- The queue ran empty and let go of its window before that is closed.
    have hlet : t.queue.popup = none := by
      change (d.queue.settle entry outcome).popup = none
      rw [RequestQueue.settle, if_pos hlast]
      rfl
    rcases dismiss_unheld hlet d.queue with ⟨hok, hqueue, hshown⟩
    rcases hd : dismiss d.queue t with ⟨result, u⟩
    rw [hd] at hok hqueue hshown
    simp only at hok
    subst hok
    rw [if_pos hlast, Op.bind_ok hd] at hrun
    exact .of_run hrun hqueue (hshown.trans hlog)
  · rw [if_neg hlast, Op.pure_apply] at hrun
    exact .of_run hrun rfl hlog

end Desk

end WalletTrust

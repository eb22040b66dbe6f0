import WalletTrust.Proofs.DeskRun

/-!
# No Question Is Stranded

Whoever waits in the queue can still be answered.

A question is seen in a window only, and the queue asks for a window once, with its first question.
So a queue that is not empty has to hold a window already, or one has to be on its way to it. The
danger is in the windows that come late. The question for which a window was asked may be decided
before the window comes, another question may ask for a window of its own, and the two windows may
come or fail in either order, each in place of what the queue holds by then. What saves the queue is
that it gives up its window only when it runs empty, and that a window that fails empties it.

A window is of use only with a listener, through which the queue hears that it was closed. The two
are taken up together and given up together, and the host keeps the listener registered in between.

## Main definitions

* `Desk.Watched`: A window is held together with a listener, and the host knows the listener.
* `DeskState.Attended`: Moreover, a queue that is not empty holds a window, or one is on its way.
* `DeskRun.Remembers`: What happens elsewhere takes no listener away.
* `DeskRun.Answerable`: The ways in which the questions in the queue can be answered.

## Theorems

* `Desk.submit_watchful`, `Desk.completeOpening_watchful`, `Desk.windowClosed_watchful`,
  `Desk.finalize_watchful`: What a desk does keeps its queue watched.
* `DeskMove.step_attended`: A move leaves no question behind.
* `DeskRun.answerable`: At every moment of a run, whoever is in the queue can be answered.
* `DeskRun.attended`: At every moment of a run the queue is attended to.
* `Desk.Watched.windowClosed`: The window of a queue that is watched can be closed, and that rejects
  every question.
* `DeskRun.answered_of_rejectAll`, `DeskRun.answered_of_finalize`, `DeskRun.eq_of_id`: Whoever waits
  is answered when the window is closed, and can be answered by number.
-/

namespace WalletTrust

open Op (Within)

/-! ## Listeners -/

namespace Desktop

/-- An operation that leaves the listeners as they are. -/
abbrev KeepsListeners {α : Type} (x : Op Desktop α) : Prop :=
  Within (Op.Same listeners) x

/-- A window that is asked for changes no listener. -/
theorem requestWindow_listeners : KeepsListeners requestWindow := by
  intro d
  simp only [requestWindow]
  split
  · rfl
  · rfl

theorem openWindow_listeners : KeepsListeners openWindow := by
  intro d
  simp only [openWindow]
  split
  · rfl
  · split
    · rfl
    · rfl

theorem broadcast_listeners (message : ExtensionMessage) : KeepsListeners (broadcast message) := by
  intro d
  simp only [broadcast]
  split
  · rfl
  · rfl

end Desktop

namespace Desk

variable {α : Type} {d : Desk}

/-- The queue holds a window exactly if it holds a listener, and the host knows the listener. -/
structure Watched (d : Desk) : Prop where
  paired : d.queue.popup.isSome = d.queue.listener.isSome
  registered : ∀ id, d.queue.listener = some id → { id } ∈ d.desktop.listeners

/-- A queue that was watched is watched afterwards. -/
def StaysWatched (d t : Desk) : Prop :=
  d.Watched → t.Watched

instance : Std.Refl StaysWatched := ⟨fun _ => id⟩

instance : Trans StaysWatched StaysWatched StaysWatched := ⟨fun h k => k ∘ h⟩

/-- An operation that keeps a queue watched. -/
abbrev Watchful (x : Op Desk α) : Prop :=
  Within StaysWatched x

/-- A queue that holds neither a window nor a listener has nothing to be watched for. -/
theorem watched_of_unheld (hpopup : d.queue.popup = none) (hlistener : d.queue.listener = none) :
    d.Watched where
  paired := by rw [hpopup, hlistener]
  registered := fun id h => by rw [hlistener] at h; cases h

/-- Who leaves the listeners alone leaves the window watched. -/
theorem onDesktop_watchful {x : Op Desktop α} (hx : Desktop.KeepsListeners x) :
    Watchful (onDesktop x) :=
  .zoom hx fun _ desktop hsame hd => {
    paired := hd.paired
    registered := fun id h => by
      have hlisteners : desktop.listeners = _ := hsame
      rw [hlisteners]
      exact hd.registered id h }

/-- And so does whoever leaves the window and its listener to the queue. -/
theorem onQueue_watchful {f : RequestQueue → RequestQueue} (hpopup : ∀ q, (f q).popup = q.popup)
    (hlistener : ∀ q, (f q).listener = q.listener) : Watchful (onQueue f) :=
  .modify fun d hd => {
    paired := by rw [hpopup, hlistener]; exact hd.paired
    registered := fun id h => hd.registered id ((hlistener d.queue).symm.trans h) }

theorem broadcastQueue_watchful : Watchful broadcastQueue := by
  unfold broadcastQueue
  refine .bind .get fun _ => ?_
  exact .ignore (onDesktop_watchful (Desktop.broadcast_listeners _))

/-- A question that is given up leaves the others with their window. -/
theorem abandon_watchful (id : UInt64) (cause : Error) :
    Watchful (abandon id cause : Op Desk α) := by
  unfold abandon
  refine .bind (onQueue_watchful (fun _ => rfl) fun _ => rfl) fun _ => ?_
  refine .bind broadcastQueue_watchful fun _ => ?_
  exact .fail _

/-- A window is held together with a listener that has just been registered for it. -/
theorem holdWindow_watchful (window : Nat) : Watchful (holdWindow window) := by
  intro d _
  exact {
    paired := rfl
    registered := fun id h => by
      rcases Option.some.inj h
      exact List.mem_append_right _ (List.mem_singleton_self _) }

/-- A window that comes is held with a listener that is registered in the same step. -/
theorem completeOpening_watchful (id : UInt64) : Watchful (completeOpening id) := by
  unfold completeOpening
  refine .bind (.attempt (onDesktop_watchful Desktop.openWindow_listeners)) fun outcome => ?_
  cases outcome with
  | ok window =>
      refine .bind (holdWindow_watchful window) fun _ => ?_
      exact broadcastQueue_watchful
  | error cause => exact abandon_watchful id cause

theorem submit_watchful (kind : RequestKind) (payload : Json) : Watchful (submit kind payload) := by
  unfold submit
  refine .bind .get fun before => ?_
  refine .bind (onQueue_watchful (fun _ => rfl) fun _ => rfl) fun _ => ?_
  refine .bind .get fun after => ?_
  refine .ite (fun _ => ?_) fun _ => ?_
  · refine .bind (onDesktop_watchful Desktop.requestWindow_listeners) fun ticket => ?_
    cases ticket with
    | some ticket => exact .pure _
    | none =>
        refine .bind (completeOpening_watchful _) fun _ => ?_
        exact .pure _
  · refine .bind broadcastQueue_watchful fun _ => ?_
    exact .pure _

/-- A window that is given up need not be watched. -/
theorem surfaceClosed_watchful (window : Nat) : Watchful (surfaceClosed window) := by
  intro d hd
  by_cases h : d.queue.popup = some window
  · -- The listener is taken away, but the queue has let go of it by then.
    have hqueue := (surfaceClosed_own h).queue
    exact watched_of_unheld (by rw [hqueue]; rfl) (by rw [hqueue]; rfl)
  · rw [surfaceClosed_other h]
    exact hd

/-- By induction on the listeners. -/
theorem callListeners_watchful (window : Nat) (listeners : List CloseListener) :
    Watchful (callListeners window listeners) := by
  induction listeners with
  | nil => exact .pure _
  | cons l rest ih =>
      refine .ite (fun _ => ?_) fun _ => ?_
      · refine .bind (surfaceClosed_watchful window) fun _ => ?_
        exact ih
      · exact ih

theorem windowClosed_watchful (window : Nat) : Watchful (windowClosed window) := by
  unfold windowClosed
  refine .bind .get fun d => ?_
  exact callListeners_watchful window d.desktop.listeners

/-- The last answer gives the window up, and every other one leaves it watched. -/
theorem finalize_watchful (request : FinalizeRequest) : Watchful (finalize request) := by
  intro d hd
  rcases hfind : d.queue.find? request.id with _ | entry
  · rw [finalize_unknown hfind]
    exact hd
  · by_cases hlast : (d.queue.dequeue entry.id).pending.isEmpty = true
    · -- The queue ran empty and let go of its window, whatever the host makes of closing it.
      have hqueue := (finalize_known hfind).queue
      rw [RequestQueue.settle, if_pos hlast] at hqueue
      exact watched_of_unheld (by rw [hqueue]; rfl) (by rw [hqueue]; rfl)
    · rw [finalize_found hfind, if_neg hlast, Op.pure_apply]
      refine broadcastQueue_watchful _ ⟨?_, ?_⟩
      · rw [RequestQueue.settle, if_neg hlast]
        exact hd.paired
      · rw [RequestQueue.settle, if_neg hlast]
        exact hd.registered

/-! ## Closing the window that is held -/

/-- A listener that is live hears of the window that the queue holds, and the queue is rejected. -/
theorem callListeners_held {window : Nat} {listeners : List CloseListener}
    (hheld : d.queue.popup = some window) (hlive : ∃ l ∈ listeners, l.live = true) :
    (callListeners window listeners d).2.queue = d.queue.rejectAll := by
  induction listeners with
  | nil =>
      rcases hlive with ⟨_, hmem, _⟩
      exact absurd hmem List.not_mem_nil
  | cons l rest ih =>
      rw [callListeners]
      by_cases hl : l.live = true
      · rcases (surfaceClosed_own hheld).run with ⟨t, hrun, hqueue, _⟩
        rw [if_pos hl, Op.bind_ok hrun]
        -- The listeners that come after it find no window held.
        rcases (callListeners_queue window rest t).2 with hsame | ⟨hagain, _⟩
        · exact hsame.trans hqueue
        · rw [hqueue] at hagain
          cases hagain
      · rw [if_neg hl]
        refine ih ?_
        rcases hlive with ⟨k, hmem, hk⟩
        rcases List.mem_cons.1 hmem with rfl | hrest
        · exact absurd hk hl
        · exact ⟨k, hrest, hk⟩

/-- The window of a queue that is watched can be closed, and that rejects every question. -/
theorem Watched.windowClosed {window : Nat} (hd : d.Watched)
    (hheld : d.queue.popup = some window) :
    (Desk.windowClosed window d).2.queue = d.queue.rejectAll := by
  have hpaired := hd.paired
  rw [hheld] at hpaired
  rcases Option.isSome_iff_exists.1 hpaired.symm with ⟨id, hlistener⟩
  exact callListeners_held hheld ⟨_, hd.registered id hlistener, rfl⟩

end Desk

/-! ## Moves -/

/-- The queue is watched, and if it is not empty it holds a window, or one is on its way. -/
structure DeskState.Attended (s : DeskState) : Prop extends s.desk.Watched where
  attended : s.desk.queue.pending ≠ [] → s.desk.queue.popup.isSome ∨ s.opening ≠ []

namespace DeskMove

variable {s : DeskState}

/-- A window that is held is watched through every move, as long as what happens elsewhere takes no
listener away. -/
theorem step_watched {m : DeskMove} (hm : ∀ change, m = .elsewhere change →
    s.desk.desktop.listeners ⊆ (change s.desk.desktop).listeners) (hs : s.desk.Watched) :
    (m.step s).2.desk.Watched := by
  cases m with
  | submit kind payload => exact Desk.submit_watchful kind payload s.desk hs
  | windowComes channel =>
      simp only [step]
      split
      · exact hs
      · exact Desk.completeOpening_watchful _ s.desk hs
  | finalize request => exact Desk.finalize_watchful request s.desk hs
  | windowClosed window => exact Desk.windowClosed_watchful window s.desk hs
  | reportClosed window => exact Desk.surfaceClosed_watchful window s.desk hs
  | elsewhere change =>
      exact ⟨hs.paired, fun id h => hm change rfl (hs.registered id h)⟩

/-- The first question has a window opened, or waits for one that is on its way. -/
theorem submit_attended (kind : RequestKind) (payload : Json)
    (hs : s.desk.queue.pending ≠ [] → s.desk.queue.popup.isSome ∨ s.opening ≠ []) :
    let t := ((DeskMove.submit kind payload).step s).2
    t.desk.queue.pending ≠ [] → t.desk.queue.popup.isSome ∨ t.opening ≠ [] := by
  intro t hpending
  -- The first in the queue brings its own window.
  by_cases hempty : s.desk.queue.pending = []
  · rcases hheld : s.desk.desktop.holdsNext with _ | _
    · rcases hopen : s.desk.desktop.opened with cause | window
      · -- The window fails at once, and the queue is empty again.
        have hqueue := (Desk.submit_refused hempty hheld hopen kind payload).queue
        exact absurd (congrArg RequestQueue.pending hqueue) hpending
      · rcases Desk.submit_opened hempty hheld hopen kind payload with ⟨listener, hdoes⟩
        refine .inl ?_
        have hqueue : t.desk.queue = _ := hdoes.queue
        rw [hqueue]
        rfl
    · refine .inr ?_
      have houtcome := (Desk.submit_held hempty hheld kind payload).outcome
      have hopening : t.opening =
          s.opening ++ Submission.opener? (Desk.submit kind payload s.desk).1 := rfl
      rw [hopening, houtcome]
      exact List.append_ne_nil_of_right_ne_nil _ (List.cons_ne_nil _ _)
  · -- Whatever the others in the queue are shown in, the new one is shown in too.
    have hdoes := Desk.submit_behind hempty kind payload
    have hqueue : t.desk.queue = _ := hdoes.queue
    have hopening : t.opening =
        s.opening ++ Submission.opener? (Desk.submit kind payload s.desk).1 := rfl
    rw [hqueue, hopening, hdoes.outcome]
    refine (hs hempty).imp id fun h => ?_
    simpa only [Submission.opener?, List.append_nil] using h

/-- A window that comes late is held, and one that fails empties the queue. -/
theorem windowComes_attended (channel : Nat)
    (hs : s.desk.queue.pending ≠ [] → s.desk.queue.popup.isSome ∨ s.opening ≠ []) :
    let t := ((DeskMove.windowComes channel).step s).2
    t.desk.queue.pending ≠ [] → t.desk.queue.popup.isSome ∨ t.opening ≠ [] := by
  intro t hpending
  rcases hfind : s.opening.find? fun o => o.2 = channel with _ | opener
  · have hsame : t = s := by simp only [t, step, hfind]
    rw [hsame] at hpending ⊢
    exact hs hpending
  · have hdesk : t.desk = (Desk.completeOpening opener.1 s.desk).2 := by
      simp only [t, step, hfind]
    -- The window is there for all, or all are dropped.
    rcases hopen : s.desk.desktop.opened with cause | window
    · have hqueue := (Desk.completeOpening_refused hopen opener.1).queue
      rw [hdesk, hqueue] at hpending
      exact absurd rfl hpending
    · rcases Desk.completeOpening_opened hopen opener.1 with ⟨listener, hdoes⟩
      refine .inl ?_
      rw [hdesk, hdoes.queue]
      rfl

/-- A decision or a window that is closed empties the queue or leaves its window alone. -/
theorem rest_attended {t : DeskState} (hopening : t.opening = s.opening)
    (h : t.desk.queue.pending = [] ∨ (t.desk.queue.popup = s.desk.queue.popup ∧
      (t.desk.queue.pending ≠ [] → s.desk.queue.pending ≠ [])))
    (hs : s.desk.queue.pending ≠ [] → s.desk.queue.popup.isSome ∨ s.opening ≠ [])
    (hpending : t.desk.queue.pending ≠ []) : t.desk.queue.popup.isSome ∨ t.opening ≠ [] := by
  rcases h with hempty | ⟨hpopup, hbefore⟩
  · exact absurd hempty hpending
  · rw [hpopup, hopening]
    exact hs (hbefore hpending)

/-- A window that is closed leaves an empty queue, or it was not the one that is held. -/
theorem closes_rest {d t : Desk} {window : Nat} (h : Desk.ClosesAtMost window d t) :
    t.queue.pending = [] ∨ (t.queue.popup = d.queue.popup ∧
      (t.queue.pending ≠ [] → d.queue.pending ≠ [])) := by
  rcases h.2 with hsame | ⟨_, hrejected⟩
  · exact .inr ⟨by rw [hsame], by rw [hsame]; exact id⟩
  · exact .inl (by rw [hrejected]; rfl)

/-- An answer leaves an empty queue, or the window that was held. -/
theorem finalize_rest (request : FinalizeRequest) (d : Desk) :
    (Desk.finalize request d).2.queue.pending = [] ∨
      ((Desk.finalize request d).2.queue.popup = d.queue.popup ∧
        ((Desk.finalize request d).2.queue.pending ≠ [] → d.queue.pending ≠ [])) := by
  rcases hfind : d.queue.find? request.id with _ | entry
  · rw [Desk.finalize_unknown hfind]
    exact .inr ⟨rfl, id⟩
  · rw [(Desk.finalize_known hfind).queue, RequestQueue.settle]
    split
    · next hlast => exact .inl (List.isEmpty_iff.1 hlast)
    · exact .inr ⟨rfl, fun _ => List.ne_nil_of_mem (RequestQueue.mem_of_find? hfind).1⟩

/-- A move leaves no question behind. -/
theorem step_attended {m : DeskMove} (hm : ∀ change, m = .elsewhere change →
    s.desk.desktop.listeners ⊆ (change s.desk.desktop).listeners) (hs : s.Attended) :
    (m.step s).2.Attended := by
  refine { toWatched := step_watched hm hs.toWatched, attended := ?_ }
  cases m with
  | submit kind payload => exact submit_attended kind payload hs.attended
  | windowComes channel => exact windowComes_attended channel hs.attended
  | finalize request => exact rest_attended (s := s) rfl (finalize_rest request s.desk) hs.attended
  | windowClosed window =>
      have hcloses := closes_rest (Desk.windowClosed_queue window s.desk)
      exact rest_attended (s := s) rfl hcloses hs.attended
  | reportClosed window =>
      have hcloses := closes_rest (Desk.surfaceClosed_queue window s.desk)
      exact rest_attended (s := s) rfl hcloses hs.attended
  | elsewhere change => exact hs.attended

end DeskMove

/-! ## Runs -/

namespace DeskRun

variable (run : DeskRun)

/-- What happens elsewhere takes no listener away. -/
def Remembers : Prop :=
  ∀ t change, run.move t = .elsewhere change →
    (run.desk t).desktop.listeners ⊆ (change (run.desk t).desktop).listeners

/-- The question leaves the queue by an operation, and its channel has the answer then. -/
def AnsweredBy {α : Type} (t : Nat) (e : QueuedRequest) (x : Op Desk α)
    (outcome : Option (Except Error Json)) : Prop :=
  RequestQueue.LeftWith outcome e.channel (run.queue t) (x (run.desk t)).2.queue

/-- Whoever is in the queue is shown or about to be, and can be answered. -/
structure Answerable (t : Nat) : Prop where
  /-- A window is held exactly if a listener is. -/
  paired : (run.queue t).popup.isSome ↔ (run.queue t).listener.isSome
  /-- The host knows the listener of the window that is held, or a window is on its way. -/
  attended : (run.queue t).pending ≠ [] →
    (∃ window listener, (run.queue t).popup = some window ∧
      (run.queue t).listener = some listener ∧
      { id := listener } ∈ (run.desk t).desktop.listeners) ∨ (run.state t).opening ≠ []
  /-- Closing the window that is held rejects every question. -/
  closing : ∀ window, (run.queue t).popup = some window → ∀ e ∈ (run.queue t).pending,
    run.AnsweredBy t e (Desk.windowClosed window) (some (.error .userRejected))
  /-- A window on its way that fails takes every question with it. Whoever asked for the window is
  told by the call that asked. -/
  failing : ∀ opener ∈ (run.state t).opening, ∀ cause, (run.desk t).desktop.opened = .error cause →
    (Desk.completeOpening opener.1 (run.desk t)).1 = .error (Desk.openingFailure cause) ∧
    ∀ e ∈ (run.queue t).pending, run.AnsweredBy t e (Desk.completeOpening opener.1)
      (if e.id = opener.1 then none else some (.error (Desk.openingFailure cause)))
  /-- A decision on the number of a question answers a question of that number, and this one if the
  numbers have not begun anew. -/
  deciding : ∀ e ∈ (run.queue t).pending, ∀ status data, ∃ f ∈ (run.queue t).pending, f.id = e.id ∧
    (run.submissions t < UInt64.size → f = e) ∧
    (Desk.finalize { id := e.id, status, data } (run.desk t)).1 = .ok true ∧
    run.AnsweredBy t f (Desk.finalize { id := e.id, status, data }) (some (status.outcome data))

variable {run} {t : Nat} {e : QueuedRequest}

/-- By induction on the moves: whoever waits is attended to. -/
theorem attended (hrun : run.Remembers) (t : Nat) : (run.state t).Attended := by
  induction t with
  | zero =>
      exact {
        paired := rfl
        registered := fun _ h => by cases h
        attended := fun h => absurd rfl h }
  | succ t ih => exact DeskMove.step_attended (hrun t) ih

/-- Whoever rejects all questions answers each of them with the rejection. -/
theorem answered_of_rejectAll {α : Type} {x : Op Desk α} (he : e ∈ (run.queue t).pending)
    (h : (x (run.desk t)).2.queue = (run.queue t).rejectAll) :
    run.AnsweredBy t e x (some (.error .userRejected)) := by
  have hq := run.queue_sound t
  rw [AnsweredBy, h]
  rcases RequestQueue.rejectAll_at hq e.channel with hleft | ⟨hnone, _⟩
  · exact hleft
  · cases (hq.waiter?_of_mem he).symm.trans hnone

/-- Whoever drops all of them for one whose window has failed answers each of the others with the
failure. -/
theorem answered_of_dropAll {α : Type} {x : Op Desk α} {id : UInt64} {failure : Error}
    (he : e ∈ (run.queue t).pending)
    (h : (x (run.desk t)).2.queue = (run.queue t).dropAll id failure) :
    run.AnsweredBy t e x (if e.id = id then none else some (.error failure)) := by
  have hq := run.queue_sound t
  rw [AnsweredBy, h]
  rcases RequestQueue.dropAll_at hq id failure e.channel with ⟨f, hf, hleft⟩ | ⟨hnone, _⟩
  · rcases Option.some.inj ((hq.waiter?_of_mem he).symm.trans hf)
    exact hleft
  · cases (hq.waiter?_of_mem he).symm.trans hnone

/-- While there are enough words, a number finds its question. -/
theorem eq_of_id (hfew : run.submissions t < UInt64.size) {f : QueuedRequest}
    (he : e ∈ (run.queue t).pending) (hf : f ∈ (run.queue t).pending) (hid : f.id = e.id) :
    f = e := by
  have hchannel : f.channel = e.channel := by
    rw [← id_toNat hfew hf, ← id_toNat hfew he, hid]
  exact List.inj_on_of_nodup_map (run.queue_sound t).nodup_channels hf he hchannel

/-- Whoever waits can be answered by its number. -/
theorem answered_of_finalize (he : e ∈ (run.queue t).pending) (status : Decision)
    (data : Option Json) : ∃ f ∈ (run.queue t).pending, f.id = e.id ∧
      (Desk.finalize { id := e.id, status, data } (run.desk t)).1 = .ok true ∧
      run.AnsweredBy t f (Desk.finalize { id := e.id, status, data })
        (some (status.outcome data)) := by
  -- Somebody of the number is in the queue, so the search finds one.
  rcases hfind : (run.queue t).find? e.id with _ | f
  · exact absurd (decide_eq_true rfl) (List.find?_eq_none.1 hfind e he)
  · rcases RequestQueue.mem_of_find? hfind with ⟨hf, hid⟩
    let request : FinalizeRequest := { id := e.id, status, data }
    have hfound : (run.desk t).queue.find? request.id = some f := hfind
    have hdoes := Desk.finalize_known hfound
    refine ⟨f, hf, hid, hdoes.outcome, ?_⟩
    rw [AnsweredBy, hdoes.queue]
    rcases RequestQueue.settle_at (run.queue_sound t) hfind (status.outcome data) f.channel with
      ⟨_, _, hleft⟩ | ⟨hother, _⟩
    · exact hleft
    · exact absurd rfl hother

/-- At every moment, whoever is in the queue is shown or about to be, and can be answered. -/
theorem answerable (run : DeskRun) (hrun : run.Remembers) (t : Nat) : run.Answerable t where
  paired := by rw [queue, desk, (attended hrun t).paired]
  attended := fun hpending => by
    have hattended := attended hrun t
    refine (hattended.attended hpending).imp_left fun hheld => ?_
    -- A window that is held is held together with a listener.
    have hlistens := hheld
    rw [hattended.paired] at hlistens
    rcases Option.isSome_iff_exists.1 hheld with ⟨window, hwindow⟩
    rcases Option.isSome_iff_exists.1 hlistens with ⟨listener, hlistener⟩
    exact ⟨window, listener, hwindow, hlistener, hattended.registered listener hlistener⟩
  closing := fun window hheld e he =>
    answered_of_rejectAll he ((attended hrun t).toWatched.windowClosed hheld)
  failing := fun opener _ cause hopen => by
    have hdoes := Desk.completeOpening_refused hopen opener.1
    exact ⟨hdoes.outcome, fun e he => answered_of_dropAll he hdoes.queue⟩
  deciding := fun e he status data => by
    rcases answered_of_finalize he status data with ⟨f, hf, hid, htrue, hanswered⟩
    exact ⟨f, hf, hid, fun hfew => eq_of_id hfew he hf hid, htrue, hanswered⟩

/-- The window of the first question comes after that was decided and another has asked for a window
of its own, which is still on its way. -/
def lateForAnother : DeskRun where
  desktop := { holdsNext := true }
  move
    | 0 => .submit .approve .null
    | 1 => .finalize { id := 0, status := .reject }
    | 2 => .elsewhere fun d => { d with holdsNext := true }
    | 3 => .submit .revealCommitment .null
    | 4 => .windowComes 0
    | _ => .elsewhere id

theorem answerable_lateForAnother :
    lateForAnother.Remembers ∧ (lateForAnother.queue 5).requests.length = 1 ∧
      (lateForAnother.queue 5).popup = some 1 ∧ (lateForAnother.state 5).opening = [(1, 1)] ∧
      lateForAnother.Answerable 5 := by
  have hremembers : lateForAnother.Remembers := by
    rintro (_ | _ | _ | _ | _ | t) change hmove
    · cases hmove
    · cases hmove
    · cases hmove
      exact List.Subset.refl _
    · cases hmove
    · cases hmove
    · cases hmove
      exact List.Subset.refl _
  exact ⟨hremembers, rfl, rfl, rfl, answerable lateForAnother hremembers 5⟩

end DeskRun

end WalletTrust

import WalletTrust.Proofs.Attendance

/-!
# What Is Left on the Desktop

A queue that has run empty is to hold no window, and no listener of its own is to stay behind with
the host.

This holds as long as no window comes late. A window is late if its question has left the queue
before it comes. Opening a window does not look at the queue again once the window is there, so a
late window is taken up for a queue that may be empty, and then nothing lets go of it; or it takes
the place of a window that the queue holds for others, and then the listener of that one is never
removed. A late window that fails to come empties a queue that may hold a window for others, and the
window is held on to.

The first and the third can be mended: the window goes when the queue next runs empty, or when it is
closed. The second cannot, since nobody remembers the listener. `DeskRun.Leaks` says this in terms
of what happened, and `DeskRun.tidy_unless_leaking` that it is exact.

All that a move does to windows and listeners is one of three things, which `Grip` describes: a
window is taken up with a new listener, or it is let go of with its listener, or all stays as it is.

## Main definitions

* `Grip`: The window and the listener that are held, and the listeners that are registered.
* `DeskMove.Handles`: What a move does to them and to the queue.
* `DeskRun.Fair`: The host counts its listeners and keeps them.
* `DeskRun.Tidy`: Nothing is left that the queue does not need.
* `DeskRun.Leaks`: Something was left behind and is there still.
* `DeskRun.Late`: A window comes, or fails to, after its question has left the queue.

## Theorems

* `DeskMove.handles`: A move does one of the things that are listed.
* `DeskRun.registered_iff`: Which listeners are registered.
* `DeskRun.strands_of_empty`, `DeskRun.stranded_attended`: How an empty queue comes to hold a
  window.
* `DeskRun.tidy_unless_leaking`: A desk is tidy unless something leaks, and only what is late leaks.
-/

namespace WalletTrust

open Op (Within)

/-! ## Windows and listeners -/

/-- The window and the listener that a queue holds, the listeners that are registered with the host,
and the number that the next one is given. -/
structure Grip where
  popup : Option Nat
  listener : Option Nat
  listening : List Nat
  next : Nat

namespace Grip

/-- A window is taken up, with a new listener. -/
def take (window : Nat) (g : Grip) : Grip where
  popup := some window
  listener := some g.next
  listening := g.listening ++ [g.next]
  next := g.next + 1

/-- The window is let go of, and its listener is removed. -/
def letGo (g : Grip) : Grip :=
  { g with
    popup := none
    listener := none
    listening := g.listening.filter fun id => g.listener ≠ some id }

end Grip

namespace Desktop

/-- The listeners that are registered, by number. -/
def listening (d : Desktop) : List Nat :=
  d.listeners.map (·.id)

/-- An operation that leaves the listeners and their count as they are. -/
abbrev AddsNoListener {α : Type} (x : Op Desktop α) : Prop :=
  Within (Op.Same fun d => (d.listening, d.nextListener)) x

/-- A window that is asked for has no listener yet. -/
theorem requestWindow_adds : AddsNoListener requestWindow := by
  intro d
  simp only [requestWindow]
  split
  · rfl
  · rfl

/-- Neither has one that has come. The listener is added by whoever holds the window. -/
theorem openWindow_adds : AddsNoListener openWindow := by
  intro d
  simp only [openWindow]
  split
  · rfl
  · split
    · rfl
    · rfl

/-- A broadcast is no affair of listeners. -/
theorem broadcast_adds (message : ExtensionMessage) : AddsNoListener (broadcast message) := by
  intro d
  simp only [broadcast]
  split
  · rfl
  · rfl

theorem requestClose_adds (id : Option Nat) : AddsNoListener (requestClose id) := by
  intro d
  simp only [requestClose]
  split
  · rfl
  · rfl

/-- The host has removed a listener, if there was one. -/
structure Stops (listener : Option Nat) (d e : Desktop) : Prop where
  listening : e.listening = d.listening.filter fun id => listener ≠ some id
  next : e.nextListener = d.nextListener

/-- Where no listener is held, none is removed. -/
theorem Stops.unheld (d : Desktop) : Stops none d d where
  listening := (List.filter_eq_self.2 fun _ _ => rfl).symm
  next := rfl

/-- The listener that is held is removed, and the others stay. -/
theorem Stops.held (id : Nat) (d : Desktop) : Stops (some id) d (removeListener id d).2 where
  listening := by
    change (d.listeners.filter fun l => l.id ≠ id).map (·.id) = _
    rw [Desktop.listening, List.filter_map]
    refine congrArg _ (List.filter_congr fun l _ => decide_eq_decide.2 ?_)
    change ¬ l.id = id ↔ ¬ some id = some l.id
    rw [Option.some.injEq, eq_comm]
  next := rfl

end Desktop

namespace Desk

variable {α : Type} {d t : Desk}

def grip (d : Desk) : Grip where
  popup := d.queue.popup
  listener := d.queue.listener
  listening := d.desktop.listening
  next := d.desktop.nextListener

/-- A queue that holds nothing any more has let go, once the host has removed its listener. -/
theorem grip_letGo {queue : RequestQueue} {desktop : Desktop}
    (h : Desktop.Stops d.queue.listener d.desktop desktop) (hpopup : queue.popup = none)
    (hlistener : queue.listener = none) : (Desk.mk queue desktop).grip = d.grip.letGo := by
  simp only [Desk.grip, Grip.letGo, hpopup, hlistener, h.listening, h.next]
  rfl

/-- An operation that neither takes up a window nor lets go of one. -/
abbrev KeepsGrip (x : Op Desk α) : Prop :=
  Within (Op.Same grip) x

theorem onDesktop_keeps {x : Op Desktop α} (hx : Desktop.AddsNoListener x) :
    KeepsGrip (onDesktop x) :=
  .zoom hx fun d desktop hsame => by
    have hsame : (desktop.listening, desktop.nextListener) =
        (d.desktop.listening, d.desktop.nextListener) := hsame
    rcases Prod.mk.inj hsame with ⟨hlistening, hnext⟩
    simp only [Op.Same, grip, hlistening, hnext]

/-- The queue may be changed in any way that leaves its window and its listener alone. -/
theorem onQueue_keeps {f : RequestQueue → RequestQueue} (hpopup : ∀ q, (f q).popup = q.popup)
    (hlistener : ∀ q, (f q).listener = q.listener) : KeepsGrip (onQueue f) :=
  .modify fun d => by simp only [Op.Same, grip, hpopup, hlistener]

theorem broadcastQueue_keeps : KeepsGrip broadcastQueue := by
  unfold broadcastQueue
  refine .bind .get fun _ => ?_
  exact .ignore (onDesktop_keeps (Desktop.broadcast_adds _))

/-- A question that is given up takes nothing with it. -/
theorem abandon_keeps (id : UInt64) (cause : Error) : KeepsGrip (abandon id cause : Op Desk α) := by
  unfold abandon
  refine .bind (onQueue_keeps (fun _ => rfl) fun _ => rfl) fun _ => ?_
  refine .bind broadcastQueue_keeps fun _ => ?_
  exact .fail _

/-- The window is held, and so is a listener that is new. -/
theorem holdWindow_grip (window : Nat) (d : Desk) :
    (holdWindow window d).2.grip = d.grip.take window := by
  have hlistening : (d.desktop.listeners ++ [CloseListener.mk d.desktop.nextListener true]).map
      (·.id) = d.desktop.listening ++ [d.desktop.nextListener] := List.map_append
  exact congrArg (fun ids => Grip.mk _ _ ids _) hlistening

/-- A window that comes is taken up. -/
theorem completeOpening_taken {window : Nat} (h : d.desktop.opened = .ok window) (id : UInt64) :
    (completeOpening id d).2.grip = d.grip.take window := by
  have hsame := onDesktop_keeps Desktop.openWindow_adds d
  rcases hopen : onDesktop Desktop.openWindow d with ⟨outcome, t⟩
  have houtcome : outcome = .ok window := by
    rw [← h, Desktop.opened]
    exact (congrArg Prod.fst hopen).symm
  subst houtcome
  have hrun : completeOpening id d =
      (do holdWindow window; broadcastQueue : Op Desk Unit) t := by
    rw [completeOpening, Op.bind_apply, Op.attempt, hopen]
  rw [hopen] at hsame
  rw [hrun]
  -- Showing the queue is all that happens after the window is held.
  calc ((do holdWindow window; broadcastQueue : Op Desk Unit) t).2.grip
      = (holdWindow window t).2.grip := broadcastQueue_keeps _
    _ = t.grip.take window := holdWindow_grip window t
    _ = d.grip.take window := congrArg (Grip.take window) hsame

/-- A window that fails to come leaves what is held as it is. -/
theorem completeOpening_lost {cause : Error} (h : d.desktop.opened = .error cause) (id : UInt64) :
    (completeOpening id d).2.grip = d.grip := by
  have hsame := onDesktop_keeps Desktop.openWindow_adds d
  rcases hopen : onDesktop Desktop.openWindow d with ⟨outcome, t⟩
  have houtcome : outcome = .error cause := by
    rw [← h, Desktop.opened]
    exact (congrArg Prod.fst hopen).symm
  subst houtcome
  have hrun : completeOpening id d = abandon id cause t := by
    rw [completeOpening, Op.bind_apply, Op.attempt, hopen]
  rw [hopen] at hsame
  rw [hrun]
  exact (abandon_keeps (α := Unit) id cause t).trans hsame

/-- A question that is not the first is shown in the window that is there. -/
theorem submit_behind_grip (h : d.queue.pending ≠ []) (kind : RequestKind) (payload : Json) :
    (submit kind payload d).2.grip = d.grip := by
  have hlong : ¬ (d.queue.enqueue kind payload).pending.length = 1 := by
    rw [RequestQueue.enqueue, List.length_append]
    exact fun hlen => h (List.length_eq_zero_iff.1 (Nat.succ.inj hlen))
  have hrun : (submit kind payload d).2 =
      (broadcastQueue { d with queue := d.queue.enqueue kind payload }).2 := by
    simp only [submit, Op.bind_apply, Op.get, onQueue, Op.modify]
    rw [if_neg hlong]
    rfl
  rw [hrun]
  exact broadcastQueue_keeps _

/-- The first question asks for a window, and its window is all that matters from then on. -/
theorem submit_alone (h : d.queue.pending = []) (kind : RequestKind) (payload : Json) :
    ∃ t : Desk, t.grip = d.grip ∧ t.desktop.opened = d.desktop.opened ∧
      (submit kind payload d).2 =
        if d.desktop.holdsNext then t else (completeOpening d.queue.nonce t).2 := by
  have hfirst : (d.queue.enqueue kind payload).pending.length = 1 := by
    rw [RequestQueue.enqueue, h]
    rfl
  let t : Desk := (onDesktop Desktop.requestWindow
    { d with queue := d.queue.enqueue kind payload }).2
  refine ⟨t, onDesktop_keeps Desktop.requestWindow_adds _, Desktop.requestWindow_opened d.desktop,
    ?_⟩
  -- A window that comes at once is opened in the same part of the call, one that is held comes
  -- later.
  rcases hheld : d.desktop.holdsNext with _ | _
  · have hticket := (Desktop.requestWindow_free hheld).1
    have hrun : submit kind payload d = (do
        completeOpening d.queue.nonce
        return .queued d.queue.nonce d.queue.nextChannel : Op Desk Submission) t := by
      simp only [submit, Op.bind_apply, Op.get, onQueue, Op.modify]
      rw [if_pos hfirst]
      simp only [Op.bind_apply, onDesktop, Op.zoom, hticket, t]
    rw [hrun, Op.bind_pure_state, if_neg Bool.false_ne_true]
  · have hticket := (Desktop.requestWindow_held hheld).1
    have hrun : submit kind payload d =
        (.ok (.opening d.queue.nonce d.queue.nextChannel d.desktop.nextTicket), t) := by
      simp only [submit, Op.bind_apply, Op.get, onQueue, Op.modify]
      rw [if_pos hfirst]
      simp only [Op.bind_apply, onDesktop, Op.zoom, hticket, t]
      rfl
    rw [hrun, if_pos rfl]

/-! ## Closing a window -/

/-- All stays as it is, or the window was the one that is held, and is let go of. -/
def LetsGoAtMost (window : Nat) (d t : Desk) : Prop :=
  t.grip = d.grip ∨ (d.queue.popup = some window ∧ t.grip = d.grip.letGo)

/-- The window that is held is let go of when it is reported closed. -/
theorem surfaceClosed_grip {window : Nat} (h : d.queue.popup = some window) :
    (surfaceClosed window d).2.grip = d.grip.letGo := by
  -- Whether there is a listener or not, none is left.
  have hrun : ∃ desktop, Desktop.Stops d.queue.listener d.desktop desktop ∧
      surfaceClosed window d = (.ok (), { queue := d.queue.rejectAll, desktop }) := by
    rcases hl : d.queue.listener with _ | listener
    · refine ⟨_, .unheld d.desktop, ?_⟩
      simp only [surfaceClosed, Op.bind_apply, Op.get]
      rw [if_pos h]
      simp only [hl, Op.bind_apply, onQueue, Op.modify]
      rfl
    · refine ⟨_, .held listener d.desktop, ?_⟩
      simp only [surfaceClosed, Op.bind_apply, Op.get]
      rw [if_pos h]
      simp only [hl, Op.bind_apply, onQueue, Op.modify]
      rfl
  rcases hrun with ⟨desktop, hstops, hrun⟩
  rw [hrun]
  exact grip_letGo hstops rfl rfl

/-- Whichever window is reported closed, no other is let go of. -/
theorem surfaceClosed_lets (window : Nat) (d : Desk) :
    LetsGoAtMost window d (surfaceClosed window d).2 := by
  by_cases h : d.queue.popup = some window
  · exact .inr ⟨h, surfaceClosed_grip h⟩
  · rw [surfaceClosed_other h]
    exact .inl rfl

/-- A window that has been let go of cannot be let go of again. -/
theorem LetsGoAtMost.trans {window : Nat} {u : Desk} (h : LetsGoAtMost window d t)
    (k : LetsGoAtMost window t u) : LetsGoAtMost window d u := by
  rcases h with hsame | ⟨hown, hlet⟩
  · have hpopup : t.queue.popup = d.queue.popup := congrArg Grip.popup hsame
    rw [LetsGoAtMost, hsame, hpopup] at k
    exact k
  · rcases k with hsame | ⟨hagain, _⟩
    · exact .inr ⟨hown, hsame.trans hlet⟩
    · -- The queue has let go of its window, so no second listener finds it held.
      cases hagain.symm.trans (congrArg Grip.popup hlet)

/-- By induction on the listeners. The first whose window it is lets go of it, and the others find
it gone. -/
theorem callListeners_lets (window : Nat) (listeners : List CloseListener) (d : Desk) :
    LetsGoAtMost window d (callListeners window listeners d).2 := by
  induction listeners generalizing d with
  | nil => exact .inl rfl
  | cons l rest ih =>
      rw [callListeners]
      by_cases hlive : l.live = true
      · have hstep := surfaceClosed_lets window d
        rcases hc : surfaceClosed window d with ⟨outcome, t⟩
        rw [hc] at hstep
        rw [if_pos hlive, Op.bind_apply, hc]
        cases outcome with
        | ok => exact hstep.trans (ih t)
        | error => exact hstep
      · rw [if_neg hlive]
        exact ih d

/-- A queue that holds no window lets go of nothing when one is closed. -/
theorem closeWindow_keeps (h : d.queue.popup = none) (id : Option Nat) :
    (closeWindow id d).2.grip = d.grip := by
  have hsame := onDesktop_keeps (Desktop.requestClose_adds id) d
  rcases hc : onDesktop (Desktop.requestClose id) d with ⟨outcome, t⟩
  rw [hc] at hsame
  rcases outcome with e | _ | window
  · rw [closeWindow, Op.bind_error hc]
    exact hsame
  · rw [closeWindow, Op.bind_ok hc]
    exact hsame
  · rw [closeWindow, Op.bind_ok hc]
    rcases callListeners_lets window t.desktop.listeners t with hkept | ⟨hheld, _⟩
    · exact hkept.trans hsame
    · cases hheld.symm.trans ((congrArg Grip.popup hsame).trans h)

/-- The last decision lets go of the window, and the closing of it comes too late to matter. -/
theorem finalize_last {request : FinalizeRequest} {entry : QueuedRequest}
    (h : d.queue.find? request.id = some entry)
    (hlast : (d.queue.dequeue entry.id).pending.isEmpty = true) :
    (finalize request d).2.grip = d.grip.letGo := by
  let outcome := request.status.outcome request.data
  let t : Desk := (broadcastQueue { d with queue := d.queue.settle entry outcome }).2
  -- The desk has let go of both before the window is closed.
  have hgrip : t.grip = { d.grip with popup := none, listener := none } := by
    refine (broadcastQueue_keeps _).trans ?_
    simp only [grip, RequestQueue.settle, if_pos hlast]
    rfl
  have hfree : t.queue.popup = none := congrArg Grip.popup hgrip
  have hlistening : t.desktop.listening = d.desktop.listening := congrArg Grip.listening hgrip
  have hnext : t.desktop.nextListener = d.desktop.nextListener := congrArg Grip.next hgrip
  rw [finalize_found h, if_pos hlast, Op.bind_pure_state]
  change (dismiss d.queue t).2.grip = _
  -- So the closing finds a desk that holds no window, and does nothing to the queue.
  have hrun : ∃ desktop, Desktop.Stops d.queue.listener t.desktop desktop ∧
      (dismiss d.queue t).2 = (closeWindow d.queue.popup { t with desktop }).2 := by
    rcases hl : d.queue.listener with _ | listener
    · refine ⟨_, .unheld t.desktop, ?_⟩
      simp only [dismiss, hl]
      rfl
    · refine ⟨_, .held listener t.desktop, ?_⟩
      simp only [dismiss, hl]
      rfl
  rcases hrun with ⟨desktop, hstops, hrun⟩
  have hstops : Desktop.Stops d.queue.listener d.desktop desktop := {
    listening := by rw [hstops.listening, hlistening]
    next := by rw [hstops.next, hnext] }
  rw [hrun, closeWindow_keeps (d := { t with desktop }) hfree]
  exact grip_letGo hstops hfree (congrArg Grip.listener hgrip)

/-- A decision that leaves others in the queue leaves them their window. -/
theorem finalize_further {request : FinalizeRequest} {entry : QueuedRequest}
    (h : d.queue.find? request.id = some entry)
    (hlast : ¬ (d.queue.dequeue entry.id).pending.isEmpty = true) :
    (finalize request d).2.grip = d.grip := by
  rw [finalize_found h, if_neg hlast, Op.pure_apply]
  refine (broadcastQueue_keeps _).trans ?_
  simp only [grip, RequestQueue.settle, if_neg hlast]
  rfl

end Desk

/-! ## Moves -/

/-- An answer that tells of no window. -/
def DeskResult.Plain : DeskResult → Prop
  | .submitted _ => False
  | .opened _ => False
  | .finalized _ => True
  | .nothing => True

namespace DeskMove

/-- All that a move of the desk does to the queue, to the windows that are on their way, and to the
window and the listener that are held. -/
inductive Handles (s : DeskState) : DeskMove → DeskResult → DeskState → Prop where
  | behind {kind : RequestKind} {payload : Json} {id : UInt64} {channel : Nat} {t : DeskState}
    (others : s.desk.queue.pending ≠ [])
    (pending : t.desk.queue.pending = (s.desk.queue.enqueue kind payload).pending)
    (opening : t.opening = s.opening) (grip : t.desk.grip = s.desk.grip) :
    Handles s (.submit kind payload) (.submitted (.ok (.queued id channel))) t
  | awaits {kind : RequestKind} {payload : Json} {id : UInt64} {channel ticket : Nat}
    {t : DeskState} (alone : s.desk.queue.pending = [])
    (pending : t.desk.queue.pending = (s.desk.queue.enqueue kind payload).pending)
    (opening : t.opening = s.opening ++ [(s.desk.queue.nonce, s.desk.queue.nextChannel)])
    (grip : t.desk.grip = s.desk.grip) :
    Handles s (.submit kind payload) (.submitted (.ok (.opening id channel ticket))) t
  | opened {kind : RequestKind} {payload : Json} {id : UInt64} {channel window : Nat}
    {t : DeskState} (alone : s.desk.queue.pending = [])
    (pending : t.desk.queue.pending = (s.desk.queue.enqueue kind payload).pending)
    (opening : t.opening = s.opening) (grip : t.desk.grip = s.desk.grip.take window) :
    Handles s (.submit kind payload) (.submitted (.ok (.queued id channel))) t
  | refused {kind : RequestKind} {payload : Json} {failure : Error} {t : DeskState}
    (alone : s.desk.queue.pending = []) (pending : t.desk.queue.pending = [])
    (opening : t.opening = s.opening) (grip : t.desk.grip = s.desk.grip) :
    Handles s (.submit kind payload) (.submitted (.error failure)) t
  | came {opener : UInt64 × Nat} {window : Nat} {t : DeskState} (asked : opener ∈ s.opening)
    (pending : t.desk.queue.pending = s.desk.queue.pending)
    (opening : t.opening = s.opening.filter fun o => o.2 ≠ opener.2)
    (grip : t.desk.grip = s.desk.grip.take window) :
    Handles s (.windowComes opener.2) (.opened (.ok ())) t
  | failed {opener : UInt64 × Nat} {failure : Error} {t : DeskState} (asked : opener ∈ s.opening)
    (pending : t.desk.queue.pending = [])
    (opening : t.opening = s.opening.filter fun o => o.2 ≠ opener.2)
    (grip : t.desk.grip = s.desk.grip) :
    Handles s (.windowComes opener.2) (.opened (.error failure)) t
  /-- The queue runs empty by a decision, or since its window was closed. -/
  | emptied {m : DeskMove} {result : DeskResult} {t : DeskState}
    (answer : result.Plain)
    (pending : t.desk.queue.pending = []) (opening : t.opening = s.opening)
    (grip : t.desk.grip = s.desk.grip.letGo) : Handles s m result t
  /-- A decision that leaves others in the queue, or nothing at all. -/
  | further {m : DeskMove} {result : DeskResult} {t : DeskState}
    (answer : result.Plain)
    (pending : t.desk.queue.pending.Sublist s.desk.queue.pending)
    (empty : t.desk.queue.pending = [] → s.desk.queue.pending = [])
    (opening : t.opening = s.opening) (grip : t.desk.grip = s.desk.grip) : Handles s m result t

variable {s : DeskState}

/-- A question that is put joins the queue, and asks for a window if it is the first. -/
theorem submit_handles (kind : RequestKind) (payload : Json) (s : DeskState) :
    Handles s (.submit kind payload) ((DeskMove.submit kind payload).step s).1
      ((DeskMove.submit kind payload).step s).2 := by
  -- What is on its way afterwards goes by the answer.
  have hopening : ((DeskMove.submit kind payload).step s).2.opening =
      s.opening ++ Submission.opener? (Desk.submit kind payload s.desk).1 := rfl
  have hanswer : ((DeskMove.submit kind payload).step s).1 =
      .submitted (Desk.submit kind payload s.desk).1 := rfl
  by_cases hempty : s.desk.queue.pending = []
  · rcases Desk.submit_alone hempty kind payload with ⟨t, hgrip, hopens, hrun⟩
    rcases hheld : s.desk.desktop.holdsNext with _ | _
    · rw [hheld, if_neg Bool.false_ne_true] at hrun
      rcases hopen : s.desk.desktop.opened with cause | window
      · have hdoes := Desk.submit_refused hempty hheld hopen kind payload
        rw [hdoes.outcome] at hopening hanswer
        rw [hanswer]
        refine .refused hempty (congrArg RequestQueue.pending hdoes.queue)
          (hopening.trans (List.append_nil _)) ?_
        change (Desk.submit kind payload s.desk).2.grip = _
        rw [hrun, Desk.completeOpening_lost (hopens.trans hopen), hgrip]
      · rcases Desk.submit_opened hempty hheld hopen kind payload with ⟨listener, hdoes⟩
        have hpending := congrArg RequestQueue.pending hdoes.queue
        rw [hdoes.outcome] at hopening hanswer
        rw [hanswer]
        have htaken : (Desk.submit kind payload s.desk).2.grip = s.desk.grip.take window := by
          rw [hrun, Desk.completeOpening_taken (hopens.trans hopen), hgrip]
        exact .opened hempty hpending (hopening.trans (List.append_nil _)) htaken
    · rw [hheld, if_pos rfl] at hrun
      have hdoes := Desk.submit_held hempty hheld kind payload
      rw [hdoes.outcome] at hopening hanswer
      rw [hanswer]
      exact .awaits hempty (congrArg RequestQueue.pending hdoes.queue) hopening
        ((congrArg Desk.grip hrun).trans hgrip)
  · have hdoes := Desk.submit_behind hempty kind payload
    rw [hdoes.outcome] at hopening hanswer
    rw [hanswer]
    exact .behind hempty (congrArg RequestQueue.pending hdoes.queue)
      (hopening.trans (List.append_nil _)) (Desk.submit_behind_grip hempty kind payload)

/-- A window comes for the question that has asked for it, or it fails to. -/
theorem windowComes_handles (channel : Nat) (s : DeskState) :
    Handles s (.windowComes channel) ((DeskMove.windowComes channel).step s).1
      ((DeskMove.windowComes channel).step s).2 := by
  rcases hfind : s.opening.find? fun o => o.2 = channel with _ | opener
  · have hrun : (DeskMove.windowComes channel).step s = (.nothing, s) := by
      simp only [step, hfind]
    rw [hrun]
    exact .further trivial (List.Sublist.refl _) id rfl rfl
  · have hasked := List.mem_of_find?_eq_some hfind
    have hchannel : opener.2 = channel := by
      simpa only [decide_eq_true_eq] using List.find?_some hfind
    subst hchannel
    have hrun : (DeskMove.windowComes opener.2).step s =
        (.opened (Desk.completeOpening opener.1 s.desk).1,
          { desk := (Desk.completeOpening opener.1 s.desk).2
            opening := s.opening.filter fun o => o.2 ≠ opener.2 }) := by
      simp only [step, hfind]
    rw [hrun]
    -- The window that was asked for is there, or it is refused.
    rcases hopen : s.desk.desktop.opened with cause | window
    · have hdoes := Desk.completeOpening_refused hopen opener.1
      rw [hdoes.outcome]
      exact .failed hasked (congrArg RequestQueue.pending hdoes.queue) rfl
        (Desk.completeOpening_lost hopen opener.1)
    · rcases Desk.completeOpening_opened hopen opener.1 with ⟨listener, hdoes⟩
      have hpending := congrArg RequestQueue.pending hdoes.queue
      rw [hdoes.outcome]
      exact .came hasked hpending rfl
        (Desk.completeOpening_taken hopen opener.1)

/-- The last answer lets go of the window, and any other leaves it. -/
theorem finalize_handles (request : FinalizeRequest) (s : DeskState) :
    Handles s (.finalize request) ((DeskMove.finalize request).step s).1
      ((DeskMove.finalize request).step s).2 := by
  have hrun : (DeskMove.finalize request).step s =
      (.finalized (Desk.finalize request s.desk).1,
        { s with desk := (Desk.finalize request s.desk).2 }) := rfl
  rw [hrun]
  rcases hfind : s.desk.queue.find? request.id with _ | entry
  · rw [Desk.finalize_unknown hfind]
    exact .further trivial (List.Sublist.refl _) id rfl rfl
  · have hdoes := Desk.finalize_known hfind
    rcases RequestQueue.settle_pending hfind (request.status.outcome request.data) with
      ⟨before, after, hsplit, hrest⟩
    have hleft := (congrArg RequestQueue.pending hdoes.queue).trans hrest
    rw [hdoes.outcome]
    -- Only the last answer lets go of the window.
    by_cases hlast : (s.desk.queue.dequeue entry.id).pending.isEmpty = true
    · refine .emptied trivial ?_ rfl (Desk.finalize_last hfind hlast)
      rw [hdoes.queue, RequestQueue.settle, if_pos hlast]
      exact List.isEmpty_iff.1 hlast
    · refine .further trivial ?_ (fun hempty => ?_) rfl
        (Desk.finalize_further hfind hlast)
      · rw [hleft, hsplit]
        exact (List.sublist_cons_self entry after).append_left before
      · rw [hdoes.queue, RequestQueue.settle, if_neg hlast] at hempty
        exact absurd (List.isEmpty_iff.2 hempty) hlast

/-- The closing of a window comes to this, whoever reports it. -/
theorem closes_handles {m : DeskMove} {window : Nat} {d : Desk}
    (hlets : Desk.LetsGoAtMost window s.desk d) (hcloses : Desk.ClosesAtMost window s.desk d) :
    Handles s m .nothing { s with desk := d } := by
  rcases hlets with hsame | ⟨hheld, hlet⟩
  · rcases hcloses.2 with hkept | ⟨hheld, hrejected⟩
    · exact .further trivial (by rw [hkept]) (fun h => by rw [← hkept]; exact h) rfl hsame
    · -- The queue was rejected, so it has let go of the window that it held.
      have hpopup : d.queue.popup = s.desk.queue.popup := congrArg Grip.popup hsame
      rw [hrejected, hheld] at hpopup
      cases hpopup
  · rcases hcloses.2 with hkept | ⟨_, hrejected⟩
    · have hpopup : d.queue.popup = none := congrArg Grip.popup hlet
      rw [hkept, hheld] at hpopup
      cases hpopup
    · exact .emptied trivial (congrArg RequestQueue.pending hrejected) rfl hlet

/-- A move of the desk does one of these things. -/
theorem handles {m : DeskMove} (hm : ∀ change, m ≠ .elsewhere change) (s : DeskState) :
    Handles s m (m.step s).1 (m.step s).2 := by
  cases m with
  | submit kind payload => exact submit_handles kind payload s
  | windowComes channel => exact windowComes_handles channel s
  | finalize request => exact finalize_handles request s
  | windowClosed window =>
      exact closes_handles (Desk.callListeners_lets window s.desk.desktop.listeners s.desk)
        (Desk.windowClosed_queue window s.desk)
  | reportClosed window =>
      exact closes_handles (Desk.surfaceClosed_lets window s.desk)
        (Desk.surfaceClosed_queue window s.desk)
  | elsewhere change => exact absurd rfl (hm change)

end DeskMove

/-- A queue that a question was put into is not empty. -/
theorem RequestQueue.pending_enqueue_ne_nil {kind : RequestKind} {payload : Json}
    {q : RequestQueue} : (q.enqueue kind payload).pending ≠ [] :=
  List.append_ne_nil_of_right_ne_nil _ nofun

/-! ## Runs -/

namespace DeskRun

variable (run : DeskRun)

def grip (t : Nat) : Grip :=
  (run.desk t).grip

/-- The host numbers its listeners in the order in which they are registered, whoever does so, and
what happens elsewhere takes none away. -/
structure Fair : Prop where
  fresh : ∀ id ∈ (run.grip 0).listening, id < (run.grip 0).next
  remembers : run.Remembers
  counts : ∀ t change, run.move t = .elsewhere change →
    (run.grip t).next ≤ (run.grip (t + 1)).next ∧
    ∀ id ∈ (run.grip (t + 1)).listening, id ∈ (run.grip t).listening ∨
      ((run.grip t).next ≤ id ∧ id < (run.grip (t + 1)).next)

/-- The desk registers a listener in a stage. -/
def Registers (k id : Nat) : Prop :=
  (∀ change, run.move k ≠ .elsewhere change) ∧
    id ∉ (run.grip k).listening ∧ id ∈ (run.grip (k + 1)).listening

/-- The desk has registered a listener, and it is registered still. -/
def Registered (t id : Nat) : Prop :=
  (∃ k < t, run.Registers k id) ∧ id ∈ (run.grip t).listening

/-- The queue holds what it needs: nothing if it is empty, and else the one listener of its own that
is registered. -/
structure Tidy (t : Nat) : Prop where
  empty : (run.queue t).pending = [] → (run.queue t).popup = none ∧ (run.queue t).listener = none ∧
    ∀ id, ¬ run.Registered t id
  busy : (run.queue t).pending ≠ [] → ∃ id, (run.queue t).listener = some id ∧
    ∀ other, run.Registered t other ↔ other = id

/-- A window is taken up in a stage, late or together with the question that asked for it. -/
def Takes (k : Nat) : Prop :=
  run.result k = .opened (.ok ()) ∨ ((run.queue k).pending = [] ∧
    ∃ id channel, run.result k = .submitted (.ok (.queued id channel)))

/-- A window fails to come in a stage. -/
def Loses (k : Nat) : Prop :=
  ∃ failure, run.result k = .opened (.error failure) ∨ run.result k = .submitted (.error failure)

/-- A window takes the place of one that was held. -/
def Displaces (k : Nat) : Prop :=
  run.Takes k ∧ (run.queue k).popup.isSome

/-- A window comes to an empty queue, or one fails while another is held. -/
def Strands (k : Nat) : Prop :=
  (run.result k = .opened (.ok ()) ∧ (run.queue k).pending = []) ∨
    (run.Loses k ∧ (run.queue k).popup.isSome)

/-- A window has been held ever since a stage. -/
def HeldSince (k t : Nat) : Prop :=
  ∀ j, k < j → j ≤ t → (run.queue j).popup.isSome

/-- A listener was given up with its window displaced, or a window was stranded and is held still.
-/
def Leaks (t : Nat) : Prop :=
  (∃ k < t, run.Displaces k) ∨ ∃ k < t, run.Strands k ∧ run.HeldSince k t

/-- A window comes, or fails to, when the question that asked for it has left the queue. -/
def Late (k : Nat) : Prop :=
  ∃ opener ∈ (run.state k).opening, run.move k = .windowComes opener.2 ∧
    ∀ e ∈ (run.queue k).pending, e.channel ≠ opener.2

variable {run} {k t : Nat}

/-- A stage in which the desk moves does to the queue and to what is held what the move says. -/
theorem handled (hm : ∀ change, run.move k ≠ .elsewhere change) :
    DeskMove.Handles (run.state k) (run.move k) (run.result k) (run.state (k + 1)) :=
  DeskMove.handles hm (run.state k)

/-- In a stage the desk moves, or something else happens. -/
theorem own_or_elsewhere (run : DeskRun) (k : Nat) :
    (∀ change, run.move k ≠ .elsewhere change) ∨ ∃ change, run.move k = .elsewhere change := by
  rw [← not_exists]
  exact (Classical.em _).symm

/-- What happens elsewhere answers nothing, and leaves the queue and what is on its way alone. -/
theorem elsewhere_state {change : Desktop → Desktop} (hm : run.move k = .elsewhere change) :
    run.result k = .nothing ∧ run.queue (k + 1) = run.queue k ∧
      (run.state (k + 1)).opening = (run.state k).opening := by
  have hstep : (run.move k).step (run.state k) = (.nothing, { run.state k with
      desk := { (run.state k).desk with desktop := change (run.state k).desk.desktop } }) := by
    rw [hm]
    rfl
  refine ⟨congrArg Prod.fst hstep, ?_, ?_⟩
  · exact congrArg (fun s : DeskResult × DeskState => s.2.desk.queue) hstep
  · exact congrArg (fun s : DeskResult × DeskState => s.2.opening) hstep

/-- A stage that answers something is one of the desk. -/
theorem handled_of_answer {result : DeskResult} (h : run.result k = result)
    (hanswer : result ≠ .nothing) :
    DeskMove.Handles (run.state k) (run.move k) result (run.state (k + 1)) := by
  rw [← h]
  refine handled fun change hmove => hanswer ?_
  rw [← h]
  exact (run.elsewhere_state hmove).1

/-! ### Which listeners are registered -/

/-- Whoever is told nothing of a window has not taken one up. -/
theorem not_takes_of_plain (h : (run.result k).Plain) : ¬ run.Takes k := by
  rintro (hcame | ⟨_, id, channel, hqueued⟩)
  · rw [hcame] at h
    exact h
  · rw [hqueued] at h
    exact h

/-- A stage of the desk takes up a window, or lets go of one, or does neither. -/
theorem grip_cases (hm : ∀ change, run.move k ≠ .elsewhere change) :
    (¬ run.Takes k ∧ run.grip (k + 1) = run.grip k) ∨
    (¬ run.Takes k ∧ run.grip (k + 1) = (run.grip k).letGo) ∨
    (run.Takes k ∧ ∃ window, run.grip (k + 1) = (run.grip k).take window) := by
  have hhandled := run.handled hm
  have hquiet (h : run.result k ≠ .opened (.ok ()))
      (hqueued : ∀ id channel, run.result k ≠ .submitted (.ok (.queued id channel))) :
      ¬ run.Takes k :=
    fun htakes => htakes.elim h fun ⟨_, id, channel, hs⟩ => hqueued id channel hs
  generalize hmove : run.move k = m at hhandled
  generalize hresult : run.result k = result at hhandled hquiet
  -- A grip is taken by a window that has come and is let go of by what empties the queue.
  cases hhandled with
  | behind others pending opening grip =>
      refine .inl ⟨fun htakes => ?_, grip⟩
      rcases htakes with hcame | ⟨halone, _⟩
      · cases hresult.symm.trans hcame
      · exact others halone
  | awaits alone pending opening grip =>
      exact .inl ⟨hquiet (fun h => by cases h) fun _ _ h => (by cases h), grip⟩
  | opened alone pending opening grip =>
      exact .inr (.inr ⟨.inr ⟨alone, _, _, hresult⟩, _, grip⟩)
  | refused alone pending opening grip =>
      exact .inl ⟨hquiet (fun h => by cases h) fun _ _ h => (by cases h), grip⟩
  | came asked pending opening grip => exact .inr (.inr ⟨.inl hresult, _, grip⟩)
  | failed asked pending opening grip =>
      exact .inl ⟨hquiet (fun h => by cases h) fun _ _ h => (by cases h), grip⟩
  | emptied answer pending opening grip =>
      exact .inr (.inl ⟨not_takes_of_plain (hresult ▸ answer), grip⟩)
  | further answer pending empty opening grip =>
      exact .inl ⟨not_takes_of_plain (hresult ▸ answer), grip⟩

/-- Which listeners the desk has registered that are registered still, and how they are numbered. -/
structure Accounted (run : DeskRun) (t : Nat) : Prop where
  below : ∀ id ∈ (run.grip t).listening, id < (run.grip t).next
  issued : ∀ k < t, ∀ id, run.Registers k id → id < (run.grip t).next
  older : ∀ k < t, run.Displaces k → ∀ id, (run.queue k).listener = some id →
    id < (run.grip t).next ∧ ∀ other, (run.queue t).listener = some other → id < other
  registered : ∀ id, run.Registered t id ↔ (run.queue t).listener = some id ∨
    ∃ k < t, run.Displaces k ∧ (run.queue k).listener = some id

namespace Accounted

/-- In the beginning nothing has been registered. -/
theorem start (hrun : run.Fair) : run.Accounted 0 where
  below := hrun.fresh
  issued := fun _ hk => absurd hk (Nat.not_lt_zero _)
  older := fun _ hk => absurd hk (Nat.not_lt_zero _)
  registered := fun id => by
    constructor
    · rintro ⟨⟨_, hk, _⟩, _⟩
      exact absurd hk (Nat.not_lt_zero _)
    · rintro (hlistener | ⟨_, hk, _⟩)
      · cases hlistener
      · exact absurd hk (Nat.not_lt_zero _)

/-- A stage that registers no listener of the desk and lets go of none. -/
theorem quiet (h : run.Accounted t) (hquiet : ¬ run.Displaces t)
    (hregisters : ∀ id, ¬ run.Registers t id)
    (hlistener : (run.queue (t + 1)).listener = (run.queue t).listener)
    (hnext : (run.grip t).next ≤ (run.grip (t + 1)).next)
    (hkept : ∀ id ∈ (run.grip t).listening, id ∈ (run.grip (t + 1)).listening)
    (hnew : ∀ id ∈ (run.grip (t + 1)).listening, id ∈ (run.grip t).listening ∨
      ((run.grip t).next ≤ id ∧ id < (run.grip (t + 1)).next)) : run.Accounted (t + 1) where
  below := fun id hid => by
    rcases hnew id hid with hold | ⟨_, hlt⟩
    · exact Nat.lt_of_lt_of_le (h.below id hold) hnext
    · exact hlt
  -- Whatever is said of the stages before holds of this one as well, since nothing is registered in
  -- it and nothing displaced.
  issued := fun k hk id hreg => by
    rcases Nat.lt_or_eq_of_le (Nat.le_of_lt_succ hk) with hk | rfl
    · exact Nat.lt_of_lt_of_le (h.issued k hk id hreg) hnext
    · exact absurd hreg (hregisters id)
  older := fun k hk hlost id hid => by
    rcases Nat.lt_or_eq_of_le (Nat.le_of_lt_succ hk) with hk | rfl
    · rcases h.older k hk hlost id hid with ⟨hlt, holder⟩
      exact ⟨Nat.lt_of_lt_of_le hlt hnext, by rw [hlistener]; exact holder⟩
    · exact absurd hlost hquiet
  registered := fun id => by
    rw [hlistener, Nat.exists_lt_succ_right, or_iff_left (b := run.Displaces t ∧ _)
      fun hlost => hquiet hlost.1, ← h.registered id]
    constructor
    · rintro ⟨hreg, hin⟩
      have hbefore := (Nat.exists_lt_succ_right.1 hreg).resolve_right (hregisters id)
      rcases hbefore with ⟨k, hk, hk'⟩
      refine ⟨⟨k, hk, hk'⟩, (hnew id hin).resolve_right fun hlate => ?_⟩
      exact absurd (h.issued k hk id hk') (Nat.not_lt_of_le hlate.1)
    · rintro ⟨hreg, hin⟩
      exact ⟨Nat.exists_lt_succ_right.2 (.inl hreg), hkept id hin⟩

/-- A window is let go of, and the listener that is held is removed. -/
theorem letGo (h : run.Accounted t) (hquiet : ¬ run.Displaces t)
    (hgrip : run.grip (t + 1) = (run.grip t).letGo) : run.Accounted (t + 1) := by
  have hlistening : (run.grip (t + 1)).listening = (run.grip t).listening.filter
      (fun id => (run.queue t).listener ≠ some id) := congrArg Grip.listening hgrip
  have hnext : (run.grip (t + 1)).next = (run.grip t).next := by rw [hgrip, Grip.letGo]
  have hlistener : (run.queue (t + 1)).listener = none := congrArg Grip.listener hgrip
  have hmem (id : Nat) : id ∈ (run.grip (t + 1)).listening ↔
      id ∈ (run.grip t).listening ∧ (run.queue t).listener ≠ some id := by
    rw [hlistening, List.mem_filter, decide_eq_true_eq]
  have hregisters (id : Nat) : ¬ run.Registers t id := fun ⟨_, hout, hin⟩ =>
    hout ((hmem id).1 hin).1
  exact {
    below := fun id hid => by rw [hnext]; exact h.below id ((hmem id).1 hid).1
    issued := fun k hk id hreg => by
      rcases Nat.lt_or_eq_of_le (Nat.le_of_lt_succ hk) with hk | rfl
      · rw [hnext]
        exact h.issued k hk id hreg
      · exact absurd hreg (hregisters id)
    older := fun k hk hlost id hid => by
      rcases Nat.lt_or_eq_of_le (Nat.le_of_lt_succ hk) with hk | rfl
      · refine ⟨by rw [hnext]; exact (h.older k hk hlost id hid).1, fun other hother => ?_⟩
        cases hlistener.symm.trans hother
      · exact absurd hlost hquiet
    registered := fun id => by
      have hbefore := h.registered id
      have hnone : ¬ (run.queue (t + 1)).listener = some id := by rw [hlistener]; exact nofun
      rw [Nat.exists_lt_succ_right, or_iff_left (b := run.Displaces t ∧ _)
        fun hlost => hquiet hlost.1, or_iff_right hnone]
      constructor
      · rintro ⟨hreg, hin⟩
        rcases (hmem id).1 hin with ⟨hin, hother⟩
        have hreg := (Nat.exists_lt_succ_right.1 hreg).resolve_right (hregisters id)
        exact (hbefore.1 ⟨hreg, hin⟩).resolve_left hother
      · rintro ⟨k, hk, hlost, hid⟩
        rcases hbefore.2 (.inr ⟨k, hk, hlost, hid⟩) with ⟨hreg, hin⟩
        -- What was displaced is older than what is held, so it is not removed in its place.
        refine ⟨Nat.exists_lt_succ_right.2 (.inl hreg), (hmem id).2 ⟨hin, fun hheld => ?_⟩⟩
        exact Nat.lt_irrefl id ((h.older k hk hlost id hid).2 id hheld) }

/-- A window is taken up with a new listener, and displaces the window that was held, if any. -/
theorem take {window : Nat} (h : run.Accounted t) (htakes : run.Takes t)
    (hpaired : (run.queue t).popup.isSome = (run.queue t).listener.isSome)
    (hm : ∀ change, run.move t ≠ .elsewhere change)
    (hgrip : run.grip (t + 1) = (run.grip t).take window) : run.Accounted (t + 1) := by
  have hlistening : (run.grip (t + 1)).listening =
      (run.grip t).listening ++ [(run.grip t).next] := congrArg Grip.listening hgrip
  have hnext : (run.grip (t + 1)).next = (run.grip t).next + 1 := congrArg Grip.next hgrip
  have hlistener : (run.queue (t + 1)).listener = some (run.grip t).next :=
    congrArg Grip.listener hgrip
  have hmem (id : Nat) : id ∈ (run.grip (t + 1)).listening ↔
      id ∈ (run.grip t).listening ∨ id = (run.grip t).next := by
    rw [hlistening, List.mem_append, List.mem_singleton]
  have hregisters (id : Nat) : run.Registers t id ↔ id = (run.grip t).next := by
    constructor
    · rintro ⟨_, hout, hin⟩
      exact ((hmem id).1 hin).resolve_left hout
    · rintro rfl
      exact ⟨hm, fun hin => Nat.lt_irrefl _ (h.below _ hin), (hmem _).2 (.inr rfl)⟩
  -- Whatever is held is displaced, since window and listener are held together.
  have hdisplaced (id : Nat) : run.Displaces t ∧ (run.queue t).listener = some id ↔
      (run.queue t).listener = some id := by
    refine ⟨And.right, fun hid => ⟨⟨htakes, ?_⟩, hid⟩⟩
    rw [hpaired, hid]
    rfl
  have hheld (id : Nat) (hid : (run.queue t).listener = some id) : id < (run.grip t).next :=
    h.below id ((h.registered id).2 (.inl hid)).2
  exact {
    below := fun id hid => by
      rw [hnext]
      rcases (hmem id).1 hid with hold | rfl
      · exact Nat.lt_succ_of_lt (h.below id hold)
      · exact Nat.lt_succ_self _
    issued := fun k hk id hreg => by
      rw [hnext]
      rcases Nat.lt_or_eq_of_le (Nat.le_of_lt_succ hk) with hk | rfl
      · exact Nat.lt_succ_of_lt (h.issued k hk id hreg)
      · exact Nat.lt_succ_of_le (Nat.le_of_eq ((hregisters id).1 hreg))
    older := fun k hk hlost id hid => by
      have hlt : id < (run.grip t).next := by
        rcases Nat.lt_or_eq_of_le (Nat.le_of_lt_succ hk) with hk | rfl
        · exact (h.older k hk hlost id hid).1
        · exact hheld id hid
      refine ⟨by rw [hnext]; exact Nat.lt_succ_of_lt hlt, fun other hother => ?_⟩
      rcases Option.some.inj (hlistener.symm.trans hother)
      exact hlt
    registered := fun id => by
      rw [Nat.exists_lt_succ_right, hdisplaced, or_comm (b := (run.queue t).listener = some id),
        ← h.registered id, hlistener, Option.some.injEq, eq_comm (a := (run.grip t).next)]
      constructor
      · rintro ⟨hreg, hin⟩
        rcases (hmem id).1 hin with hold | rfl
        · refine .inr ⟨(Nat.exists_lt_succ_right.1 hreg).resolve_right fun hnow => ?_, hold⟩
          exact absurd (h.below id hold)
            (Nat.not_lt_of_le (Nat.le_of_eq ((hregisters id).1 hnow).symm))
        · exact .inl rfl
      · rintro (rfl | ⟨hreg, hin⟩)
        · exact ⟨Nat.exists_lt_succ_right.2 (.inr ((hregisters _).2 rfl)), (hmem _).2 (.inr rfl)⟩
        · exact ⟨Nat.exists_lt_succ_right.2 (.inl hreg), (hmem id).2 (.inl hin)⟩ }

end Accounted

/-- By induction on the stages: the listeners are accounted for at all times. -/
theorem accounted (hrun : run.Fair) (t : Nat) : run.Accounted t := by
  -- The accounts are carried through a stage by what the stage does to the grip.
  induction t with
  | zero => exact .start hrun
  | succ t ih =>
      rcases run.own_or_elsewhere t with hm | ⟨change, hmove⟩
      · rcases run.grip_cases hm with ⟨hnot, hgrip⟩ | ⟨hnot, hgrip⟩ | ⟨htakes, window, hgrip⟩
        · refine ih.quiet (fun hlost => hnot hlost.1) (fun id hreg => ?_)
            (congrArg Grip.listener hgrip :) (Nat.le_of_eq (congrArg Grip.next hgrip).symm) ?_ ?_
          · rw [Registers, hgrip] at hreg
            exact hreg.2.1 hreg.2.2
          · rw [hgrip]
            exact fun _ => id
          · rw [hgrip]
            exact fun _ => .inl
        · exact ih.letGo (fun hlost => hnot hlost.1) hgrip
        · exact ih.take htakes (attended hrun.remembers t).paired hm hgrip
      · rcases hrun.counts t change hmove with ⟨hnext, hnew⟩
        refine ih.quiet
          (fun hlost =>
            not_takes_of_plain (by rw [(run.elsewhere_state hmove).1]; trivial) hlost.1)
          (fun id hreg => hreg.1 change hmove)
          (congrArg RequestQueue.listener (run.elsewhere_state hmove).2.1) hnext
          (fun id hid => ?_) hnew
        have hdesktop : (run.desk (t + 1)).desktop = change (run.desk t).desktop := by
          rw [desk, state, hmove]
          rfl
        rcases List.mem_map.1 hid with ⟨l, hl, rfl⟩
        refine List.mem_map.2 ⟨l, ?_, rfl⟩
        rw [hdesktop]
        exact hrun.remembers t change hmove hl

/-- The listeners that the desk has registered and that are registered still are the one that is
held and those that were given up with a window displaced. -/
theorem registered_iff (hrun : run.Fair) (t id : Nat) :
    run.Registered t id ↔ (run.queue t).listener = some id ∨
      ∃ k < t, run.Displaces k ∧ (run.queue k).listener = some id :=
  (accounted hrun t).registered id

/-- What is held is not among what was given up. -/
theorem displaced_ne (hrun : run.Fair) {id : Nat} (hk : k < t) (hlost : run.Displaces k)
    (hid : (run.queue k).listener = some id) : (run.queue t).listener ≠ some id :=
  fun hheld => Nat.lt_irrefl id (((accounted hrun t).older k hk hlost id hid).2 id hheld)

/-! ### Windows that are held for nobody -/

/-- A window that is held after a stage has been held during it. -/
theorem HeldSince.succ (h : run.HeldSince k t) (hheld : (run.queue (t + 1)).popup.isSome) :
    run.HeldSince k (t + 1) := by
  intro j hkj hj
  rcases Nat.lt_or_eq_of_le hj with hj | rfl
  · exact h j hkj (Nat.le_of_lt_succ hj)
  · exact hheld

/-- An empty queue holds a window only if one was stranded, and has held it since then. -/
theorem strands_of_empty (t : Nat) (hempty : (run.queue t).pending = [])
    (hheld : (run.queue t).popup.isSome) : ∃ k < t, run.Strands k ∧ run.HeldSince k t := by
  induction t with
  | zero => exact absurd hheld Bool.false_ne_true
  | succ t ih =>
      -- A stage that changes neither goes back to the one before; else this is the stage.
      have hearlier (hbefore : (run.queue t).pending = [])
          (hsame : (run.queue (t + 1)).popup = (run.queue t).popup) :
          ∃ k < t + 1, run.Strands k ∧ run.HeldSince k (t + 1) := by
        rcases ih hbefore (hsame ▸ hheld) with ⟨k, hk, hstrands, hsince⟩
        exact ⟨k, Nat.lt_succ_of_lt hk, hstrands, hsince.succ hheld⟩
      have hnow (hstrands : run.Strands t) : ∃ k < t + 1, run.Strands k ∧ run.HeldSince k (t + 1) :=
        ⟨t, Nat.lt_succ_self t, hstrands, fun j hlt hj => by
          rcases Nat.le_antisymm hj hlt
          exact hheld⟩
      rcases run.own_or_elsewhere t with hm | ⟨change, hmove⟩
      · have hhandled := run.handled hm
        generalize run.move t = m at hhandled
        generalize hresult : run.result t = result at hhandled
        cases hhandled with
        | behind others pending =>
            exact absurd (pending.symm.trans hempty) RequestQueue.pending_enqueue_ne_nil
        | awaits alone pending =>
            exact absurd (pending.symm.trans hempty) RequestQueue.pending_enqueue_ne_nil
        | opened alone pending =>
            exact absurd (pending.symm.trans hempty) RequestQueue.pending_enqueue_ne_nil
        | refused alone pending opening grip => exact hearlier alone (congrArg Grip.popup grip)
        | came asked pending => exact hnow (.inl ⟨hresult, pending.symm.trans hempty⟩)
        | failed asked pending opening grip =>
            have hsame : (run.queue (t + 1)).popup = (run.queue t).popup :=
              congrArg Grip.popup grip
            exact hnow (.inr ⟨⟨_, .inl hresult⟩, hsame ▸ hheld⟩)
        | emptied answer pending opening grip =>
            have hnone : (run.queue (t + 1)).popup = none := congrArg Grip.popup grip
            rw [hnone] at hheld
            exact absurd hheld Bool.false_ne_true
        | further answer pending empty opening grip =>
            exact hearlier (empty hempty) (congrArg Grip.popup grip)
      · have hsame := (run.elsewhere_state hmove).2.1
        exact hearlier (hsame ▸ hempty) (congrArg RequestQueue.popup hsame)

/-- A window that came late was on its way, and the queue is as it was. -/
theorem came_late (h : run.result k = .opened (.ok ())) : ∃ opener ∈ (run.state k).opening,
    run.move k = .windowComes opener.2 ∧ (run.queue (k + 1)).pending = (run.queue k).pending := by
  have hhandled := handled_of_answer h nofun
  generalize run.move k = m at hhandled
  cases hhandled with
  | @came opener _ _ asked pending => exact ⟨opener, asked, rfl, pending⟩
  | emptied answer => exact answer.elim
  | further answer => exact answer.elim

/-- A window that failed late was on its way, and the queue is empty. -/
theorem failed_late {failure : Error} (h : run.result k = .opened (.error failure)) :
    ∃ opener ∈ (run.state k).opening, run.move k = .windowComes opener.2 ∧
      (run.queue (k + 1)).pending = [] := by
  have hhandled := handled_of_answer h nofun
  generalize run.move k = m at hhandled
  cases hhandled with
  | @failed opener _ _ asked pending => exact ⟨opener, asked, rfl, pending⟩
  | emptied answer => exact answer.elim
  | further answer => exact answer.elim

/-- A question whose window failed at once was alone, and the queue is empty. -/
theorem failed_at_once {failure : Error} (h : run.result k = .submitted (.error failure)) :
    (run.queue k).pending = [] ∧ (run.queue (k + 1)).pending = [] := by
  have hhandled := handled_of_answer h nofun
  generalize run.move k = m at hhandled
  cases hhandled with
  | refused alone pending => exact ⟨alone, pending⟩
  | emptied answer => exact answer.elim
  | further answer => exact answer.elim

/-- The queue is empty when a window has been stranded. -/
theorem Strands.empty (hstrands : run.Strands k) : (run.queue (k + 1)).pending = [] := by
  rcases hstrands with ⟨hcame, hempty⟩ | ⟨⟨failure, hfailed | hrefused⟩, _⟩
  · rcases came_late hcame with ⟨_, _, _, hsame⟩
    exact hsame.trans hempty
  · rcases failed_late hfailed with ⟨_, _, _, hdropped⟩
    exact hdropped
  · exact (failed_at_once hrefused).2

/-- While a window is held and is not displaced, a question that joins an empty queue waits for a
window of its own. -/
theorem attended_succ (hheld : (run.queue t).popup.isSome) (hnot : ¬ run.Displaces t)
    (h : (run.queue t).pending ≠ [] → (run.state t).opening ≠ [])
    (hpending : (run.queue (t + 1)).pending ≠ []) : (run.state (t + 1)).opening ≠ [] := by
  rcases run.own_or_elsewhere t with hm | ⟨change, helsewhere⟩
  · have hhandled := run.handled hm
    generalize run.move t = m at hhandled
    generalize hresult : run.result t = result at hhandled
    -- The openings grow with the queue, and a case that takes a window or leaves the queue empty is
    -- excluded.
    cases hhandled with
    | behind others pending opening => exact opening ▸ h others
    | awaits alone pending opening =>
        rw [opening]
        exact List.append_ne_nil_of_right_ne_nil _ nofun
    | opened alone => exact absurd ⟨.inr ⟨alone, _, _, hresult⟩, hheld⟩ hnot
    | refused alone pending => exact absurd pending hpending
    | came => exact absurd ⟨.inl hresult, hheld⟩ hnot
    | failed asked pending => exact absurd pending hpending
    | emptied answer pending => exact absurd pending hpending
    | further answer pending empty opening =>
        have hbefore : (run.queue t).pending ≠ [] := fun hempty =>
          hpending (List.sublist_nil.1 (hempty ▸ pending))
        exact opening ▸ h hbefore
  · rcases run.elsewhere_state helsewhere with ⟨_, hqueue, hopening⟩
    rw [hopening]
    exact h (hqueue ▸ hpending)

/-- A window that was stranded shows no question as long as nothing displaces it. -/
theorem stranded_attended (hstrands : run.Strands k) (hlt : k < t) (hsince : run.HeldSince k t)
    (hnone : ∀ j < t, ¬ run.Displaces j) :
    (run.queue t).pending ≠ [] → (run.state t).opening ≠ [] := by
  induction hlt with
  | refl => exact fun hpending => absurd hstrands.empty hpending
  | @step t hlt ih =>
      exact attended_succ (hsince t hlt (Nat.le_succ t)) (hnone t (Nat.lt_succ_self t))
        (ih (fun j hkj hj => hsince j hkj (Nat.le_succ_of_le hj))
          fun j hj => hnone j (Nat.lt_succ_of_lt hj))

/-! ### Windows that come in time -/

/-- A question for which a window is on its way is in the queue still. -/
def Awaited (run : DeskRun) (t channel : Nat) : Prop :=
  ∃ e ∈ (run.queue t).pending, e.channel = channel

/-- As long as no window was late, a window is held only while it is needed, and a question that
waits for its own window holds none. -/
structure Punctual (run : DeskRun) (t : Nat) : Prop where
  unheld : (run.queue t).pending = [] → (run.queue t).popup = none
  awaited : ∀ opener ∈ (run.state t).opening, run.Awaited t opener.2 → (run.queue t).popup = none
  single : ∀ a ∈ (run.state t).opening, ∀ b ∈ (run.state t).opening,
    run.Awaited t a.2 → run.Awaited t b.2 → a.2 = b.2

/-- A window that is not late is awaited. -/
theorem awaited_of_not_late {opener : UInt64 × Nat} (hlate : ¬ run.Late k)
    (hasked : opener ∈ (run.state k).opening) (hmove : run.move k = .windowComes opener.2) :
    run.Awaited k opener.2 := by
  by_contra hnone
  exact hlate ⟨opener, hasked, hmove, fun e he hsame => hnone ⟨e, he, hsame⟩⟩

/-- Nobody in an empty queue waits for a window. -/
theorem not_awaited_of_empty (hempty : (run.queue t).pending = []) (channel : Nat) :
    ¬ run.Awaited t channel :=
  fun ⟨_, he, _⟩ => absurd (hempty ▸ he) List.not_mem_nil

namespace Punctual

/-- Where no window is held, there is none that could be held for too long. -/
theorem of_unheld (hpopup : (run.queue t).popup = none) (hsingle : ∀ a ∈ (run.state t).opening,
    ∀ b ∈ (run.state t).opening, run.Awaited t a.2 → run.Awaited t b.2 → a.2 = b.2) :
    run.Punctual t where
  unheld := fun _ => hpopup
  awaited := fun _ _ _ => hpopup
  single := hsingle

/-- An empty queue without a window is in time whatever is on its way. -/
theorem of_empty (hpopup : (run.queue t).popup = none) (hempty : (run.queue t).pending = []) :
    run.Punctual t :=
  .of_unheld hpopup fun _ _ _ _ hw => absurd hw (not_awaited_of_empty hempty _)

/-- Who waits for no window has not been kept waiting. -/
theorem of_unawaited (hpending : (run.queue t).pending ≠ [])
    (hnone : ∀ o ∈ (run.state t).opening, ¬ run.Awaited t o.2) : run.Punctual t where
  unheld := fun hempty => absurd hempty hpending
  awaited := fun o ho hw => absurd hw (hnone o ho)
  single := fun a ha _ _ hwa _ => absurd hwa (hnone a ha)

/-- Who is on the way was so before, and waits now only if it waited before. -/
theorem of_same (h : run.Punctual t) (hpopup : (run.queue (t + 1)).popup = (run.queue t).popup)
    (hempty : (run.queue (t + 1)).pending = [] → (run.queue t).pending = [])
    (hopening : (run.state (t + 1)).opening = (run.state t).opening)
    (hawaited : ∀ opener ∈ (run.state t).opening, run.Awaited (t + 1) opener.2 →
      run.Awaited t opener.2) : run.Punctual (t + 1) where
  unheld := fun hp => hpopup.trans (h.unheld (hempty hp))
  awaited := fun o ho hw => by
    rw [hopening] at ho
    exact hpopup.trans (h.awaited o ho (hawaited o ho hw))
  single := fun a ha b hb hwa hwb => by
    rw [hopening] at ha hb
    exact h.single a ha b hb (hawaited a ha hwa) (hawaited b hb hwb)

/-- A question that has joined is not one for which a window was on its way. -/
theorem awaited_enqueue {kind : RequestKind} {payload : Json} {opener : UInt64 × Nat}
    (hpending : (run.queue (t + 1)).pending = ((run.queue t).enqueue kind payload).pending)
    (ho : opener ∈ (run.state t).opening) (hw : run.Awaited (t + 1) opener.2) :
    run.Awaited t opener.2 := by
  rcases hw with ⟨e, he, hsame⟩
  rw [hpending] at he
  rcases List.mem_append.1 he with hold | hnew
  · exact ⟨e, hold, hsame⟩
  · rw [List.mem_singleton.1 hnew] at hsame
    exact absurd hsame (Nat.ne_of_gt ((run.sound t).opening opener ho).2)

/-- Being in time is preserved by every stage in which no window is late. -/
theorem succ (h : run.Punctual t) (hlate : ¬ run.Late t) : run.Punctual (t + 1) := by
  rcases run.own_or_elsewhere t with hm | ⟨change, helsewhere⟩
  · have hhandled := run.handled hm
    generalize hmove : run.move t = m at hhandled
    generalize run.result t = result at hhandled
    cases hhandled with
    | behind others pending opening grip =>
        exact h.of_same (congrArg Grip.popup grip)
          (fun hempty => absurd (pending.symm.trans hempty) RequestQueue.pending_enqueue_ne_nil)
          opening fun o ho hw => awaited_enqueue pending ho hw
    | awaits alone pending opening grip =>
        have hpopup : (run.queue (t + 1)).popup = none :=
          (congrArg Grip.popup grip).trans (h.unheld alone)
        -- Nobody else waits, since the queue was empty.
        have honly (o : UInt64 × Nat) (ho : o ∈ (run.state (t + 1)).opening)
            (hw : run.Awaited (t + 1) o.2) : o.2 = (run.queue t).nextChannel := by
          rw [opening] at ho
          rcases List.mem_append.1 ho with hold | hnew
          · exact absurd (awaited_enqueue pending hold hw) (not_awaited_of_empty alone _)
          · rw [List.mem_singleton.1 hnew]
            rfl
        exact .of_unheld hpopup fun a ha b hb hwa hwb =>
          (honly a ha hwa).trans (honly b hb hwb).symm
    | opened alone pending opening grip =>
        refine .of_unawaited ?_ fun o ho hw => ?_
        · exact fun hempty => RequestQueue.pending_enqueue_ne_nil (pending.symm.trans hempty)
        · rw [opening] at ho
          exact not_awaited_of_empty alone _ (awaited_enqueue pending ho hw)
    | refused alone pending opening grip =>
        exact .of_empty ((congrArg Grip.popup grip).trans (h.unheld alone)) pending
    | @came opener window _ asked pending opening grip =>
        have hwaits := awaited_of_not_late hlate asked hmove
        have hsame (channel : Nat) : run.Awaited (t + 1) channel ↔ run.Awaited t channel := by
          rw [Awaited, show (run.queue (t + 1)).pending = (run.queue t).pending from pending]
          exact Iff.rfl
        refine .of_unawaited (fun hempty => ?_) fun o ho hw => ?_
        · exact not_awaited_of_empty hempty _ ((hsame _).2 hwaits)
        · -- The one whose window this is was the only one to wait.
          rw [opening] at ho
          rcases List.mem_filter.1 ho with ⟨hold, hother⟩
          exact of_decide_eq_true hother
            (h.single o hold opener asked ((hsame _).1 hw) hwaits)
    | @failed opener failure _ asked pending opening grip =>
        have hpopup := h.awaited opener asked (awaited_of_not_late hlate asked hmove)
        exact .of_empty ((congrArg Grip.popup grip).trans hpopup) pending
    | emptied answer pending opening grip => exact .of_empty (congrArg Grip.popup grip) pending
    | further answer pending empty opening grip =>
        exact h.of_same (congrArg Grip.popup grip) empty opening
          fun o _ ⟨e, he, hsame⟩ => ⟨e, pending.mem he, hsame⟩
  · rcases run.elsewhere_state helsewhere with ⟨_, hqueue, hopening⟩
    exact h.of_same (by rw [hqueue]) (by rw [hqueue]; exact id) hopening
      fun o _ ⟨e, he, hsame⟩ => ⟨e, hqueue ▸ he, hsame⟩

/-- In time, a window comes to a queue that holds none and waits for it. -/
theorem unharmed (h : run.Punctual t) (hlate : ¬ run.Late t) :
    ¬ run.Displaces t ∧ ¬ run.Strands t := by
  -- A window that comes in time comes to a desk that holds none.
  have hwaits {opener : UInt64 × Nat} (hasked : opener ∈ (run.state t).opening)
      (hmove : run.move t = .windowComes opener.2) : (run.queue t).popup = none :=
    h.awaited opener hasked (awaited_of_not_late hlate hasked hmove)
  refine ⟨fun ⟨htakes, hheld⟩ => ?_, fun hstrands => ?_⟩
  · have hnone : (run.queue t).popup = none := by
      rcases htakes with hcame | ⟨halone, _⟩
      · rcases came_late hcame with ⟨opener, hasked, hmove, _⟩
        exact hwaits hasked hmove
      · exact h.unheld halone
    rw [hnone] at hheld
    exact absurd hheld Bool.false_ne_true
  · rcases hstrands with ⟨hcame, hempty⟩ | ⟨⟨failure, hlost⟩, hheld⟩
    · rcases came_late hcame with ⟨opener, hasked, hmove, _⟩
      rcases awaited_of_not_late hlate hasked hmove with ⟨e, he, _⟩
      exact absurd (hempty ▸ he) List.not_mem_nil
    · have hnone : (run.queue t).popup = none := by
        rcases hlost with hfailed | hrefused
        · rcases failed_late hfailed with ⟨opener, hasked, hmove, _⟩
          exact hwaits hasked hmove
        · exact h.unheld (failed_at_once hrefused).1
      rw [hnone] at hheld
      exact absurd hheld Bool.false_ne_true

end Punctual

/-- If no window was late so far, everything is in time. -/
theorem punctual (hlate : ∀ k < t, ¬ run.Late k) : run.Punctual t := by
  induction t with
  | zero => exact .of_empty rfl rfl
  | succ t ih =>
      exact (ih fun k hk => hlate k (Nat.lt_succ_of_lt hk)).succ (hlate t (Nat.lt_succ_self t))

/-- Nothing leaks but by a window that is late. -/
theorem late_of_leaks (hleaks : run.Leaks t) : ∃ k < t, run.Late k := by
  by_contra hnone
  have hlate (k : Nat) (hk : k < t) : ¬ run.Late k := fun h => hnone ⟨k, hk, h⟩
  have hunharmed (k : Nat) (hk : k < t) : ¬ run.Displaces k ∧ ¬ run.Strands k :=
    (punctual fun j hj => hlate j (Nat.lt_trans hj hk)).unharmed (hlate k hk)
  rcases hleaks with ⟨k, hk, hdisplaces⟩ | ⟨k, hk, hstrands, _⟩
  · exact (hunharmed k hk).1 hdisplaces
  · exact (hunharmed k hk).2 hstrands

/-! ### Tidiness -/

/-- Window and listener are held together. -/
theorem listener_of_popup (hrun : run.Fair) (hheld : (run.queue t).popup.isSome) :
    ∃ id, (run.queue t).listener = some id :=
  Option.isSome_iff_exists.1 ((attended hrun.remembers t).paired.symm.trans hheld)

/-- When no window is on its way, the desk is tidy unless something has leaked and is there still,
and nothing leaks but by a window that came, or failed to come, when its question had left the queue
already. -/
theorem tidy_unless_leaking (run : DeskRun) (hrun : run.Fair) (t : Nat)
    (hnone : (run.state t).opening = []) :
    (run.Tidy t ↔ ¬ run.Leaks t) ∧ (run.Leaks t → ∃ k < t, run.Late k) := by
  refine ⟨⟨fun htidy hleaks => ?_, fun hnot => ?_⟩, late_of_leaks⟩
  · by_cases hdisplaced : ∃ k < t, run.Displaces k
    · -- A listener that was given up is registered, and is not the one that is held.
      rcases hdisplaced with ⟨k, hk, hlost⟩
      rcases listener_of_popup hrun hlost.2 with ⟨id, hid⟩
      have hregistered := (registered_iff hrun t id).2 (.inr ⟨k, hk, hlost, hid⟩)
      by_cases hempty : (run.queue t).pending = []
      · exact (htidy.empty hempty).2.2 id hregistered
      · rcases htidy.busy hempty with ⟨held, hheld, hall⟩
        rw [← (hall id).1 hregistered] at hheld
        exact displaced_ne hrun hk hlost hid hheld
    · -- A window that is stranded is held for an empty queue, since none is on its way.
      have hundisplaced (j : Nat) (hj : j < t) : ¬ run.Displaces j :=
        fun hlost => hdisplaced ⟨j, hj, hlost⟩
      rcases hleaks.resolve_left hdisplaced with ⟨k, hk, hstrands, hsince⟩
      have hheld := hsince t hk (Nat.le_refl t)
      have hempty : (run.queue t).pending = [] := by
        by_contra hpending
        exact stranded_attended hstrands hk hsince hundisplaced hpending hnone
      rw [(htidy.empty hempty).1] at hheld
      exact absurd hheld Bool.false_ne_true
  -- Nothing has leaked, so the listener that is held is the only one that is registered.
  · have hregistered (id : Nat) : run.Registered t id ↔ (run.queue t).listener = some id := by
      rw [registered_iff hrun, or_iff_left]
      exact fun ⟨k, hk, hlost, _⟩ => hnot (.inl ⟨k, hk, hlost⟩)
    refine ⟨fun hempty => ?_, fun hpending => ?_⟩
    · have hpopup : (run.queue t).popup = none := by
        by_contra hheld
        exact hnot (.inr (strands_of_empty t hempty (Option.isSome_iff_ne_none.2 hheld)))
      have hlistener : (run.queue t).listener = none := by
        have hpaired := (attended hrun.remembers t).paired
        rw [show (run.state t).desk.queue.popup = none from hpopup] at hpaired
        exact Option.not_isSome_iff_eq_none.1 (Bool.eq_false_iff.1 hpaired.symm)
      exact ⟨hpopup, hlistener, fun id hid => by
        cases hlistener.symm.trans ((hregistered id).1 hid)⟩
    · have hheld := ((attended hrun.remembers t).attended hpending).resolve_right
        (not_not_intro hnone)
      rcases listener_of_popup hrun hheld with ⟨id, hid⟩
      refine ⟨id, hid, fun other => ?_⟩
      rw [hregistered, hid, Option.some.injEq, eq_comm]

/-- The only question is decided while its window is being opened, and then the window comes. -/
def forgottenWindow : DeskRun where
  desktop := { holdsNext := true }
  move
    | 0 => .submit .approve .null
    | 1 => .finalize { id := 0, status := .reject }
    | 2 => .windowComes 0
    | _ => .elsewhere id

theorem forgottenWindow_fair : forgottenWindow.Fair where
  fresh := fun _ h => absurd h List.not_mem_nil
  remembers := by
    rintro (_ | _ | _ | t) change hmove
    · cases hmove
    · cases hmove
    · cases hmove
    · cases hmove
      exact List.Subset.refl _
  counts := by
    rintro (_ | _ | _ | t) change hmove
    · cases hmove
    · cases hmove
    · cases hmove
    · cases hmove
      exact ⟨Nat.le_refl _, fun _ => .inl⟩

/-- The window and its listener are kept although the queue is empty. -/
theorem forgottenWindow_leaks : forgottenWindow.Leaks 3 := by
  refine .inr ⟨2, by decide, .inl ⟨rfl, rfl⟩, fun j hlt hle => ?_⟩
  rcases Nat.le_antisymm hle hlt
  rfl

theorem tidy_unless_leaking_forgottenWindow :
    forgottenWindow.Fair ∧ (forgottenWindow.state 3).opening = [] ∧
      forgottenWindow.Leaks 3 ∧ ¬ forgottenWindow.Tidy 3 ∧ ∃ k < 3, forgottenWindow.Late k :=
  have h := tidy_unless_leaking forgottenWindow forgottenWindow_fair 3 rfl
  ⟨forgottenWindow_fair, rfl, forgottenWindow_leaks,
    fun htidy => h.1.1 htidy forgottenWindow_leaks, h.2 forgottenWindow_leaks⟩

/-- Although its queue is empty and no window is on its way, the desk holds a window, and a listener
that it registered is registered still. -/
theorem forgottenWindow_untidy : (forgottenWindow.queue 3).requests = [] ∧
    (forgottenWindow.state 3).opening = [] ∧ (forgottenWindow.queue 3).popup = some 1 ∧
    (forgottenWindow.queue 3).listener = some 0 ∧ forgottenWindow.Registered 3 0 ∧
    ¬ forgottenWindow.Tidy 3 := by
  refine ⟨rfl, rfl, rfl, rfl, ?_, fun htidy => ?_⟩
  · refine ⟨⟨2, by decide, fun _ => nofun, List.not_mem_nil, ?_⟩, ?_⟩
    · exact List.mem_singleton_self 0
    · exact List.mem_singleton_self 0
  · cases (htidy.empty rfl).1

end DeskRun

end WalletTrust

import WalletTrust.Proofs.Tidiness

/-!
# Questions Decided in Any Order

The order in which the user decides makes no difference.

A decision takes its question out of wherever it stands in the queue, and the others keep their
order and their channels. So all that a sequence of decisions leaves behind is described by what is
gone: `Desk.Decides` says this of any part of the sequence and is put together from its parts. Which
question was decided first does not appear in it, except in the order of the messages.

The queue runs empty with the last decision and not before, since each takes out one question. Only
then is the listener removed and the window asked to close. By that time the queue has let go of
both, so the host may report the closing as it likes: there is nobody left to be rejected, and no
window that would be recognised.

Two questions may have the same number once numbers have begun anew. A decision on the number then
settles one of them, and a second decision the other.

## Main definitions

* `Decisions`: What the user decides, by number.
* `Desk.decideAll`: One decision after the other.
* `Desk.Decides`, `Desk.Concludes`: What some decisions leave behind, and what all of them do.
* `Desk.OrderFree`: What is the same in every order.

## Theorems

* `Desk.closeWindow_recorded`: Closing a window that the queue is not shown in is recorded, and that
  is all.
* `Desk.decideAll_decides`, `Desk.decideAll_concludes`: Sequences of decisions.
* `DeskRun.paired`: Window and listener are held together.
* `DeskRun.order_free`: Questions may be decided in any order.
* `RequestQueue.dequeue_perm`, `RequestQueue.Sound.find?_perm`: Taking a question out of the queue,
  in any order.
* `Desk.finalize_decides`, `Desk.finalize_concludes`: A decision that leaves questions in the queue,
  and the last one.
* `Desk.Concludes.answer?`, `Desk.Concludes.alike`: What all decisions leave behind.
* `DeskRun.order_free_threeWaiting`: Of three questions the last is decided first.
-/

namespace WalletTrust

/-- What the user decides on the question of a number, with the data of the decision. -/
abbrev Decisions := UInt64 → Decision × Option Json

namespace Decisions

def request (decisions : Decisions) (id : UInt64) : FinalizeRequest where
  id := id
  status := (decisions id).1
  data := (decisions id).2

/-- What the asker of a question is told. -/
def outcome (decisions : Decisions) (id : UInt64) : Except Error Json :=
  (decisions id).1.outcome (decisions id).2

/-- The answer on the channel of a question. -/
def answer (decisions : Decisions) (e : QueuedRequest) : Nat × Except Error Json :=
  (e.channel, decisions.outcome e.id)

end Decisions

namespace RequestQueue

variable {q : RequestQueue} {e : QueuedRequest} {id : UInt64}

theorem settle_eq_dequeue (e : QueuedRequest) (outcome : Except Error Json) :
    (q.settle e outcome).pending = (q.dequeue e.id).pending := by
  rw [settle]
  split
  · rfl
  · rfl

/-- A question that is taken out of the queue leaves the others there. -/
theorem dequeue_perm (found : q.find? id = some e) :
    (e :: (q.dequeue e.id).pending).Perm q.pending := by
  rcases settle_pending found (.ok .null) with ⟨before, after, hsplit, hrest⟩
  rw [← settle_eq_dequeue e (.ok .null), hrest, hsplit]
  exact List.perm_middle.symm

theorem find?_of_mem (h : id ∈ q.pending.map (·.id)) : ∃ e, q.find? id = some e ∧ e.id = id := by
  rcases hfind : q.find? id with _ | e
  · rcases List.mem_map.1 h with ⟨e, he, hid⟩
    exact absurd (decide_eq_true hid) (List.find?_eq_none.1 hfind e he)
  · exact ⟨e, rfl, (mem_of_find? hfind).2⟩

/-- Whoever waits on a channel is found there in any order, as nobody else waits on it. -/
theorem Sound.find?_perm (h : q.Sound) {entries : List QueuedRequest}
    (hperm : entries.Perm q.pending) (c : Nat) :
    entries.find? (fun e => e.channel = c) = q.waiter? c := by
  rcases hfind : entries.find? fun e => e.channel = c with _ | e
  · refine hfind.trans (waiter?_eq_none.2 fun e he hchannel => ?_).symm
    exact List.find?_eq_none.1 hfind e (hperm.mem_iff.2 he) (decide_eq_true hchannel)
  · refine hfind.trans ?_
    have hchannel : e.channel = c := by
      simpa only [decide_eq_true_eq] using List.find?_some hfind
    rw [← hchannel, h.waiter?_of_mem (hperm.mem_iff.1 (List.mem_of_find?_eq_some hfind))]

end RequestQueue

namespace Desk

variable {d t u : Desk} {decisions : Decisions} {id : UInt64} {order rest : List UInt64}
  {entry : QueuedRequest} {listener : Nat}

/-! ## Exactly what is recorded -/

theorem broadcastQueue_recorded (d : Desk) : ∃ event : HostEvent, event.shown?.isSome ∧
    (broadcastQueue d).2 = { d with desktop := d.desktop.record event } := by
  have hrun : (broadcastQueue d).2 = { d with
      desktop := (Desktop.broadcast (.pendingRequests d.queue.requests) d.desktop).2 } := rfl
  rw [hrun, Desktop.broadcast]
  split
  · exact ⟨.broadcastLost (.pendingRequests d.queue.requests), rfl, rfl⟩
  · exact ⟨.broadcast (.pendingRequests d.queue.requests), rfl, rfl⟩

/-- No listener does anything about a window that the queue is not shown in. -/
theorem callListeners_elsewhere {window : Nat} (h : d.queue.popup ≠ some window)
    (listeners : List CloseListener) : callListeners window listeners d = (.ok (), d) := by
  induction listeners with
  | nil => rfl
  | cons l rest ih =>
      rw [callListeners]
      by_cases hlive : l.live = true
      · rw [if_pos hlive, Op.bind_ok (surfaceClosed_other h)]
        exact ih
      · rw [if_neg hlive]
        exact ih

theorem closeWindow_recorded (id : Option Nat)
    (h : ∀ window, id.or d.desktop.lastWindow = some window → d.queue.popup ≠ some window) :
    (closeWindow id d).2 = { d with desktop := d.desktop.record (.closeRequested id) } := by
  -- The host fails, or closes nothing, or closes a window and calls the listeners.
  have hasked : Desktop.requestClose id d.desktop =
        (.error (.transport "window is gone"), d.desktop.record (.closeRequested id)) ∨
      Desktop.requestClose id d.desktop =
        (.ok (id.or d.desktop.lastWindow), d.desktop.record (.closeRequested id)) := by
    rw [Desktop.requestClose]
    split
    · exact .inl rfl
    · exact .inr rfl
  rcases hasked with hclose | hclose
  · rw [closeWindow, Op.bind_error (by rw [onDesktop, Op.zoom, hclose])]
  · rw [closeWindow, Op.bind_ok (by rw [onDesktop, Op.zoom, hclose])]
    rcases hlast : id.or d.desktop.lastWindow with _ | window
    · rfl
    · exact congrArg Prod.snd (callListeners_elsewhere (d := { d with
        desktop := d.desktop.record (.closeRequested id) }) (h window hlast) d.desktop.listeners)

/-- The listener is removed and the window asked to close, in this order. -/
theorem dismiss_recorded (h : d.queue.popup = none) {queue : RequestQueue}
    (hlistener : queue.listener = some listener) :
    dismiss queue d = (.ok (), { d with
      desktop := { d.desktop with
        listeners := d.desktop.listeners.filter fun l => l.id ≠ listener
        log := d.desktop.log ++ [.listenerRemoved listener, .closeRequested queue.popup] } }) := by
  have hrun : dismiss queue d = (.ok (), (closeWindow queue.popup { d with
      desktop := (Desktop.removeListener listener d.desktop).2 }).2) := by
    simp only [dismiss, hlistener]
    rfl
  -- The desk has let go of the window, so that its closing does not come back as a rejection.
  have hunheld : ∀ window, d.queue.popup ≠ some window := by
    rw [h]
    exact fun _ => (Option.some_ne_none _).symm
  have hclosed := closeWindow_recorded (d := { d with
    desktop := (Desktop.removeListener listener d.desktop).2 }) queue.popup fun window _ =>
      hunheld window
  rw [hrun, hclosed]
  simp only [Desktop.record, Desktop.removeListener, List.append_assoc, List.singleton_append]

/-! ## What decisions leave behind -/

/-- Some questions have been decided. They are gone and have their answers; the queue was shown, and
nothing else has happened. -/
structure Decides (decisions : Decisions) (order : List UInt64) (d t : Desk) : Prop where
  queue : t.queue =
    { d.queue with pending := t.queue.pending, answers := t.queue.answers }
  gone : ∃ gone : List QueuedRequest, (gone ++ t.queue.pending).Perm d.queue.pending ∧
    gone.map (·.id) = order ∧ t.queue.answers = d.queue.answers ++ gone.map decisions.answer
  desktop : ∃ shows : List HostEvent, (∀ event ∈ shows, event.shown?.isSome) ∧
    t.desktop = { d.desktop with log := d.desktop.log ++ shows }

/-- All questions have been decided. The listener was removed after all had been answered, and then
the window was asked to close. -/
structure Concludes (decisions : Decisions) (order : List UInt64) (listener : Nat) (d t : Desk) :
    Prop where
  queue : t.queue = { d.queue with
    pending := [], popup := none, listener := none, answers := t.queue.answers }
  gone : ∃ gone : List QueuedRequest, gone.Perm d.queue.pending ∧
    gone.map (·.id) = order ∧ t.queue.answers = d.queue.answers ++ gone.map decisions.answer
  desktop : ∃ shows : List HostEvent, (∀ event ∈ shows, event.shown?.isSome) ∧
    t.desktop = { d.desktop with
      listeners := d.desktop.listeners.filter fun l => l.id ≠ listener
      log := d.desktop.log ++ shows ++
        [.listenerRemoved listener, .closeRequested d.queue.popup] }

namespace Decides

theorem refl (decisions : Decisions) (d : Desk) : Decides decisions [] d d where
  queue := rfl
  gone := ⟨[], .refl _, rfl, (List.append_nil _).symm⟩
  desktop := ⟨[], fun _ h => absurd h List.not_mem_nil, by rw [List.append_nil]⟩

theorem trans (h : Decides decisions order d t) (k : Decides decisions rest t u) :
    Decides decisions (order ++ rest) d u where
  queue := by
    rw [k.queue, h.queue]
  -- Those that leave in the second part were left over by the first.
  gone := by
    rcases h.gone with ⟨first, hfirst, hids, hanswers⟩
    rcases k.gone with ⟨second, hsecond, hids', hanswers'⟩
    refine ⟨first ++ second, ?_, ?_, ?_⟩
    · rw [List.append_assoc]
      exact (hsecond.append_left first).trans hfirst
    · rw [List.map_append, hids, hids']
    · rw [hanswers', hanswers, List.append_assoc, List.map_append]
  desktop := by
    rcases h.desktop with ⟨shows, hshows, hdesktop⟩
    rcases k.desktop with ⟨shows', hshows', hdesktop'⟩
    refine ⟨shows ++ shows', ?_, ?_⟩
    · exact List.forall_mem_append.2 ⟨hshows, hshows'⟩
    · rw [hdesktop', hdesktop, List.append_assoc]

theorem conclude (h : Decides decisions order d t) (k : Concludes decisions rest listener t u) :
    Concludes decisions (order ++ rest) listener d u where
  queue := by
    rw [k.queue, h.queue]
  gone := by
    rcases h.gone with ⟨first, hfirst, hids, hanswers⟩
    rcases k.gone with ⟨second, hsecond, hids', hanswers'⟩
    refine ⟨first ++ second, ?_, ?_, ?_⟩
    · exact (hsecond.append_left first).trans hfirst
    · rw [List.map_append, hids, hids']
    · rw [hanswers', hanswers, List.append_assoc, List.map_append]
  desktop := by
    rcases h.desktop with ⟨shows, hshows, hdesktop⟩
    rcases k.desktop with ⟨shows', hshows', hdesktop'⟩
    refine ⟨shows ++ shows', ?_, ?_⟩
    · exact List.forall_mem_append.2 ⟨hshows, hshows'⟩
    · rw [hdesktop', hdesktop, h.queue]
      simp only [List.append_assoc]

/-- What is left to be decided, by number. -/
theorem left (h : Decides decisions order d t)
    (horder : (order ++ rest).Perm (d.queue.pending.map (·.id))) :
    rest.Perm (t.queue.pending.map (·.id)) := by
  rcases h.gone with ⟨gone, hgone, hids, -⟩
  have hall := horder.trans (hgone.map (·.id)).symm
  rw [List.map_append, hids] at hall
  exact (List.perm_append_left_iff order).1 hall

end Decides

/-! ## One decision -/

/-- A decision that leaves questions in the queue. -/
theorem finalize_decides (decisions : Decisions) (h : d.queue.find? id = some entry)
    (hmore : ¬ (d.queue.dequeue entry.id).pending.isEmpty = true) :
    ∃ t, finalize (decisions.request id) d = (.ok true, t) ∧ Decides decisions [id] d t := by
  have hid := (RequestQueue.mem_of_find? h).2
  have hasked : d.queue.find? (decisions.request id).id = some entry := h
  rcases broadcastQueue_recorded { d with
    queue := d.queue.settle entry ((decisions id).1.outcome (decisions id).2) } with
    ⟨event, hevent, hshown⟩
  rw [finalize_found hasked, if_neg hmore, Op.pure_apply]
  refine ⟨_, rfl, ?_⟩
  rw [Decisions.request, hshown]
  refine ⟨?_, ⟨[entry], ?_, congrArg (· :: []) hid, ?_⟩, ⟨[event], ?_, rfl⟩⟩
  · simp only [RequestQueue.settle, if_neg hmore]
    rfl
  -- The one that is taken out and those that stay are what was pending.
  · rw [List.singleton_append, RequestQueue.settle_eq_dequeue]
    exact RequestQueue.dequeue_perm h
  · rw [RequestQueue.settle_answers, List.map_singleton, Decisions.answer, Decisions.outcome, hid]
  · exact fun e he => List.mem_singleton.1 he ▸ hevent

/-- The decision on the only question in the queue. -/
theorem finalize_concludes (decisions : Decisions) (h : d.queue.find? id = some entry)
    (hlast : (d.queue.dequeue entry.id).pending.isEmpty = true)
    (hlistener : d.queue.listener = some listener) :
    ∃ t, finalize (decisions.request id) d = (.ok true, t) ∧
      Concludes decisions [id] listener d t := by
  have hid := (RequestQueue.mem_of_find? h).2
  rcases broadcastQueue_recorded { d with
    queue := d.queue.settle entry ((decisions id).1.outcome (decisions id).2) } with
    ⟨event, hevent, hshown⟩
  have hfree : (d.queue.settle entry ((decisions id).1.outcome (decisions id).2)).popup = none := by
    rw [RequestQueue.settle, if_pos hlast]
    rfl
  have hasked : d.queue.find? (decisions.request id).id = some entry := h
  -- It was the last, so the desk lets go of the window, and the window is closed after that.
  have hrun := finalize_found hasked
  rw [if_pos hlast, Decisions.request, hshown, Op.bind_ok (dismiss_recorded hfree hlistener),
    Op.pure_apply] at hrun
  refine ⟨_, hrun, ?_, ⟨[entry], ?_, congrArg (· :: []) hid, ?_⟩, ⟨[event], ?_, ?_⟩⟩
  · have hempty := List.isEmpty_iff.1 hlast
    simp only [RequestQueue.settle, if_pos hlast]
    simp only [RequestQueue.answer, RequestQueue.letGo, hempty]
    rfl
  · have hperm := RequestQueue.dequeue_perm h
    rw [List.isEmpty_iff.1 hlast] at hperm
    exact hperm
  · rw [RequestQueue.settle_answers, List.map_singleton, Decisions.answer, Decisions.outcome, hid]
  · exact fun e he => List.mem_singleton.1 he ▸ hevent
  · rfl

/-! ## Sequences of decisions -/

/-- Decide some questions, one after the other. The answers tell whether there was one of each
number. -/
def decideAll (decisions : Decisions) : List UInt64 → Op Desk (List Bool)
  | [] => pure []
  | id :: rest => do
    let known ← finalize (decisions.request id)
    let others ← decideAll decisions rest
    return known :: others

theorem decideAll_cons {known : Bool} {others : List Bool}
    (h : finalize (decisions.request id) d = (.ok known, t))
    (k : decideAll decisions rest t = (.ok others, u)) :
    decideAll decisions (id :: rest) d = (.ok (known :: others), u) := by
  rw [decideAll, Op.bind_ok h, Op.bind_ok k, Op.pure_apply]

/-- The number of a question is found, and the question is the last one only if no others are to be
decided. -/
theorem find?_next (horder : (id :: rest).Perm (d.queue.pending.map (·.id))) :
    ∃ e, d.queue.find? id = some e ∧
      ((d.queue.dequeue e.id).pending.isEmpty = true ↔ rest = []) := by
  rcases RequestQueue.find?_of_mem (horder.mem_iff.1 List.mem_cons_self) with ⟨e, hfind, _⟩
  refine ⟨e, hfind, ?_⟩
  have hlength := horder.length_eq
  rw [List.length_map, ← (RequestQueue.dequeue_perm hfind).length_eq, List.length_cons,
    List.length_cons, Nat.add_right_cancel_iff] at hlength
  rw [List.isEmpty_iff_length_eq_zero, ← hlength, List.length_eq_zero_iff]

/-- Some of the questions are decided. -/
theorem decideAll_decides (decisions : Decisions)
    (horder : (order ++ rest).Perm (d.queue.pending.map (·.id))) (hrest : rest ≠ []) :
    ∃ t, decideAll decisions order d = (.ok (order.map fun _ => true), t) ∧
      Decides decisions order d t := by
  induction order generalizing d with
  | nil => exact ⟨d, rfl, .refl decisions d⟩
  | cons id order ih =>
      rcases find?_next horder with ⟨e, hfind, hlast⟩
      have hmore : ¬ (d.queue.dequeue e.id).pending.isEmpty = true := fun hempty =>
        hrest (List.append_eq_nil_iff.1 (hlast.1 hempty)).2
      rcases finalize_decides decisions hfind hmore with ⟨t, hfinalize, hfirst⟩
      rcases ih (hfirst.left horder) with ⟨u, hothers, hmost⟩
      exact ⟨u, decideAll_cons hfinalize hothers, hfirst.trans hmost⟩

/-- All of them are. -/
theorem decideAll_concludes (decisions : Decisions)
    (horder : order.Perm (d.queue.pending.map (·.id))) (hsome : order ≠ [])
    (hlistener : d.queue.listener = some listener) :
    ∃ t, decideAll decisions order d = (.ok (order.map fun _ => true), t) ∧
      Concludes decisions order listener d t := by
  -- The induction is on the order; the listener is held up to the last decision.
  induction order generalizing d with
  | nil => exact absurd rfl hsome
  | cons id order ih =>
      rcases find?_next horder with ⟨e, hfind, hlast⟩
      -- Only the last decision empties the queue.
      by_cases hrest : order = []
      · subst hrest
        rcases finalize_concludes decisions hfind (hlast.2 rfl) hlistener with ⟨t, hfinalize, hdone⟩
        exact ⟨t, decideAll_cons hfinalize rfl, hdone⟩
      · have hmore := mt hlast.1 hrest
        rcases finalize_decides decisions hfind hmore with ⟨t, hfinalize, hfirst⟩
        have hheld : t.queue.listener = some listener := by
          rw [hfirst.queue]
          exact hlistener
        rcases ih (hfirst.left horder) hrest hheld with ⟨u, hothers, hdone⟩
        exact ⟨u, decideAll_cons hfinalize hothers, hfirst.conclude hdone⟩

namespace Concludes

/-- Each asker has the answer to its own question, and nobody else has been answered. -/
theorem answer? (h : Concludes decisions order listener d t) (hd : d.queue.Sound) (c : Nat) :
    t.queue.answer? c =
      (d.queue.answer? c).or ((d.queue.waiter? c).map fun e => decisions.outcome e.id) := by
  rcases h.gone with ⟨gone, hgone, -, hanswers⟩
  rw [RequestQueue.answer?_of_append hanswers, List.find?_map, Option.map_map]
  exact congrArg (fun found : Option QueuedRequest =>
    (d.queue.answer? c).or (found.map fun e => decisions.outcome e.id)) (hd.find?_perm hgone c)

theorem answers (h : Concludes decisions order listener d t) :
    ∃ answers, answers.Perm (d.queue.pending.map decisions.answer) ∧
      t.queue.answers = d.queue.answers ++ answers := by
  rcases h.gone with ⟨gone, hgone, -, hanswers⟩
  exact ⟨_, hgone.map _, hanswers⟩

end Concludes

/-- What is the same in whichever order the questions of a desk are decided. -/
structure OrderFree (decisions : Decisions) (order : List UInt64) (listener : Nat) (d : Desk) :
    Prop where
  /-- There is a question for every decision. -/
  known : (decideAll decisions order d).1 = .ok (order.map fun _ => true)
  /-- Each asker has the answer to its own question, -/
  answered : ∀ e ∈ d.queue.pending,
    (decideAll decisions order d).2.queue.answer? e.channel = some (decisions.outcome e.id)
  /-- and whoever does not wait has what it had. -/
  others : ∀ c, d.queue.waiter? c = none →
    (decideAll decisions order d).2.queue.answer? c = d.queue.answer? c
  /-- These are all answers that are given, so the closing of the window rejects nobody. -/
  once : ∃ answers, answers.Perm (d.queue.pending.map decisions.answer) ∧
    (decideAll decisions order d).2.queue.answers = d.queue.answers ++ answers
  /-- The queue is empty and has let go of its window and its listener. The listener is removed and
  the window is asked to close, once and after everything else. -/
  concluded : Concludes decisions order listener d (decideAll decisions order d).2
  /-- As long as a question is left, window and listener are held, and the host has only been shown
  the queue. -/
  earlier : ∀ before rest, order = before ++ rest → rest ≠ [] →
    (decideAll decisions before d).2.queue.popup = d.queue.popup ∧
      (decideAll decisions before d).2.queue.listener = some listener ∧
      Decides decisions before d (decideAll decisions before d).2
  /-- Another order leads to the same desk, but for the order of what was answered and shown. -/
  alike : ∀ other : List UInt64, other.Perm order →
    (∃ answers, answers.Perm (decideAll decisions order d).2.queue.answers ∧
      (decideAll decisions other d).2.queue =
        { (decideAll decisions order d).2.queue with answers }) ∧
    (decideAll decisions other d).2.desktop =
      { (decideAll decisions order d).2.desktop with
        log := (decideAll decisions other d).2.desktop.log }

/-- What all decisions leave behind is settled by the questions, up to the order of the answers. -/
theorem Concludes.alike {other : List UInt64} (h : Concludes decisions order listener d t)
    (k : Concludes decisions other listener d u) :
    (∃ answers, answers.Perm t.queue.answers ∧ u.queue = { t.queue with answers }) ∧
      u.desktop = { t.desktop with log := u.desktop.log } := by
  rcases h.answers with ⟨answers, hanswers, hgiven⟩
  rcases k.answers with ⟨answers', hanswers', hgiven'⟩
  rcases h.desktop with ⟨_, _, hdesktop⟩
  rcases k.desktop with ⟨_, _, hdesktop'⟩
  refine ⟨⟨u.queue.answers, ?_, ?_⟩, ?_⟩
  · rw [hgiven, hgiven']
    exact (hanswers'.trans hanswers.symm).append_left _
  · rw [k.queue, h.queue]
  · rw [hdesktop, hdesktop']

/-- A desk that holds a window and a listener may have its questions decided in any order. -/
theorem orderFree (decisions : Decisions) (hd : d.queue.Sound)
    (hlistener : d.queue.listener = some listener) (hsome : d.queue.pending ≠ [])
    (horder : order.Perm (d.queue.pending.map (·.id))) :
    OrderFree decisions order listener d := by
  -- Somebody waits, so no order is empty.
  have hnonempty (other : List UInt64) (h : other.Perm (d.queue.pending.map (·.id))) :
      other ≠ [] := by
    rintro rfl
    exact hsome (List.map_eq_nil_iff.1 h.nil_eq.symm)
  rcases decideAll_concludes decisions horder (hnonempty order horder) hlistener with
    ⟨t, hrun, hdone⟩
  have hanswer (c : Nat) := hdone.answer? hd c
  have hstate : t = (decideAll decisions order d).2 := (congrArg Prod.snd hrun).symm
  subst hstate
  refine {
    known := congrArg Prod.fst hrun
    answered := fun e he => ?_
    others := fun c hc => ?_
    once := hdone.answers
    concluded := hdone
    earlier := fun before rest hsplit hrest => ?_
    alike := fun other hother => ?_ }
  · have hwaiter := hd.waiter?_of_mem he
    rw [hanswer, hd.answer?_of_waiter hwaiter, hwaiter]
    rfl
  · rw [hanswer, hc, Option.map_none, Option.or_none]
  · rcases decideAll_decides decisions (hsplit ▸ horder) hrest with ⟨u, hbefore, hmost⟩
    rw [hbefore]
    refine ⟨?_, ?_, hmost⟩
    · rw [hmost.queue]
    · rw [hmost.queue]
      exact hlistener
  · have hall := hother.trans horder
    rcases decideAll_concludes decisions hall (hnonempty other hall) hlistener with
      ⟨u, hrun', hdone'⟩
    rw [hrun']
    exact hdone.alike hdone'

end Desk

/-! ## Runs -/

namespace DeskRun

/-- Window and listener are held together. -/
theorem paired (run : DeskRun) (t : Nat) :
    (run.queue t).popup.isSome = (run.queue t).listener.isSome := by
  -- Window and listener are taken and let go of together.
  induction t with
  | zero => rfl
  | succ t ih =>
      rcases run.own_or_elsewhere t with hown | ⟨change, helsewhere⟩
      · rcases grip_cases hown with ⟨_, hkept⟩ | ⟨_, hlet⟩ | ⟨_, window, htaken⟩
        · have hpopup : (run.queue (t + 1)).popup = (run.queue t).popup :=
            congrArg Grip.popup hkept
          have hlistener : (run.queue (t + 1)).listener = (run.queue t).listener :=
            congrArg Grip.listener hkept
          rw [hpopup, hlistener, ih]
        · have hpopup : (run.queue (t + 1)).popup = none := congrArg Grip.popup hlet
          have hlistener : (run.queue (t + 1)).listener = none := congrArg Grip.listener hlet
          rw [hpopup, hlistener]
        · have hpopup : (run.queue (t + 1)).popup = some window := congrArg Grip.popup htaken
          have hlistener : (run.queue (t + 1)).listener = some (run.grip t).next :=
            congrArg Grip.listener htaken
          rw [hpopup, hlistener]
          rfl
      · rw [(elsewhere_state helsewhere).2.1, ih]

/-- At every moment of a run in which a window is held, the questions in the queue may be decided in
any order: each asker is told the decision on its own question, and the window is closed when the
last question is decided and not before. -/
theorem order_free (run : DeskRun) (t : Nat) {window : Nat}
    (hheld : (run.queue t).popup = some window) (hsome : (run.queue t).pending ≠ [])
    (decisions : Decisions) {order : List UInt64}
    (horder : order.Perm ((run.queue t).pending.map (·.id))) :
    ∃ listener, (run.queue t).listener = some listener ∧
      Desk.OrderFree decisions order listener (run.desk t) := by
  have hpaired := run.paired t
  rw [hheld] at hpaired
  rcases Option.isSome_iff_exists.1 hpaired.symm with ⟨listener, hlistener⟩
  exact ⟨listener, hlistener, Desk.orderFree decisions (run.sound t).queue hlistener hsome horder⟩

/-- Three questions wait in one window. -/
def threeWaiting : DeskRun where
  desktop := {}
  move
    | 0 => .submit .approve .null
    | 1 => .submit .connectIdentity .null
    | 2 => .submit .rlnProof .null
    | _ => .elsewhere id

/-- The second is accepted, the third rejected, and the first is left with something else. -/
def threeDecisions : Decisions
  | 0 => (.other "LATER", none)
  | 1 => (.accept, some (.str "identity"))
  | _ => (.reject, none)

/-- The last question is decided first. -/
theorem order_free_threeWaiting : (threeWaiting.queue 3).popup = some 1 ∧
    [2, 0, 1].Perm ((threeWaiting.queue 3).pending.map (·.id)) ∧
    ∃ listener, (threeWaiting.queue 3).listener = some listener ∧
      Desk.OrderFree threeDecisions [2, 0, 1] listener (threeWaiting.desk 3) :=
  have hheld : (threeWaiting.queue 3).popup = some 1 := rfl
  ⟨hheld, by decide, order_free threeWaiting 3 hheld nofun threeDecisions (by decide)⟩

end DeskRun

end WalletTrust

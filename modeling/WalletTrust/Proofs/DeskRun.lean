import WalletTrust.Proofs.DeskSteps

/-!
# The Books of a Desk

What becomes of every question over a whole run of a desk.

A run is any order of questions, windows that come late, decisions and windows that are closed, over
a host that may change in any way in between. A question can leave the queue in five ways, and
`Departs` lists them with what is answered then. The list has one entry without an answer: the asker
whose own window fails is told so by the call that asked, and not through its channel.

The argument is the same for every move. A stage either leaves a channel alone, or opens the next
one, or ends it by one of the five ways; `turn` says this and `Departs.gone` that a channel which
was ended is empty afterwards. An empty channel cannot be ended again, so each question leaves once.

Numbers are words. As long as fewer questions were put than there are words, number and channel are
the same, and the books can be kept by number.

## Main definitions

* `DeskMove`, `DeskRun`: What can happen, and a run.
* `DeskRun.Departs`: The ways in which a question leaves the queue.
* `DeskRun.Waits`, `DeskRun.Left`: The two situations of a question.
* `DeskRun.Bookkeeping`: What the books say at a moment of a run.

## Theorems

* `DeskRun.turn`: What a stage does to a channel.
* `DeskRun.bookkeeping`: The books are right at every moment.
* `DeskMove.turns`: A move does one of the things that are listed.
* `DeskRun.channel_settled`: The channel of a question is held by it until it leaves, and empty from
  then on.
* `DeskRun.id_toNat`, `DeskRun.ofNat_inj`: While there are enough words, a question goes by its
  channel.
* `DeskRun.pending_faithful`: What is in the queue was put as it stands there.
-/

namespace WalletTrust

/-- What can happen to a desk. -/
inductive DeskMove where
  | submit (kind : RequestKind) (payload : Json)
  /-- The window that the question on a channel waits for comes, or fails to. -/
  | windowComes (channel : Nat)
  | finalize (request : FinalizeRequest)
  /-- The host closes a window and calls the listeners. -/
  | windowClosed (window : Nat)
  /-- The queue alone is told that a window was closed. -/
  | reportClosed (window : Nat)
  | elsewhere (change : Desktop → Desktop)

/-- What a move answers. -/
inductive DeskResult where
  | submitted (result : Except Error Submission)
  /-- The rest of a submission whose window came late. -/
  | opened (result : Except Error Unit)
  | finalized (result : Except Error Bool)
  | nothing

/-- The question whose window a submission left to be opened, by number and channel. -/
def Submission.opener? : Except Error Submission → List (UInt64 × Nat)
  | .ok (.opening id channel _) => [(id, channel)]
  | _ => []

/-- A desk and the questions whose windows are being opened. -/
structure DeskState where
  desk : Desk
  opening : List (UInt64 × Nat) := []

/-- What a move answers and what it makes of a desk. -/
def DeskMove.step : DeskMove → DeskState → DeskResult × DeskState
  | .submit kind payload, s =>
    let (result, desk) := Desk.submit kind payload s.desk
    (.submitted result, { desk, opening := s.opening ++ Submission.opener? result })
  | .windowComes channel, s =>
    match s.opening.find? fun o => o.2 = channel with
    | none => (.nothing, s)
    | some opener =>
      let (result, desk) := Desk.completeOpening opener.1 s.desk
      (.opened result, { desk, opening := s.opening.filter fun o => o.2 ≠ channel })
  | .finalize request, s =>
    let (result, desk) := Desk.finalize request s.desk
    (.finalized result, { s with desk })
  | .windowClosed window, s => (.nothing, { s with desk := (Desk.windowClosed window s.desk).2 })
  | .reportClosed window, s => (.nothing, { s with desk := (Desk.surfaceClosed window s.desk).2 })
  | .elsewhere change, s =>
    (.nothing, { s with desk := { s.desk with desktop := change s.desk.desktop } })

/-- The queue is in order, and what is being opened are questions that were put. -/
structure DeskState.Sound (s : DeskState) : Prop where
  queue : s.desk.queue.Sound
  opening : ∀ o ∈ s.opening, o.1 = UInt64.ofNat o.2 ∧ o.2 < s.desk.queue.nextChannel

namespace DeskMove

/-- How many questions a move puts. -/
def questions : DeskMove → Nat
  | .submit _ _ => 1
  | _ => 0

/-- Everything that a move can do: what it answers, the queue it leaves and the queues it shows. -/
inductive Turns (s : DeskState) :
    DeskMove → DeskResult → RequestQueue → List (List PendingRequest) → Prop where
  | joined {kind : RequestKind} {payload : Json} {submission : Submission}
    {popup listener : Option Nat} {shown : List (List PendingRequest)}
    (number : submission.id = s.desk.queue.nonce)
    (current : ∀ queue ∈ shown, queue = (s.desk.queue.enqueue kind payload).requests) :
    Turns s (.submit kind payload) (.submitted (.ok submission))
      { s.desk.queue.enqueue kind payload with popup, listener } shown
  | refused {kind : RequestKind} {payload : Json} {failure : Error}
    (alone : s.desk.queue.pending = []) :
    Turns s (.submit kind payload) (.submitted (.error failure))
      ((s.desk.queue.enqueue kind payload).dropAll s.desk.queue.nonce failure) [[]]
  | held {opener : UInt64 × Nat} {window listener : Nat} (asked : opener ∈ s.opening) :
    Turns s (.windowComes opener.2) (.opened (.ok ()))
      (s.desk.queue.hold window listener) [s.desk.queue.requests]
  | dropped {opener : UInt64 × Nat} {failure : Error} (asked : opener ∈ s.opening) :
    Turns s (.windowComes opener.2) (.opened (.error failure))
      (s.desk.queue.dropAll opener.1 failure) [[]]
  | settled {request : FinalizeRequest} {entry : QueuedRequest}
    (found : s.desk.queue.find? request.id = some entry) :
    Turns s (.finalize request) (.finalized (.ok true))
      (s.desk.queue.settle entry (request.status.outcome request.data))
      [(s.desk.queue.settle entry (request.status.outcome request.data)).requests]
  | ignored {request : FinalizeRequest} :
    Turns s (.finalize request) (.finalized (.ok false)) s.desk.queue []
  | rejected {move : DeskMove} {window : Nat} (held : s.desk.queue.popup = some window)
    (closes : move = .windowClosed window ∨ move = .reportClosed window) :
    Turns s move .nothing s.desk.queue.rejectAll []
  | idle {move : DeskMove} (asks : move.questions = 0) : Turns s move .nothing s.desk.queue []

/-- A move does one of these things. -/
theorem turns (m : DeskMove) (s : DeskState) :
    ∃ shown, Turns s m (m.step s).1 (m.step s).2.desk.queue shown ∧
      ((∀ change, m ≠ .elsewhere change) →
        (m.step s).2.desk.desktop.shown = s.desk.desktop.shown ++ shown) := by
  cases m with
  | submit kind payload =>
      rcases Desk.submit_cases s.desk kind payload with
        ⟨submission, popup, listener, shown, hdoes, hid, _, hcurrent, _⟩ | ⟨cause, halone, _, hdoes⟩
      · refine ⟨shown, ?_, fun _ => hdoes.shown⟩
        simp only [step, hdoes.outcome, hdoes.queue]
        exact .joined hid hcurrent
      · refine ⟨[[]], ?_, fun _ => hdoes.shown⟩
        simp only [step, hdoes.outcome, hdoes.queue]
        exact .refused halone
  | windowComes channel =>
      -- Without a question that waits for a window there, nothing happens.
      rcases hfind : s.opening.find? fun o => o.2 = channel with _ | opener
      · refine ⟨[], ?_, fun _ => ?_⟩
        · simp only [step, hfind]
          exact .idle rfl
        · simp only [step, hfind, List.append_nil]
      · have hmem := List.mem_of_find?_eq_some hfind
        have hchannel : opener.2 = channel := by
          simpa only [decide_eq_true_eq] using List.find?_some hfind
        subst hchannel
        rcases hopen : s.desk.desktop.opened with cause | window
        · have hdoes := Desk.completeOpening_refused hopen opener.1
          refine ⟨[[]], ?_, fun _ => ?_⟩
          · simp only [step, hfind, hdoes.outcome, hdoes.queue]
            exact .dropped hmem
          · simp only [step, hfind, hdoes.shown]
        · rcases Desk.completeOpening_opened hopen opener.1 with ⟨listener, hdoes⟩
          refine ⟨[s.desk.queue.requests], ?_, fun _ => ?_⟩
          · simp only [step, hfind, hdoes.outcome, hdoes.queue]
            exact .held hmem
          · simp only [step, hfind, hdoes.shown]
  | finalize request =>
      rcases hfind : s.desk.queue.find? request.id with _ | entry
      · refine ⟨[], ?_, fun _ => ?_⟩
        · simp only [step, Desk.finalize_unknown hfind]
          exact .ignored
        · simp only [step, Desk.finalize_unknown hfind, List.append_nil]
      · have hdoes := Desk.finalize_known hfind
        refine ⟨_, ?_, fun _ => hdoes.shown⟩
        simp only [step, hdoes.outcome, hdoes.queue]
        exact .settled hfind
  | windowClosed window =>
      rcases Desk.windowClosed_queue window s.desk with ⟨hshown, hsame | ⟨hheld, hrejected⟩⟩
      · refine ⟨[], ?_, fun _ => by rw [List.append_nil]; exact hshown⟩
        simp only [step, hsame]
        exact .idle rfl
      · refine ⟨[], ?_, fun _ => by rw [List.append_nil]; exact hshown⟩
        simp only [step, hrejected]
        exact .rejected hheld (.inl rfl)
  | reportClosed window =>
      rcases Desk.surfaceClosed_queue window s.desk with ⟨hshown, hsame | ⟨hheld, hrejected⟩⟩
      · refine ⟨[], ?_, fun _ => by rw [List.append_nil]; exact hshown⟩
        simp only [step, hsame]
        exact .idle rfl
      · refine ⟨[], ?_, fun _ => by rw [List.append_nil]; exact hshown⟩
        simp only [step, hrejected]
        exact .rejected hheld (.inr rfl)
  | elsewhere change => exact ⟨[], .idle rfl, fun h => absurd rfl (h change)⟩

/-- Only a submission adds to what is being opened, and it adds its own question. -/
theorem step_opening (m : DeskMove) (s : DeskState) :
    ∀ o ∈ (m.step s).2.opening, o ∈ s.opening ∨
      (m.questions = 1 ∧ o = (s.desk.queue.nonce, s.desk.queue.nextChannel)) := by
  intro o ho
  -- Only a submission adds an opener, and a window that has come takes its own away.
  cases m with
  | submit kind payload =>
      rcases Desk.submit_cases s.desk kind payload with
        ⟨submission, _, _, _, hdoes, hid, hchannel, _⟩ | ⟨cause, _, _, hdoes⟩
      · simp only [step, hdoes.outcome] at ho
        rcases List.mem_append.1 ho with ho | ho
        · exact .inl ho
        · refine .inr ⟨rfl, ?_⟩
          cases submission with
          | queued id channel => exact absurd ho List.not_mem_nil
          | opening id channel ticket =>
              rw [List.mem_singleton.1 ho, ← hid, ← hchannel]
              rfl
      · simp only [step, hdoes.outcome] at ho
        exact .inl (by simpa only [Submission.opener?, List.append_nil] using ho)
  | windowComes channel =>
      refine .inl ?_
      simp only [step] at ho
      split at ho
      · exact ho
      · exact (List.mem_filter.1 ho).1
  | finalize request => exact .inl ho
  | windowClosed window => exact .inl ho
  | reportClosed window => exact .inl ho
  | elsewhere change => exact .inl ho

variable {s : DeskState} {m : DeskMove} {result : DeskResult} {queue : RequestQueue}
  {shown : List (List PendingRequest)}

namespace Turns

theorem nextChannel (h : Turns s m result queue shown) :
    queue.nextChannel = s.desk.queue.nextChannel + m.questions := by
  cases h with
  | joined => rfl
  | refused => rfl
  | held => rfl
  | dropped => rfl
  | settled => exact (RequestQueue.settle_counters _ _).2
  | ignored => rfl
  | rejected _ closes =>
      rcases closes with rfl | rfl
      · rfl
      · rfl
  | idle asks => rw [asks, Nat.add_zero]

theorem sound (h : Turns s m result queue shown) (hs : s.Sound) : queue.Sound := by
  cases h with
  | joined => exact (hs.queue.enqueue _ _).of_same rfl rfl rfl rfl
  | refused => exact (hs.queue.enqueue _ _).dropAll _ _
  | held => exact hs.queue.of_same rfl rfl rfl rfl
  | dropped => exact hs.queue.dropAll _ _
  | settled found => exact hs.queue.settle found _
  | ignored => exact hs.queue
  | rejected => exact hs.queue.rejectAll
  | idle => exact hs.queue

/-- A window that is closed empties the queue or changes nothing. -/
theorem closes {window : Nat} (h : Turns s m result queue shown)
    (hm : m = .windowClosed window ∨ m = .reportClosed window) :
    queue = s.desk.queue ∨ queue = s.desk.queue.rejectAll := by
  rcases hm with rfl | rfl
  · cases h with
    | rejected => exact .inr rfl
    | idle => exact .inl rfl
  · cases h with
    | rejected => exact .inr rfl
    | idle => exact .inl rfl

/-- What a move shows is the queue that it leaves. -/
theorem current (h : Turns s m result queue shown) : ∀ q ∈ shown, q = queue.requests := by
  intro q hq
  cases h with
  | joined _ current => exact current q hq
  | refused => exact List.mem_singleton.1 hq
  | held => exact List.mem_singleton.1 hq
  | dropped => exact List.mem_singleton.1 hq
  | settled => exact List.mem_singleton.1 hq
  | ignored => exact absurd hq List.not_mem_nil
  | rejected => exact absurd hq List.not_mem_nil
  | idle => exact absurd hq List.not_mem_nil

/-- Only a submission adds to the queue, and it adds its own question. -/
theorem pending (h : Turns s m result queue shown) : ∀ e ∈ queue.pending,
    e ∈ s.desk.queue.pending ∨ (m = .submit e.kind e.payload ∧
      e.id = s.desk.queue.nonce ∧ e.channel = s.desk.queue.nextChannel) := by
  intro e he
  cases h with
  | joined =>
      rcases List.mem_append.1 he with he | he
      · exact .inl he
      · rw [List.mem_singleton.1 he]
        exact .inr ⟨rfl, rfl, rfl⟩
  | refused => exact absurd he List.not_mem_nil
  | held => exact .inl he
  | dropped => exact absurd he List.not_mem_nil
  | settled found =>
      -- What is left is the queue without one entry.
      rcases RequestQueue.settle_pending found _ with ⟨before, after, hsplit, hrest⟩
      rw [hrest] at he
      rw [hsplit]
      exact .inl ((List.sublist_cons_self _ after).append_left before |>.mem he)
  | ignored => exact .inl he
  | rejected => exact absurd he List.not_mem_nil
  | idle => exact .inl he

end Turns

end DeskMove

/-- A run of a desk: where it begins, and what happens in each stage. -/
structure DeskRun where
  desktop : Desktop
  move : Nat → DeskMove

namespace DeskRun

variable (run : DeskRun)

/-- The desk, and what is being opened, before a stage. -/
def state : Nat → DeskState
  | 0 => { desk := { desktop := run.desktop } }
  | t + 1 => ((run.move t).step (state t)).2

def desk (t : Nat) : Desk :=
  (run.state t).desk

/-- The queue before a stage. -/
def queue (t : Nat) : RequestQueue :=
  (run.desk t).queue

def result (t : Nat) : DeskResult :=
  ((run.move t).step (run.state t)).1

/-- How many questions were put before a stage. -/
def submissions : Nat → Nat
  | 0 => 0
  | t + 1 => submissions t + (run.move t).questions

/-- The question on a channel leaves the queue in a stage; `outcome` is what is answered on the
channel then. -/
inductive Departs (k c : Nat) : Option (Except Error Json) → Prop where
  | decided {request : FinalizeRequest} {entry : QueuedRequest}
    (move : run.move k = .finalize request) (found : (run.queue k).find? request.id = some entry)
    (own : entry.channel = c) (result : run.result k = .finalized (.ok true)) :
    Departs k c (some (request.status.outcome request.data))
  /-- The window that the queue holds is closed. -/
  | closed {window : Nat}
    (move : run.move k = .windowClosed window ∨ run.move k = .reportClosed window)
    (held : (run.queue k).popup = some window) (emptied : (run.queue (k + 1)).pending = [])
    (waiting : ((run.queue k).waiter? c).isSome) : Departs k c (some (.error .userRejected))
  /-- The window of another question fails to open. -/
  | unopened {other : Nat} {failure : Error} (move : run.move k = .windowComes other)
    (result : run.result k = .opened (.error failure)) (waiting : ((run.queue k).waiter? c).isSome)
    (differs : c ≠ other) : Departs k c (some (.error failure))
  /-- Its own window fails to open; the call that asked is told. -/
  | ownUnopened {failure : Error} (move : run.move k = .windowComes c)
    (result : run.result k = .opened (.error failure))
    (waiting : ((run.queue k).waiter? c).isSome) : Departs k c none
  /-- Its own window fails to open as soon as it is put; the call that asks is told. -/
  | refused {kind : RequestKind} {payload : Json} {failure : Error}
    (move : run.move k = .submit kind payload)
    (result : run.result k = .submitted (.error failure)) (new : c = (run.queue k).nextChannel) :
    Departs k c none

/-- The question of a number waits: it is in the queue, was not answered and did not leave. -/
def Waits (t n : Nat) : Prop :=
  (∃ e ∈ (run.queue t).pending, e.id.toNat = n ∧ e.channel = n) ∧ (run.queue t).answer? n = none ∧
    ∀ k < t, ∀ outcome, ¬ run.Departs k n outcome

/-- The question of a number has left: it is not in the queue, left it in one stage and in no other,
and its channel has the answer that it got then. -/
def Left (t n : Nat) : Prop :=
  (∀ e ∈ (run.queue t).pending, e.id.toNat ≠ n) ∧
    ∃ k < t, ∃ outcome, run.Departs k n outcome ∧ (run.queue t).answer? n = outcome ∧
      ∀ j < t, ∀ other, run.Departs j n other → j = k

/-- The question that is put in a stage gets the number of questions put before it. -/
def Numbered (k : Nat) (id : UInt64) (kind : RequestKind) (payload : Json) : Prop :=
  run.move k = .submit kind payload ∧ id.toNat = run.submissions k

/-- What the books of a run say at a moment. -/
structure Bookkeeping (t : Nat) : Prop where
  /-- The next number counts the questions that were put. -/
  count : (run.queue t).nonce.toNat = run.submissions t
  /-- A submission that answers tells the number of its question. -/
  told : ∀ k < t, ∀ s, run.result k = .submitted (.ok s) → s.id.toNat = run.submissions k
  /-- The queue is in the order of submission. -/
  ascending : (run.queue t).pending.Pairwise fun a b => a.id < b.id
  below : ∀ e ∈ (run.queue t).pending, e.id < (run.queue t).nonce
  /-- What is in the queue was put as it stands there, under its number. -/
  faithful : ∀ e ∈ (run.queue t).pending, ∃ k < t, run.Numbered k e.id e.kind e.payload
  /-- What a stage shows to the windows is the queue that it leaves. -/
  shown : ∀ k < t, (∀ change, run.move k ≠ .elsewhere change) →
    ∃ queues, (run.desk (k + 1)).desktop.shown = (run.desk k).desktop.shown ++ queues ∧
      ∀ queue ∈ queues, queue = (run.queue (k + 1)).requests
  /-- At most one answer is given on a channel. -/
  once : (run.queue t).answered.Nodup
  /-- Every question that was put either waits or has left. -/
  settled : ∀ n < run.submissions t, run.Waits t n ∨ run.Left t n

/-! ## One stage -/

theorem turns (t : Nat) : ∃ shown,
    DeskMove.Turns (run.state t) (run.move t) (run.result t) (run.queue (t + 1)) shown ∧
      ((∀ change, run.move t ≠ .elsewhere change) →
        (run.desk (t + 1)).desktop.shown = (run.desk t).desktop.shown ++ shown) :=
  DeskMove.turns (run.move t) (run.state t)

theorem nextChannel_eq (t : Nat) : (run.queue t).nextChannel = run.submissions t := by
  induction t with
  | zero => rfl
  | succ t ih =>
      rcases run.turns t with ⟨_, h, _⟩
      rw [h.nextChannel, submissions, ← ih]
      rfl

theorem submissions_mono {j k : Nat} (h : j ≤ k) : run.submissions j ≤ run.submissions k := by
  induction h with
  | refl => exact Nat.le_refl _
  | step _ ih => exact Nat.le_trans ih (Nat.le_add_right _ _)

theorem sound (t : Nat) : (run.state t).Sound := by
  induction t with
  | zero => exact ⟨RequestQueue.Sound.empty, fun o ho => absurd ho List.not_mem_nil⟩
  | succ t ih =>
      rcases run.turns t with ⟨_, h, _⟩
      refine ⟨h.sound ih, fun o ho => ?_⟩
      have hnext : (run.state (t + 1)).desk.queue.nextChannel = _ := h.nextChannel
      rcases DeskMove.step_opening (run.move t) (run.state t) o ho with ho | ⟨hasks, rfl⟩
      · rcases ih.opening o ho with ⟨hid, hlt⟩
        exact ⟨hid, by omega⟩
      · exact ⟨ih.queue.next, by simp only; omega⟩

theorem queue_sound (t : Nat) : (run.queue t).Sound :=
  (run.sound t).queue

variable {run}

/-- A number that fits a word determines its channel. -/
theorem ofNat_inj {a b : Nat} (ha : a < UInt64.size) (hb : b < UInt64.size)
    (h : UInt64.ofNat a = UInt64.ofNat b) : a = b := by
  have hnat := congrArg UInt64.toNat h
  rwa [UInt64.toNat_ofNat_of_lt' ha, UInt64.toNat_ofNat_of_lt' hb] at hnat

/-- A question that leaves was in the queue or had just been put; it is not in the queue after that,
and its channel has the answer. -/
theorem Departs.gone {k c : Nat} {outcome : Option (Except Error Json)}
    (hfew : run.submissions (k + 1) < UInt64.size) (h : run.Departs k c outcome) :
    c < run.submissions (k + 1) ∧ (((run.queue k).waiter? c).isSome ∨ c = run.submissions k) ∧
      (run.queue (k + 1)).waiter? c = none ∧ (run.queue (k + 1)).answer? c = outcome := by
  have hq := run.queue_sound k
  have hnext := run.nextChannel_eq k
  have hmono : run.submissions k ≤ run.submissions (k + 1) := Nat.le_add_right _ _
  rcases run.turns k with ⟨_, hturn, _⟩
  -- Whoever waits was put before, so only the change of the queue is left to describe.
  have hwaiting : ((run.queue k).waiter? c).isSome →
      RequestQueue.LeftWith outcome c (run.queue k) (run.queue (k + 1)) →
      c < run.submissions (k + 1) ∧ (((run.queue k).waiter? c).isSome ∨ c = run.submissions k) ∧
        (run.queue (k + 1)).waiter? c = none ∧ (run.queue (k + 1)).answer? c = outcome := by
    intro hin hleft
    rcases Option.isSome_iff_exists.1 hin with ⟨e, he⟩
    rcases RequestQueue.mem_of_waiter he with ⟨hmem, rfl⟩
    have hlt := hq.below e hmem
    exact ⟨by omega, .inl hin, hleft.2⟩
  generalize hafter : run.queue (k + 1) = after at hturn hwaiting ⊢
  cases h with
  | decided move found own result =>
      rw [move, result] at hturn
      cases hturn with
      | settled also =>
          rcases Option.some.inj (found.symm.trans also)
          rcases RequestQueue.settle_at hq found _ c with ⟨_, hin, hleft⟩ | ⟨hother, _⟩
          · exact hwaiting (by rw [hin]; rfl) hleft
          · exact absurd own.symm hother
  | closed move held emptied waiting =>
      -- Somebody waited and nobody does now, so the stage has rejected them.
      rcases hturn.closes move with rfl | rfl
      · rcases Option.isSome_iff_exists.1 waiting with ⟨e, he⟩
        rw [hafter] at emptied
        exact absurd (emptied ▸ (RequestQueue.mem_of_waiter he).1) List.not_mem_nil
      · rcases RequestQueue.rejectAll_at hq c with hleft | ⟨hnone, _⟩
        · exact hwaiting waiting hleft
        · exact absurd waiting (by rw [hnone]; exact Bool.false_ne_true)
  | @unopened _ failure move result waiting differs =>
      rw [move, result] at hturn
      cases hturn with
      | @dropped opener _ asked =>
          -- The one left unanswered is found by its number, so numbers must tell channels apart.
          have hid := ((run.sound k).opening opener asked).1
          have hopener : opener.2 < (run.queue k).nextChannel :=
            ((run.sound k).opening opener asked).2
          rcases RequestQueue.dropAll_at hq opener.1 failure c with ⟨e, he, hleft⟩ | ⟨hnone, _⟩
          · rcases RequestQueue.mem_of_waiter he with ⟨hmem, rfl⟩
            have hbelow := hq.below e hmem
            have hne : e.id ≠ opener.1 := fun hsame => by
              rw [hid, hq.numbered e hmem] at hsame
              exact differs (ofNat_inj (by omega) (by omega) hsame)
            rw [if_neg hne] at hleft
            exact hwaiting waiting hleft
          · exact absurd waiting (by rw [hnone]; exact Bool.false_ne_true)
  | @ownUnopened failure move result waiting =>
      rw [move, result] at hturn
      cases hturn with
      | @dropped opener _ asked =>
          rcases (run.sound k).opening _ asked with ⟨hid, _⟩
          rcases RequestQueue.dropAll_at hq opener.1 failure opener.2 with
            ⟨e, he, hleft⟩ | ⟨hnone, _⟩
          · rcases RequestQueue.mem_of_waiter he with ⟨hmem, hsame⟩
            rw [if_pos (by rw [hid, hq.numbered e hmem, hsame])] at hleft
            exact hwaiting waiting hleft
          · exact absurd waiting (by rw [hnone]; exact Bool.false_ne_true)
  | @refused kind payload failure move result new =>
      rw [move, result] at hturn
      cases hturn with
      | refused =>
          subst new
          have hnew := RequestQueue.enqueue_new hq kind payload
          rcases RequestQueue.dropAll_at (hq.enqueue kind payload) (run.queue k).nonce failure
            (run.queue k).nextChannel with ⟨e, he, hleft⟩ | ⟨hnone, _⟩
          · rcases Option.some.inj (hnew.symm.trans he)
            rw [if_pos rfl] at hleft
            refine ⟨?_, .inr hnext, hleft.2⟩
            rw [submissions, move, hnext]
            exact Nat.lt_succ_self _
          · cases hnew.symm.trans hnone

/-- What a stage does to a channel: nothing, or it opens the channel, or it ends it. -/
theorem turn {k c : Nat} (hc : c < run.submissions (k + 1)) :
    (c < run.submissions k ∧ RequestQueue.KeptAt c (run.queue k) (run.queue (k + 1))) ∨
    (c = run.submissions k ∧ ((run.queue (k + 1)).waiter? c).isSome) ∨
    ∃ outcome, run.Departs k c outcome := by
  have hq := run.queue_sound k
  have hnext := run.nextChannel_eq k
  rcases run.turns k with ⟨_, hturn, _⟩
  -- What the turn is about is named first, so that the cases of a turn can be gone through.
  rw [submissions] at hc
  generalize hmove : run.move k = m at hturn hc
  generalize hresult : run.result k = result at hturn
  generalize hafter : run.queue (k + 1) = after at hturn ⊢
  have hstays : m.questions = 0 → RequestQueue.KeptAt c (run.queue k) after →
      c < run.submissions k ∧ RequestQueue.KeptAt c (run.queue k) after :=
    fun hasks hkept => ⟨by omega, hkept⟩
  -- A channel of before is kept unless it is one of those the turn answers; the new one is the
  -- last.
  cases hturn with
  | @joined kind payload _ _ _ _ =>
      rcases Nat.lt_or_eq_of_le (Nat.le_of_lt_succ hc) with hold | hnew
      · exact .inl ⟨hold, RequestQueue.enqueue_at kind payload (Nat.ne_of_lt (hnext ▸ hold))⟩
      · refine .inr (.inl ⟨hnew, ?_⟩)
        rw [hnew, ← hnext]
        exact Option.isSome_iff_exists.2 ⟨_, RequestQueue.enqueue_new hq kind payload⟩
  | @refused kind payload failure alone =>
      rcases Nat.lt_or_eq_of_le (Nat.le_of_lt_succ hc) with hold | hnew
      · -- The queue was empty, so nobody else is dropped.
        have hpass := (RequestQueue.Ordinary.refused alone kind payload failure).passes hq c
        rcases hpass (by rw [← hnext] at hold; exact hold) with hkept | hleft
        · exact .inl ⟨hold, hkept⟩
        · rcases Option.isSome_iff_exists.1 hleft.1 with ⟨e, he⟩
          exact absurd (alone ▸ (RequestQueue.mem_of_waiter he).1) List.not_mem_nil
      · exact .inr (.inr ⟨none, .refused hmove hresult (by rw [hnew, hnext])⟩)
  | held => exact .inl (hstays rfl ⟨rfl, rfl⟩)
  | @dropped opener failure asked =>
      rcases RequestQueue.dropAll_at hq opener.1 failure c with ⟨e, he, _⟩ | ⟨_, hkept⟩
      · have hwaits : ((run.queue k).waiter? c).isSome := by rw [he]; rfl
        by_cases hown : c = opener.2
        · subst hown
          exact .inr (.inr ⟨none, .ownUnopened hmove hresult hwaits⟩)
        · exact .inr (.inr ⟨_, .unopened hmove hresult hwaits hown⟩)
      · exact .inl (hstays rfl hkept)
  | @settled request entry found =>
      rcases RequestQueue.settle_at hq found (request.status.outcome request.data) c with
        ⟨hown, _, _⟩ | ⟨_, hkept⟩
      · exact .inr (.inr ⟨_, .decided hmove found hown.symm hresult⟩)
      · exact .inl (hstays rfl hkept)
  | ignored => exact .inl (hstays rfl ⟨rfl, rfl⟩)
  | @rejected _ window held closes =>
      rcases RequestQueue.rejectAll_at hq c with hleft | ⟨_, hkept⟩
      · exact .inr (.inr ⟨_, .closed (hmove ▸ closes) held (by rw [hafter]; rfl) hleft.1⟩)
      · refine .inl (hstays ?_ hkept)
        rcases closes with rfl | rfl
        · rfl
        · rfl
  | idle asks => exact .inl (hstays asks ⟨rfl, rfl⟩)

/-! ## The whole run -/

/-- The channel of a question is held by it until it leaves, and empty from then on. -/
theorem channel_settled {t : Nat} (hfew : run.submissions t < UInt64.size) :
    ∀ c < run.submissions t,
      (((run.queue t).waiter? c).isSome ∧ ∀ k < t, ∀ outcome, ¬ run.Departs k c outcome) ∨
      ((run.queue t).waiter? c = none ∧ ∃ k < t, ∃ outcome, run.Departs k c outcome ∧
        (run.queue t).answer? c = outcome ∧ ∀ j < t, ∀ other, run.Departs j c other → j = k) := by
  induction t with
  | zero => exact fun c hc => absurd hc (Nat.not_lt_zero c)
  | succ t ih =>
      intro c hc
      have hmono {j k : Nat} : j ≤ k → run.submissions j ≤ run.submissions k := run.submissions_mono
      have hbefore : run.submissions t < UInt64.size :=
        Nat.lt_of_le_of_lt (hmono (Nat.le_succ t)) hfew
      have hgone {j : Nat} {outcome : Option (Except Error Json)} (hj : j ≤ t)
          (h : run.Departs j c outcome) := h.gone
        (Nat.lt_of_le_of_lt (hmono (Nat.succ_le_succ hj)) hfew)
      -- Before a channel is opened it cannot have been ended.
      have hearly : run.submissions t ≤ c → ∀ j < t, ∀ outcome, ¬ run.Departs j c outcome :=
        fun hnew j hj outcome h => by
          have hlt := (hgone (Nat.le_of_lt hj) h).1
          have hle := hmono (Nat.succ_le_of_lt hj)
          simp only [Nat.succ_eq_add_one] at hle
          omega
      -- The stage leaves the channel alone, or opens it, or ends it.
      rcases turn hc with ⟨hold, hentry, hanswer⟩ | ⟨hnew, hin⟩ | ⟨outcome, hdeparts⟩
      · rcases ih hbefore c hold with ⟨hin, hnever⟩ | ⟨hout, k, hk, outcome, hdeparts, hans, honly⟩
        · refine .inl ⟨hentry ▸ hin, fun k hk outcome h => ?_⟩
          rcases Nat.lt_or_eq_of_le (Nat.le_of_lt_succ hk) with hk | rfl
          · exact hnever k hk outcome h
          · rw [← hentry, (hgone (Nat.le_refl _) h).2.2.1] at hin
            exact absurd hin Bool.false_ne_true
        · refine .inr ⟨hentry.trans hout, k, Nat.lt_succ_of_lt hk, outcome, hdeparts,
            hanswer.trans hans, fun j hj other h => ?_⟩
          rcases Nat.lt_or_eq_of_le (Nat.le_of_lt_succ hj) with hj | rfl
          · exact honly j hj other h
          · rcases (hgone (Nat.le_refl _) h).2.1 with hin | hnew
            · rw [hout] at hin
              exact absurd hin Bool.false_ne_true
            · exact absurd hold (by omega)
      · refine .inl ⟨hin, fun k hk outcome h => ?_⟩
        rcases Nat.lt_or_eq_of_le (Nat.le_of_lt_succ hk) with hk | rfl
        · exact hearly (Nat.le_of_eq hnew.symm) k hk outcome h
        · rw [(hgone (Nat.le_refl _) h).2.2.1] at hin
          exact absurd hin Bool.false_ne_true
      · have hleaves := hgone (Nat.le_refl _) hdeparts
        refine .inr ⟨hleaves.2.2.1, t, Nat.lt_succ_self t, outcome, hdeparts, hleaves.2.2.2,
          fun j hj other h => ?_⟩
        rcases Nat.lt_or_eq_of_le (Nat.le_of_lt_succ hj) with hj | rfl
        · -- It was in the queue or is new, so it cannot have left before.
          rcases Nat.lt_or_ge c (run.submissions t) with hold | hnew
          · rcases ih hbefore c hold with ⟨_, hnever⟩ | ⟨hout, _⟩
            · exact absurd h (hnever j hj other)
            · rcases hleaves.2.1 with hin | hnew
              · rw [hout] at hin
                exact absurd hin Bool.false_ne_true
              · exact absurd hold (by omega)
          · exact absurd h (hearly hnew j hj other)
        · rfl

/-- While there are enough words, a question in the queue goes by its channel. -/
theorem id_toNat {t : Nat} {e : QueuedRequest} (hfew : run.submissions t < UInt64.size)
    (he : e ∈ (run.queue t).pending) : e.id.toNat = e.channel := by
  have hbelow := (run.queue_sound t).below e he
  rw [run.nextChannel_eq] at hbelow
  rw [(run.queue_sound t).numbered e he, UInt64.toNat_ofNat_of_lt' (Nat.lt_trans hbelow hfew)]

theorem nonce_toNat {t : Nat} (hfew : run.submissions t < UInt64.size) :
    (run.queue t).nonce.toNat = run.submissions t := by
  rw [(run.queue_sound t).next, nextChannel_eq, UInt64.toNat_ofNat_of_lt' hfew]

/-- What is in the queue was put as it stands there. -/
theorem pending_faithful {t : Nat} (hfew : run.submissions t < UInt64.size) :
    ∀ e ∈ (run.queue t).pending, ∃ k < t, run.Numbered k e.id e.kind e.payload := by
  induction t with
  | zero => exact fun e he => absurd he List.not_mem_nil
  | succ t ih =>
      have hbefore : run.submissions t < UInt64.size :=
        Nat.lt_of_le_of_lt (run.submissions_mono (Nat.le_succ t)) hfew
      intro e he
      rcases run.turns t with ⟨_, hturn, _⟩
      rcases hturn.pending e he with hold | ⟨hmove, hid, _⟩
      · rcases ih hbefore e hold with ⟨k, hk, hput⟩
        exact ⟨k, Nat.lt_succ_of_lt hk, hput⟩
      · refine ⟨t, Nat.lt_succ_self t, hmove, ?_⟩
        exact (congrArg UInt64.toNat hid).trans (nonce_toNat hbefore)

/-- As long as fewer questions were put than there are words, the books are right. -/
theorem bookkeeping (run : DeskRun) (t : Nat) (hfew : run.submissions t < UInt64.size) :
    run.Bookkeeping t where
  count := nonce_toNat hfew
  told := fun k hk s hs => by
    have hbefore : run.submissions k < UInt64.size :=
      Nat.lt_of_le_of_lt (run.submissions_mono (Nat.le_of_lt hk)) hfew
    rcases run.turns k with ⟨_, hturn, _⟩
    rw [hs] at hturn
    generalize run.move k = m at hturn
    generalize run.queue (k + 1) = after at hturn
    cases hturn with
    | joined number => exact (congrArg UInt64.toNat number).trans (nonce_toNat hbefore)
  ascending := by
    -- Channels ascend, and in this range the words compare as the channels do.
    refine (run.queue_sound t).ascending.imp_of_mem fun {a b} ha hb hlt => ?_
    rw [UInt64.lt_iff_toNat_lt, id_toNat hfew ha, id_toNat hfew hb]
    exact hlt
  below := fun e he => by
    rw [UInt64.lt_iff_toNat_lt, id_toNat hfew he, nonce_toNat hfew, ← nextChannel_eq]
    exact (run.queue_sound t).below e he
  faithful := pending_faithful hfew
  shown := fun k _ hhost => by
    rcases run.turns k with ⟨shown, hturn, hlog⟩
    exact ⟨shown, hlog hhost, hturn.current⟩
  once := (run.queue_sound t).once
  settled := fun n hn => by
    rcases channel_settled hfew n hn with ⟨hin, hnever⟩ | ⟨hout, hleft⟩
    · rcases Option.isSome_iff_exists.1 hin with ⟨e, he⟩
      rcases RequestQueue.mem_of_waiter he with ⟨hmem, hchannel⟩
      exact .inl ⟨⟨e, hmem, (id_toNat hfew hmem).trans hchannel, hchannel⟩,
        (run.queue_sound t).answer?_of_waiter he, hnever⟩
    · refine .inr ⟨fun e he hid => ?_, hleft⟩
      exact RequestQueue.waiter?_eq_none.1 hout e he ((id_toNat hfew he).symm.trans hid)

/-- Two questions: the second is accepted while the window of the first is being opened, and then
that window is refused. -/
def twoQuestions : DeskRun where
  desktop := { holdsNext := true, refusesWindows := true }
  move
    | 0 => .submit .approve .null
    | 1 => .submit .revealCommitment .null
    | 2 => .finalize { id := 1, status := .accept }
    | 3 => .windowComes 0
    | _ => .elsewhere id

theorem bookkeeping_twoQuestions :
    twoQuestions.submissions 4 < UInt64.size ∧ (twoQuestions.queue 4).answers = [(1, .ok .null)] ∧
      twoQuestions.Bookkeeping 4 :=
  ⟨by decide, rfl, bookkeeping twoQuestions 4 (by decide)⟩

end DeskRun

end WalletTrust

import WalletTrust.Proofs.Run

/-!
# Answers in a Run

What becomes of a question in the course of a run, and of the call that has put it.

A channel is given out once. Its question enters the queue, stays there for some stages, and leaves
in one of them: it is decided, it is rejected because the window was closed, or it is dropped
because a window failed to come. From then on the channel holds the answer that was given then.

A call ends once. It ends in the stage in which it is made or in one that goes on with it, and it
does not wait after that.

The cause of an answer is always looked for backwards. Whoever has an answer finds it on the
channel, the channel was given its answer in the one stage in which the question left, and the ways
to leave are few. So each theorem about what a call is told begins with `Run.answer_origin` and goes
through these ways.

## Main definitions

* `Run.InQueue`: The question on a channel waits in the queue.
* `Run.Decides`: A decision on the question on a channel.
* `Run.Refuses`: The window for the question on a channel fails to come.
* `Run.Leaves`: How a question leaves the queue, with what is answered.

## Theorems

* `Run.channel_stage`: What a stage does on a channel.
* `Run.gone_stays`: A question that has left does not return, and its answer stays.
* `Run.answer_origin`: An answer was given when the question left.
* `Run.Leaves.accepted`: Only an acceptance answers with data.
* `Run.ends_once`: A call ends once.
* `Run.finalize_cases`: A decision finds its question or changes nothing.
* `Run.Decides.answered`: What is decided is the answer from then on.
* `Run.left_once`: A question leaves the queue once.
* `Run.asks_stage`, `Run.asks_cases`: What becomes of a question in the stage in which it is put.
* `Run.idle_of_ends`, `Run.goesOn_unique`: A call that has ended does not wait, and a stage goes on
  with one call.
-/

namespace WalletTrust

namespace Run

open RequestQueue (KeptAt LeftWith)

variable {run : Run} {t u k j n c : Nat}

/-- The question on a channel waits in the queue. -/
def InQueue (run : Run) (t c : Nat) : Prop :=
  ((run.queue t).waiter? c).isSome

/-- A decision is answered by true, and the question that it names is the one on a channel. -/
structure Decides (run : Run) (k c : Nat) (request : FinalizeRequest) : Prop where
  move : run.move k = .call (.finalize request)
  answer : run.outcome k = some (.ok (.flag true))
  found : ((run.queue k).find? request.id).map (·.channel) = some c

/-- The window fails to come that a call waits for, to have the question on a channel shown. -/
def Refuses (run : Run) (k n c : Nat) (failure : Error) : Prop :=
  ∃ on id errand, run.GoesOn k n on ∧ on.asked? = some (id, c, errand) ∧
    on.failure? (run.wallet k) = some failure

/-- How the question on a channel leaves the queue, with what is answered on the channel. -/
inductive Leaves (run : Run) (k c : Nat) : Option (Except Error Json) → Prop
  /-- The window was closed. -/
  | rejected : Leaves run k c (some (.error .userRejected))
  | decided {request : FinalizeRequest} (h : run.Decides k c request) :
      Leaves run k c (some (request.status.outcome request.data))
  | refused {m other : Nat} {failure : Error} (h : run.Refuses k m other failure) :
      Leaves run k c (some (.error failure))
  /-- It goes by the number of the question whose window failed, and is not answered. -/
  | forsaken {m other : Nat} {failure : Error} (h : run.Refuses k m other failure) :
      Leaves run k c none

/-! ## Decisions and failures -/

/-- A decision finds its question or changes nothing. -/
theorem finalize_cases {request : FinalizeRequest}
    (hmove : run.move k = .call (.finalize request)) :
    (∃ entry, (run.queue k).find? request.id = some entry ∧ run.Decides k entry.channel request ∧
      run.queue (k + 1) =
        (run.queue k).settle entry (request.status.outcome request.data)) ∨
    ((run.queue k).find? request.id = none ∧ run.outcome k = some (.ok (.flag false)) ∧
      run.queue (k + 1) = run.queue k) := by
  have houtcome := outcome_call hmove
  have hqueue : run.queue (k + 1) =
      (Wallet.perform (.finalize request) (run.wallet k)).2.core.queue := by
    rw [queue, wallet_call hmove]
  -- The flag tells whether the question was found.
  rcases (Wallet.perform_finalize (fun _ _ => True) request (run.wallet k)).2 with
    ⟨entry, hfind, hanswer, hsettled⟩ | ⟨hfind, hanswer, hsame⟩
  · rw [hanswer] at houtcome
    have hfound : ((run.queue k).find? request.id).map (·.channel) = some entry.channel := by
      rw [queue, hfind]
      rfl
    exact .inl ⟨entry, hfind, ⟨hmove, houtcome, hfound⟩, hqueue.trans hsettled⟩
  · rw [hanswer] at houtcome
    exact .inr ⟨hfind, houtcome, hqueue.trans hsame⟩

theorem Decides.left {request : FinalizeRequest} (h : run.Decides k c request) :
    LeftWith (some (request.status.outcome request.data)) c (run.queue k) (run.queue (k + 1)) := by
  rcases finalize_cases h.move with ⟨entry, hfind, _, hqueue⟩ | ⟨hnone, _, _⟩
  · have hfound := h.found
    rw [hfind] at hfound
    rcases RequestQueue.settle_at (run.queue_sound k) hfind
      (request.status.outcome request.data) c with ⟨_, _, hleft⟩ | ⟨hother, _⟩
    · rw [hqueue]
      exact hleft
    · exact absurd (Option.some.inj hfound).symm hother
  · have hfound := h.found
    rw [hnone] at hfound
    cases hfound

theorem Decides.inQueue {request : FinalizeRequest} (h : run.Decides k c request) :
    run.InQueue k c :=
  h.left.1

/-- A flow fails as one whose window is unavailable. -/
theorem surface_of_failure {on : Waiting} {w : Wallet} {failure : Error}
    (h : on.failure? w = some failure) : ∃ reason, failure = .surfaceUnavailable reason := by
  cases on with
  | window id channel ticket errand =>
      rw [Waiting.failure?] at h
      rcases hopen : w.host.desktop.opened with cause | window
      · rw [hopen] at h
        rcases Option.some.inj h
        exact Desk.openingFailure_surface cause
      · rw [hopen] at h
        cases h
  | _ => cases h

/-- A window that fails to come empties the queue, and what is answered is the failure. -/
theorem Refuses.left {failure : Error} (h : run.Refuses k n c failure) {other : Nat}
    (hin : run.InQueue k other) : ∃ outcome, (outcome = none ∨ outcome = some (.error failure)) ∧
      LeftWith outcome other (run.queue k) (run.queue (k + 1)) := by
  rcases h with ⟨on, id, errand, hgoes, _, hfails⟩
  rcases Wallet.goOn_refused (fun _ _ => True) hfails with ⟨id', _, _, _, _, _, hqueue, _⟩
  have hdropped : run.queue (k + 1) = (run.queue k).dropAll id' failure := by
    rw [queue, wallet_goOn hgoes, Wallet.resume_state, hqueue]
    rfl
  rw [hdropped]
  -- The question that goes by the number of the failed one gets no answer, the others get it.
  rcases RequestQueue.dropAll_at (run.queue_sound k) id' failure other with
    ⟨e, _, hleft⟩ | ⟨hnone, _⟩
  · refine ⟨_, ?_, hleft⟩
    split
    · exact .inl rfl
    · exact .inr rfl
  · rw [InQueue, hnone] at hin
    exact absurd hin Bool.false_ne_true

theorem Refuses.gone {failure : Error} (h : run.Refuses k n c failure) {other : Nat}
    (hin : run.InQueue k other) : ¬ run.InQueue (k + 1) other := by
  rcases h.left hin with ⟨_, _, hleft⟩
  rw [InQueue, hleft.2.1]
  exact Bool.false_ne_true

/-- A stage goes on with one call. -/
theorem goesOn_unique {m : Nat} {on other : Waiting} (h : run.GoesOn t n on)
    (h' : run.GoesOn t m other) : n = m ∧ on = other := by
  have hsame : n = m := Move.goOn.inj (h.move.symm.trans h'.move)
  subst hsame
  exact ⟨rfl, Option.some.inj (h.waits.symm.trans h'.waits)⟩

theorem Refuses.unique {m c' : Nat} {failure failure' : Error} (h : run.Refuses k n c failure)
    (h' : run.Refuses k m c' failure') : n = m ∧ c = c' := by
  rcases h with ⟨on, id, errand, hgoes, hasked, _⟩
  rcases h' with ⟨other, id', errand', hgoes', hasked', _⟩
  rcases goesOn_unique hgoes hgoes' with ⟨rfl, rfl⟩
  exact ⟨rfl, congrArg (·.2.1) (Option.some.inj (hasked.symm.trans hasked'))⟩

theorem Refuses.surface {failure : Error} (h : run.Refuses k n c failure) :
    ∃ reason, failure = .surfaceUnavailable reason := by
  rcases h with ⟨_, _, _, _, _, hfails⟩
  exact surface_of_failure hfails

/-! ## Channels -/

theorem lt_of_inQueue (h : run.InQueue t c) : c < (run.queue t).nextChannel := by
  rcases Option.isSome_iff_exists.1 h with ⟨e, he⟩
  rcases RequestQueue.mem_of_waiter he with ⟨hmem, rfl⟩
  exact (run.queue_sound t).below e hmem

/-- A question that waits is not answered. -/
theorem answer_of_inQueue (h : run.InQueue t c) : (run.queue t).answer? c = none := by
  rcases Option.isSome_iff_exists.1 h with ⟨e, he⟩
  exact (run.queue_sound t).answer?_of_waiter he

/-- A stage leaves a channel as it is, or its question leaves the queue. -/
theorem channel_stage (run : Run) (hc : c < (run.queue t).nextChannel) :
    KeptAt c (run.queue t) (run.queue (t + 1)) ∨
    ∃ outcome, run.Leaves t c outcome ∧ LeftWith outcome c (run.queue t) (run.queue (t + 1)) := by
  have hsound := run.queue_sound t
  -- A decision ends the one channel that it names, a failed window those of all that wait.
  rcases run.queue_stage t with hordinary | ⟨request, entry, hmove, hfind, hqueue⟩ |
    ⟨n, id, channel, ticket, errand, failure, hgoes, hfails, hqueue⟩
  · exact (hordinary.passes hsound c hc).imp_right fun hleft => ⟨_, .rejected, hleft⟩
  · rcases finalize_cases hmove with ⟨entry', hfind', hdecides, _⟩ | ⟨hnone, _, _⟩
    · rcases Option.some.inj (hfind.symm.trans hfind')
      rw [hqueue]
      rcases RequestQueue.settle_at hsound hfind (request.status.outcome request.data) c with
        ⟨rfl, _, hleft⟩ | ⟨_, hkept⟩
      · exact .inr ⟨_, .decided hdecides, hleft⟩
      · exact .inl hkept
    · cases hfind.symm.trans hnone
  · have hrefuses : run.Refuses t n channel failure := ⟨_, id, errand, hgoes, rfl, hfails⟩
    rw [hqueue]
    rcases RequestQueue.dropAll_at hsound id failure c with ⟨e, _, hleft⟩ | ⟨_, hkept⟩
    · refine .inr ⟨_, ?_, hleft⟩
      split
      · exact .forsaken hrefuses
      · exact .refused hrefuses
    · exact .inl hkept

/-- A question that has left does not return, and its answer stays. -/
theorem gone_stays (hc : c < (run.queue t).nextChannel) (hgone : ¬ run.InQueue t c)
    (htu : t ≤ u) : ¬ run.InQueue u c ∧ (run.queue u).answer? c = (run.queue t).answer? c := by
  -- A question that is gone cannot leave again, so every stage after that keeps the channel.
  induction htu with
  | refl => exact ⟨hgone, rfl⟩
  | @step u htu ih =>
      rcases run.channel_stage (Nat.lt_of_lt_of_le hc (run.nextChannel_mono htu)) with
        hkept | ⟨_, _, hleft⟩
      · refine ⟨fun hin => ih.1 ?_, hkept.2.trans ih.2⟩
        rw [InQueue, ← hkept.1]
        exact hin
      · exact absurd hleft.1 ih.1

/-- A question leaves the queue once. -/
theorem left_once (hk : run.InQueue k c) (hk' : ¬ run.InQueue (k + 1) c) (hj : run.InQueue j c)
    (hj' : ¬ run.InQueue (j + 1) c) : k = j := by
  have hnot {a b : Nat} (ha : run.InQueue a c) (ha' : ¬ run.InQueue (a + 1) c)
      (hb : run.InQueue b c) : ¬ a < b := fun hab =>
    (gone_stays (Nat.lt_of_lt_of_le (lt_of_inQueue ha) (run.nextChannel_le a)) ha' hab).1 hb
  rcases Nat.lt_trichotomy k j with hlt | hsame | hlt
  · exact absurd hlt (hnot hk hk' hj)
  · exact hsame
  · exact absurd hlt (hnot hj hj' hk)

/-- What is decided is the answer from then on. -/
theorem Decides.answered {request : FinalizeRequest} (h : run.Decides k c request) (hkt : k < t) :
    ¬ run.InQueue t c ∧
      (run.queue t).answer? c = some (request.status.outcome request.data) := by
  have hleft := h.left
  have hgone : ¬ run.InQueue (k + 1) c := by
    rw [InQueue, hleft.2.1]
    exact Bool.false_ne_true
  have hc : c < (run.queue (k + 1)).nextChannel :=
    Nat.lt_of_lt_of_le (lt_of_inQueue h.inQueue) (run.nextChannel_le k)
  rcases gone_stays hc hgone hkt with ⟨hstays, hanswer⟩
  exact ⟨hstays, hanswer.trans hleft.2.2⟩

/-- An answer was given when the question left. -/
theorem answer_origin {answer : Except Error Json} (hc : c < (run.queue t).nextChannel)
    (hnone : (run.queue t).answer? c = none) (htu : t ≤ u)
    (h : (run.queue u).answer? c = some answer) :
    ∃ k, t ≤ k ∧ k < u ∧ run.InQueue k c ∧ run.Leaves k c (some answer) := by
  -- The last stage that did not keep the channel is the one in which the question left.
  induction htu with
  | refl =>
      rw [hnone] at h
      cases h
  | @step u htu ih =>
      rcases run.channel_stage (Nat.lt_of_lt_of_le hc (run.nextChannel_mono htu)) with
        hkept | ⟨outcome, hleaves, hleft⟩
      · rcases ih (hkept.2.symm.trans h) with ⟨k, htk, hku, hin, hleaves⟩
        exact ⟨k, htk, Nat.lt_succ_of_lt hku, hin, hleaves⟩
      · have hsame : outcome = some answer := hleft.2.2.symm.trans h
        exact ⟨u, htu, Nat.lt_succ_self u, hleft.1, hsame ▸ hleaves⟩

/-- What waits on a channel is the question that was put on it. -/
theorem waiter_stays {e e' : QueuedRequest} (h : (run.queue t).waiter? c = some e) (htu : t ≤ u)
    (h' : (run.queue u).waiter? c = some e') : e' = e := by
  have hc : c < (run.queue t).nextChannel := lt_of_inQueue (Option.isSome_iff_exists.2 ⟨e, h⟩)
  -- Nothing changes an entry while it waits, and one that has left is not found.
  induction htu with
  | refl => exact Option.some.inj (h'.symm.trans h)
  | @step u htu ih =>
      rcases run.channel_stage (Nat.lt_of_lt_of_le hc (run.nextChannel_mono htu)) with
        hkept | ⟨_, _, hleft⟩
      · exact ih (hkept.1.symm.trans h')
      · cases hleft.2.1.symm.trans h'

/-- Of all ways to leave the queue, only an acceptance answers with data. -/
theorem Leaves.accepted {data : Json} (h : run.Leaves k c (some (.ok data))) :
    ∃ request entry, run.Decides k c request ∧ request.status = .accept ∧
      request.data.getD .null = data ∧ (run.queue k).find? request.id = some entry ∧
      (run.queue k).waiter? c = some entry := by
  generalize hsame : some (Except.ok data) = outcome at h
  cases h with
  | rejected => cases Option.some.inj hsame
  | refused => cases Option.some.inj hsame
  | forsaken => cases hsame
  | @decided request hdecides =>
      have houtcome := Option.some.inj hsame
      -- Only acceptance gives data.
      rcases hstatus : request.status with _ | _ | status
      · rw [hstatus] at houtcome
        rcases Option.map_eq_some_iff.1 hdecides.found with ⟨entry, hfind, hchannel⟩
        have hentry := (run.queue_sound k).waiter?_of_mem (RequestQueue.mem_of_find? hfind).1
        rw [hchannel] at hentry
        exact ⟨request, entry, hdecides, hstatus, (Except.ok.inj houtcome).symm, hfind, hentry⟩
      · rw [hstatus] at houtcome
        cases houtcome
      · rw [hstatus] at houtcome
        cases houtcome

/-! ## Calls that end -/

/-- A call ends in the stage in which it is made or in one that goes on with it. -/
theorem ends_cases {outcome : Outcome} (h : run.Ends t n outcome) :
    (n = t ∧ ∃ call, run.move t = .call call ∧
      Progress.outcome? (Wallet.perform call (run.wallet t)).1 = some outcome) ∨
    ∃ on, run.GoesOn t n on ∧
      Progress.outcome? (Wallet.resume on (run.wallet t)).1 = some outcome := by
  rcases h.own with ⟨⟨call, hmove⟩, hsame⟩ | hmove
  · exact .inl ⟨hsame, call, hmove, (outcome_call hmove).symm.trans h.outcome⟩
  · rcases run.stage_cases t with ⟨call, hcall⟩ | ⟨m, on, hgoes⟩ | hidle
    · cases hmove.symm.trans hcall
    · rcases Move.goOn.inj (hmove.symm.trans hgoes.move)
      exact .inr ⟨on, hgoes, (outcome_goOn hgoes).symm.trans h.outcome⟩
    · -- A call that is not there or not ready is not gone on with.
      cases hidle.outcome.symm.trans h.outcome

theorem ends_of_call {call : Call} {outcome : Outcome} (hmove : run.move t = .call call)
    (h : Progress.outcome? (Wallet.perform call (run.wallet t)).1 = some outcome) :
    run.Ends t t outcome :=
  ⟨(outcome_call hmove).trans h, .inl ⟨⟨call, hmove⟩, rfl⟩⟩

theorem ends_of_goesOn {on : Waiting} {outcome : Outcome} (hgoes : run.GoesOn t n on)
    (h : Progress.outcome? (Wallet.resume on (run.wallet t)).1 = some outcome) :
    run.Ends t n outcome :=
  ⟨(outcome_goOn hgoes).trans h, .inr hgoes.move⟩

theorem le_of_ends {outcome : Outcome} (h : run.Ends t n outcome) : n ≤ t := by
  rcases ends_cases h with ⟨rfl, _⟩ | ⟨_, hgoes, _⟩
  · exact Nat.le_refl n
  · exact Nat.le_of_lt (lt_of_waits hgoes.waits)

/-- A part of a call that ends it leaves it waiting for nothing. -/
theorem waiting_of_over {x : Op Wallet Progress} {s : System} {outcome : Outcome}
    (h : Progress.outcome? (x s.wallet).1 = some outcome) :
    (System.run n x s).2.waiting? n = none := by
  rcases (System.run_cases n x s).2.2 with ⟨on, hwaiting, _⟩ | ⟨_, hforgotten⟩
  · rw [hwaiting] at h
    cases h
  · rw [hforgotten, if_pos rfl]

/-- A call that has ended does not wait. -/
theorem idle_of_ends {outcome : Outcome} (h : run.Ends t n outcome) (htu : t < u) (on : Waiting) :
    ¬ run.Waits u n on := by
  -- Only the stage in which a call is made starts its wait, and that is not after its end.
  induction htu generalizing on with
  | refl =>
      have hnone : (run.system (t + 1)).waiting? n = none := by
        rcases ends_cases h with ⟨rfl, call, hmove, hover⟩ | ⟨on, hgoes, hover⟩
        · rw [system, system_call hmove]
          exact waiting_of_over hover
        · rw [system, system_goOn hgoes]
          exact waiting_of_over hover
      intro hwaits
      cases hnone.symm.trans hwaits
  | @step u htu ih =>
      intro hwaits
      rcases waits_stage hwaits with hbefore | ⟨_, _, rfl, _⟩ | ⟨old, hgoes, _⟩
      · exact ih on hbefore
      · exact absurd (le_of_ends h) (Nat.not_le_of_lt htu)
      · exact ih old hgoes.waits

/-- A call ends once. -/
theorem ends_once {outcome outcome' : Outcome} (h : run.Ends t n outcome)
    (h' : run.Ends u n outcome') : t = u ∧ outcome = outcome' := by
  have hnot {a b : Nat} {o o' : Outcome} (ha : run.Ends a n o) (hb : run.Ends b n o') :
      ¬ a < b := fun hab => by
    rcases ends_cases hb with ⟨rfl, _⟩ | ⟨on, hgoes, _⟩
    · exact absurd (le_of_ends ha) (Nat.not_le_of_lt hab)
    · exact idle_of_ends ha hab on hgoes.waits
  rcases Nat.lt_trichotomy t u with hlt | rfl | hlt
  · exact absurd hlt (hnot h h')
  · exact ⟨rfl, Option.some.inj (h.outcome.symm.trans h'.outcome)⟩
  · exact absurd hlt (hnot h' h)

/-! ## Calls that put a question -/

variable {q : Question}

/-- The channel of the question that a call puts. -/
def channel (run : Run) (n : Nat) : Nat :=
  (run.queue n).nextChannel

/-- A call that puts a question waits for its answer alone. -/
theorem asked_of_waits {on : Waiting} (hasks : run.Asks n q) (h : run.Waits t n on) :
    on.asked? = some ((run.queue n).nonce, run.channel n, q.errand) := by
  rcases rooted h with ⟨origin, changeIdentity, hconnect, _⟩ | ⟨q', hasks', hasked⟩ | ⟨hawait, _⟩
  · rcases hasks with ⟨call, hmove, hq⟩
    rcases Move.call.inj (hmove.symm.trans hconnect)
    cases hq
  · rw [asks_unique hasks hasks']
    exact hasked
  · rcases hasks with ⟨call, hmove, hq⟩
    rcases Move.call.inj (hmove.symm.trans hawait)
    cases hq

/-- The question that a call puts, as it waits in the queue. -/
def entry (run : Run) (n : Nat) (q : Question) : QueuedRequest :=
  { id := (run.queue n).nonce, kind := q.kind, payload := q.payload, channel := run.channel n }

/-- Right after the call, its question waits as it was put, or is gone for want of a window. -/
theorem asks_stage (hasks : run.Asks n q) :
    run.channel n < (run.queue (n + 1)).nextChannel ∧
      (run.queue (n + 1)).answer? (run.channel n) = none ∧
      ∀ e, (run.queue (n + 1)).waiter? (run.channel n) = some e → e = run.entry n q := by
  rcases hasks with ⟨call, hmove, hq⟩
  have hnew := RequestQueue.enqueue_new (run.queue_sound n) q.kind q.payload
  -- The channel is new, so nothing stands on it.
  have hblank : ((run.queue n).enqueue q.kind q.payload).answer? (run.channel n) = none :=
    ((run.queue_sound n).blank (Nat.le_refl _)).2
  rw [queue, wallet_call hmove]
  rcases Wallet.perform_asks hq with ⟨on, v, _, _, hperform, _, hqueue, _⟩ |
    ⟨cause, v, hperform, hqueue⟩
  · rw [hperform]
    simp only [hqueue]
    exact ⟨Nat.lt_succ_self _, hblank, fun e he => Option.some.inj (he.symm.trans hnew)⟩
  · -- Its own window failed, so it is dropped without an answer.
    rw [hperform]
    simp only [hqueue]
    refine ⟨Nat.lt_succ_self _, ?_, fun e he => by cases he⟩
    rcases RequestQueue.dropAll_at ((run.queue_sound n).enqueue q.kind q.payload)
      (run.wallet n).core.queue.nonce (Desk.openingFailure cause) (run.channel n) with
      ⟨e, he, hleft⟩ | ⟨_, hkept⟩
    · rcases Option.some.inj (he.symm.trans hnew)
      exact hleft.2.2.trans (if_pos rfl)
    · exact hkept.2.trans hblank

/-- A question waits as it was put. -/
theorem entry_of_asks {e : QueuedRequest} (hasks : run.Asks n q) (hnt : n < t)
    (h : (run.queue t).waiter? (run.channel n) = some e) : e = run.entry n q := by
  rcases asks_stage hasks with ⟨hc, _, hfirst⟩
  -- Nothing changes an entry while it waits, and one that has left is not found.
  induction hnt with
  | refl => exact hfirst e h
  | @step t hnt ih =>
      rcases run.channel_stage (Nat.lt_of_lt_of_le hc (run.nextChannel_mono hnt)) with
        hkept | ⟨_, _, hleft⟩
      · exact ih (hkept.1.symm.trans h)
      · cases hleft.2.1.symm.trans h

/-- A call that puts a question waits, or it ends at once for want of a window and its question is
gone. -/
theorem asks_cases (hasks : run.Asks n q) : (∃ on, run.Waits (n + 1) n on) ∨
    ∃ reason, run.Ends n n (.error (q.errand.wrap (.surfaceUnavailable reason))) ∧
      ¬ run.InQueue (n + 1) (run.channel n) := by
  rcases hasks with ⟨call, hmove, hq⟩
  rcases Wallet.perform_asks hq with ⟨on, v, _, _, hperform, _⟩ | ⟨cause, v, hperform, hqueue⟩
  · exact .inl ⟨on, waits_of_call hmove hperform⟩
  · rcases Desk.openingFailure_surface cause with ⟨reason, hsurface⟩
    refine .inr ⟨reason, ends_of_call hmove (by rw [hperform, hsurface]; rfl), ?_⟩
    rw [InQueue, queue, wallet_call hmove, hperform]
    simp only [hqueue]
    exact Bool.false_ne_true

/-- A call waits for a window for its question only if there was no other question. -/
theorem alone_of_window {id : UInt64} {ticket : Nat} {errand : Errand} (hasks : run.Asks n q)
    (h : run.Waits t n (.window id c ticket errand)) : (run.queue n).pending = [] := by
  -- Who waits for a window was the first in the queue when it asked.
  induction t with
  | zero => cases h
  | succ t ih =>
      rcases waits_stage h with hbefore | ⟨call, hmove, rfl, hpart⟩ | ⟨on, hgoes, hpart⟩
      · exact ih hbefore
      · rcases hasks with ⟨call', hmove', hq⟩
        rcases Move.call.inj (hmove.symm.trans hmove')
        rcases Wallet.perform_asks hq with
          ⟨on, v, _, _, hperform, _, _, halone⟩ | ⟨_, _, hperform, _⟩
        · rw [hperform] at hpart
          rcases Progress.waiting.inj (Except.ok.inj hpart)
          rcases halone with hqueued | hempty
          · cases hqueued
          · exact hempty
        · rw [hperform] at hpart
          cases hpart
      · -- A call that is gone on with does not come to wait for the window of its first question.
        have hasked := asked_of_waits hasks hgoes.waits
        rcases hp : Wallet.resume on (run.wallet t) with ⟨outcome, v⟩
        rw [hp] at hpart
        simp only at hpart
        subst hpart
        rcases Wallet.resume_waiting hp with
          ⟨origin, hlinks, _⟩ | ⟨_, _, _, _, _, hanswer⟩ | ⟨_, hsignal⟩
        · rcases hasks with ⟨call, _, hq⟩
          exact absurd (Errand.connects_iff.2 ⟨origin, (Waiting.links_iff hasked).1 hlinks⟩)
            (Wallet.question_connects hq)
        · cases hanswer
        · cases hsignal

end Run

end WalletTrust

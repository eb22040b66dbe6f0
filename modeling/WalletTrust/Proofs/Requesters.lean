import WalletTrust.Proofs.Answers

/-!
# What Requesters Are Told

Whether the one who puts a question is told what the user decided.

A requester puts a question and waits. If its question is the first in the queue, it waits for the
window first and for the answer after that. A decision may come while the window is still being
opened, since other windows may show the queue. The channel holds the decision then, but it is not
looked at if the window fails to come: the requester is told that it failed. The same failure is
told to every question that is in the queue by then, even to one that was put after the question of
that window had been decided.

So a requester is told right unless such a window is refused: one that was to show a question that
is no longer there. `Run.Overtaken` says when that strikes a requester, and `Run.served` says that
nothing else does. The run `lateWindow` shows that it happens.

Both directions are shown by cases on what the requester is given in the end. If a window of
somebody else is to blame, that window's opener was in front of the requester when it put its
question, or it was not; and in the second case nothing explains why the requester should hear of
it.

## Main definitions

* `Run.Requests`, `Run.Obtains`: Who puts a question for itself, and what it is given in the end.
* `Run.ToldRight`: It is given the user's decision, and a window is blamed only if it is to blame.
* `Run.Overtaken`: A window is refused for a question that is no longer there.

## Theorems

* `Run.obtains_cases`: Where what a requester is given comes from.
* `Run.served`: A requester is told right exactly if it is not overtaken.
* `Run.lateWindow_wrong`: A requester whose question was accepted is told that its window failed.
* `Run.decides_before`: A decision was made before whoever put the question is given anything.
* `Run.wrong_of_own`, `Run.wrong_of_other`: A requester that is overtaken is told wrong.
* `Run.toldRight_of`: A requester that is not overtaken is told right.
* `Run.waits_or_ends`, `Run.obtains_of_answer`: A requester is given something once its question is
  answered and it is gone on with.
-/

namespace WalletTrust

/-- What a call gives to the one who put a question with it. -/
def Outcome.result? : Outcome → Option (Except Error Json)
  | .ok (.data data) => some (.ok data)
  | .ok (.reply _ result) => some result
  | .ok _ => none
  | .error e => some (.error e)

theorem Decision.outcome_surface (decision : Decision) (data : Option Json) (reason : String) :
    decision.outcome data ≠ .error (.surfaceUnavailable reason) := by
  intro h
  cases decision with
  | accept => cases h
  | reject => cases h
  | other status => cases h

namespace Run

variable {run : Run} {n i j k t : Nat} {r : Except Error Json}

/-- A call puts a question for the one who makes it. -/
def Requests (run : Run) (n : Nat) : Prop :=
  ∃ kind payload, run.move n = .call (.ask kind payload) ∨ run.move n = .call (.submit kind payload)

/-- In a stage, a requester is given a result, and its call is over. -/
def Obtains (run : Run) (i n : Nat) (r : Except Error Json) : Prop :=
  ∃ outcome, run.Ends i n outcome ∧ outcome.result? = some r

/-- A requester is told the decision on its question if there is one, and that a window is
unavailable only if one failed while the question was in the queue: its own, or that of a question
behind which it was put. -/
structure ToldRight (run : Run) (n i : Nat) (r : Except Error Json) : Prop where
  decision : ∀ k request, run.Decides k (run.channel n) request →
    r = request.status.outcome request.data
  refusal : ∀ reason, r = .error (.surfaceUnavailable reason) →
    i = n ∨ ∃ k m c failure, n < k ∧ k ≤ i ∧ run.Refuses k m c failure ∧
      run.InQueue k (run.channel n) ∧ (m = n ∨ run.InQueue n c)

/-- A window fails to come for a question that is no longer there: for that of the requester after
it has left the queue, or for one that had left the queue before the requester put its own. -/
def Overtaken (run : Run) (n i : Nat) : Prop :=
  ∃ k m c failure, n < k ∧ k ≤ i ∧ run.Refuses k m c failure ∧
    ((m = n ∧ ¬ run.InQueue k (run.channel n)) ∨
      (m ≠ n ∧ run.InQueue k (run.channel n) ∧ ¬ run.InQueue n c))

/-- Before a stage, a call waits for a window that the host holds back. -/
def HeldBack (run : Run) (t : Nat) (on : Waiting) : Prop :=
  ∃ ticket ∈ (run.wallet t).host.desktop.held, on.ticket? = some ticket

/-- What there is to say about a requester. -/
structure Served (run : Run) (n : Nat) : Prop where
  /-- It is told right exactly if it is not overtaken. -/
  right : ∀ i r, run.Obtains i n r → (run.ToldRight n i r ↔ ¬ run.Overtaken n i)
  /-- It is given one result. -/
  once : ∀ i j r s, run.Obtains i n r → run.Obtains j n s → i = j ∧ r = s
  /-- Once its question is decided it is given a result when its call is gone on with. Until then
  the call waits, and the wait is over unless the host holds back the window. -/
  reached : ∀ k request t, run.Decides k (run.channel n) request → k < t →
    (∀ u < t, run.move u ≠ .cancel n) → (∃ i < t, ∃ r, run.Obtains i n r) ∨
    ∃ on, run.Waits t n on ∧ (on.isReady (run.wallet t) = true ∨ run.HeldBack t on) ∧
      (run.GoesOn t n on → ∃ r, run.Obtains t n r)

/-! ## What a requester is given -/

theorem asks_of_requests (h : run.Requests n) :
    ∃ q withId, run.Asks n q ∧ q.errand = .asked withId := by
  rcases h with ⟨kind, payload, hmove | hmove⟩
  · exact ⟨⟨kind, payload, .asked false⟩, false, ⟨_, hmove, rfl⟩, rfl⟩
  · exact ⟨⟨kind, payload, .asked true⟩, true, ⟨_, hmove, rfl⟩, rfl⟩

/-- Going on with a question that was put for the asker gives it the failure of the window, if that
fails, and else the answer, if there is one. If there is neither, the call is not over. -/
theorem resume_asked {on : Waiting} {id : UInt64} {c : Nat} {withId : Bool}
    (hasked : on.asked? = some (id, c, .asked withId)) (w : Wallet) :
    (Progress.outcome? (Wallet.resume on w).1).map Outcome.result? =
      (((on.failure? w).map .error).or (w.core.queue.answer? c)).map some := by
  have hwrap : ∀ e, on.wrap e = e := by
    cases on with
    | window => rcases Option.some.inj hasked; exact fun _ => rfl
    | answer => rcases Option.some.inj hasked; exact fun _ => rfl
    | _ => cases hasked
  rw [Wallet.resume, Op.mapError_id hwrap]
  rcases hfails : on.failure? w with _ | failure
  · rcases Wallet.goOn_asked (fun _ _ => True) hasked hfails with ⟨v, hrun, hanswers, _⟩
    -- Showing the window changes no answer, so it is as if the answer was awaited at once.
    rw [hrun, ← Wallet.answer?_congr hanswers c]
    rcases hanswer : v.core.queue.answer? c with _ | answer
    · rw [Wallet.awaitAnswer_none hanswer]
      rfl
    · rw [Wallet.awaitAnswer_some hanswer]
      cases withId with
      | true => rfl
      | false =>
          cases answer with
          | ok data => rfl
          | error e => rfl
  · rcases Wallet.goOn_refused (fun _ _ => True) hfails with ⟨_, _, _, _, _, herror, _, _⟩
    rw [herror]
    rfl

/-- A requester that is gone on with is given the failure of its window, or else the answer on its
channel, if there is one. -/
theorem resume_requester {on : Waiting} (hreq : run.Requests n) (hgoes : run.GoesOn t n on) :
    (∃ id errand, on.asked? = some (id, run.channel n, errand)) ∧
    (Progress.outcome? (Wallet.resume on (run.wallet t)).1).map Outcome.result? =
      (((on.failure? (run.wallet t)).map .error).or
        ((run.queue t).answer? (run.channel n))).map some := by
  rcases asks_of_requests hreq with ⟨q, withId, hasks, herrand⟩
  have hasked := asked_of_waits hasks hgoes.waits
  rw [herrand] at hasked
  exact ⟨⟨_, _, hasked⟩, resume_asked hasked (run.wallet t)⟩

/-- What a requester is given is that its window failed, at once or later, or it is the answer on
its channel. -/
theorem obtains_cases (hreq : run.Requests n) (h : run.Obtains i n r) :
    (i = n ∧ (∃ reason, r = .error (.surfaceUnavailable reason)) ∧
      ¬ run.InQueue (n + 1) (run.channel n)) ∨
    (n < i ∧ ∃ failure, run.Refuses i n (run.channel n) failure ∧ r = .error failure) ∨
    (n < i ∧ (run.queue i).answer? (run.channel n) = some r) := by
  rcases h with ⟨outcome, hends, hresult⟩
  rcases ends_cases hends with ⟨rfl, _⟩ | ⟨on, hgoes, hover⟩
  · refine .inl ⟨rfl, ?_⟩
    rcases asks_of_requests hreq with ⟨q, withId, hasks, herrand⟩
    rcases asks_cases hasks with ⟨on, hwaits⟩ | ⟨reason, hrefused, hgone⟩
    · exact absurd hwaits (idle_of_ends hends (Nat.lt_succ_self n) on)
    · rcases ends_once hends hrefused with ⟨_, rfl⟩
      rw [herrand] at hresult
      exact ⟨⟨reason, (Option.some.inj hresult).symm⟩, hgone⟩
  · refine .inr ?_
    have hlt := lt_of_waits hgoes.waits
    rcases resume_requester hreq hgoes with ⟨⟨id, errand, hasked⟩, hgiven⟩
    rw [hover, Option.map_some, hresult] at hgiven
    rcases Option.map_eq_some_iff.1 hgiven.symm with ⟨given, hgiven, hsame⟩
    rcases Option.some.inj hsame
    -- The failure of the window is told before the answer is looked at.
    rcases hfails : on.failure? (run.wallet i) with _ | failure
    · rw [hfails] at hgiven
      exact .inr ⟨hlt, hgiven⟩
    · rw [hfails] at hgiven
      exact .inl ⟨hlt, failure, ⟨on, id, errand, hgoes, hasked, hfails⟩,
        (Option.some.inj hgiven).symm⟩

/-- A requester whose window fails is given that. -/
theorem obtains_of_refuses {c : Nat} {failure : Error} (hreq : run.Requests n)
    (h : run.Refuses k n c failure) : run.Obtains k n (.error failure) := by
  rcases h with ⟨on, id, errand, hgoes, _, hfails⟩
  have hgiven := (resume_requester hreq hgoes).2
  rw [hfails] at hgiven
  rcases Option.map_eq_some_iff.1 hgiven with ⟨outcome, hover, hresult⟩
  exact ⟨outcome, ends_of_goesOn hgoes hover, hresult⟩

theorem obtains_once {s : Except Error Json} (h : run.Obtains i n r) (h' : run.Obtains j n s) :
    i = j ∧ r = s := by
  rcases h with ⟨outcome, hends, hresult⟩
  rcases h' with ⟨outcome', hends', hresult'⟩
  rcases ends_once hends hends' with ⟨rfl, rfl⟩
  exact ⟨rfl, Option.some.inj (hresult.symm.trans hresult')⟩

/-- A question is decided after it was put. -/
theorem lt_of_decides {request : FinalizeRequest} (h : run.Decides k (run.channel n) request) :
    n < k := by
  rcases Nat.lt_or_ge n k with hlt | hge
  · exact hlt
  · have hin : run.channel n < (run.queue k).nextChannel := lt_of_inQueue h.inQueue
    exact absurd (Nat.lt_of_lt_of_le hin (run.nextChannel_mono hge)) (Nat.lt_irrefl _)

/-- A decision was made before whoever put the question is given anything. -/
theorem decides_before {request : FinalizeRequest} (hreq : run.Requests n)
    (hobtains : run.Obtains i n r) (h : run.Decides k (run.channel n) request) : k < i := by
  rcases asks_of_requests hreq with ⟨q, withId, hasks, herrand⟩
  have hc : run.channel n < (run.queue (n + 1)).nextChannel := (asks_stage hasks).1
  have hnk := lt_of_decides h
  -- A question that has left the queue does not come back, so what is decided is decided before.
  have hgone {u : Nat} (hnu : n < u) (hout : ¬ run.InQueue u (run.channel n)) : ¬ u ≤ k :=
    fun huk => (gone_stays (Nat.lt_of_lt_of_le hc (run.nextChannel_mono hnu)) hout huk).1 h.inQueue
  rcases obtains_cases hreq hobtains with ⟨rfl, _, hout⟩ | ⟨hni, failure, hrefuses, _⟩ |
    ⟨hni, hanswer⟩
  · exact absurd (Nat.succ_le_of_lt hnk) (hgone (Nat.lt_succ_self i) hout)
  · -- Its window failed, so nobody is in the queue after that, and nothing can be decided.
    refine Nat.lt_of_not_le fun hik => ?_
    rcases Nat.lt_or_eq_of_le hik with hik | rfl
    · have hin : run.InQueue i (run.channel n) := Classical.byContradiction fun hout =>
        hgone hni hout (Nat.le_of_lt hik)
      exact hgone (Nat.lt_succ_of_lt hni) (hrefuses.gone hin) hik
    · rcases hrefuses with ⟨_, _, _, hgoes, _⟩
      cases h.move.symm.trans hgoes.move
  · -- What is answered is not in the queue.
    refine Nat.lt_of_not_le (hgone hni fun hin => ?_)
    rw [answer_of_inQueue hin] at hanswer
    cases hanswer

/-- A requester is given something in the stage in which its call ends. -/
theorem obtains_of_ends {outcome : Outcome} (hreq : run.Requests n) (h : run.Ends i n outcome) :
    ∃ r, run.Obtains i n r := by
  rcases ends_cases h with ⟨rfl, _⟩ | ⟨on, hgoes, hover⟩
  · rcases asks_of_requests hreq with ⟨q, withId, hasks, herrand⟩
    rcases asks_cases hasks with ⟨on, hwaits⟩ | ⟨reason, hrefused, _⟩
    · exact absurd hwaits (idle_of_ends h (Nat.lt_succ_self n) on)
    · exact ⟨_, _, hrefused, rfl⟩
  · have hgiven := (resume_requester hreq hgoes).2
    rw [hover, Option.map_some] at hgiven
    rcases Option.map_eq_some_iff.1 hgiven.symm with ⟨given, _, hresult⟩
    exact ⟨given, outcome, h, hresult.symm⟩

/-- A requester whose question is dropped is told that a window failed. -/
theorem surface_of_dropped {m c : Nat} {failure : Error} (hreq : run.Requests n)
    (hobtains : run.Obtains i n r) (hrefuses : run.Refuses k m c failure)
    (hin : run.InQueue k (run.channel n)) (hki : k ≤ i) :
    ∃ reason, r = .error (.surfaceUnavailable reason) := by
  rcases obtains_cases hreq hobtains with ⟨_, hsurface, _⟩ | ⟨_, failure', hown, hr⟩ | ⟨_, hanswer⟩
  · exact hsurface
  · rcases hown.surface with ⟨reason, rfl⟩
    exact ⟨reason, hr⟩
  · -- It is given what is on its channel, and that is what it was dropped with.
    rcases Nat.lt_or_eq_of_le hki with hlt | rfl
    · rcases hrefuses.left hin with ⟨outcome, houtcome, hleft⟩
      have hc := Nat.lt_of_lt_of_le (lt_of_inQueue hin) (run.nextChannel_le k)
      have hstays := (gone_stays hc (hrefuses.gone hin) hlt).2
      rw [hanswer, hleft.2.2] at hstays
      rcases hrefuses.surface with ⟨reason, rfl⟩
      rcases houtcome with rfl | rfl
      · cases hstays
      · exact ⟨reason, Option.some.inj hstays⟩
    · rw [answer_of_inQueue hin] at hanswer
      cases hanswer

/-! ## Being told right -/

/-- A requester whose own window fails after its question has left is told wrong. -/
theorem wrong_of_own {c : Nat} {failure : Error} (hreq : run.Requests n)
    (hobtains : run.Obtains i n r) (hnk : n < k) (hrefuses : run.Refuses k n c failure)
    (hout : ¬ run.InQueue k (run.channel n)) : ¬ run.ToldRight n i r := by
  rcases asks_of_requests hreq with ⟨q, withId, hasks, _⟩
  rcases hrefuses.surface with ⟨reason, rfl⟩
  rcases obtains_once hobtains (obtains_of_refuses hreq hrefuses) with ⟨rfl, rfl⟩
  intro hright
  rcases hright.refusal reason rfl with rfl | ⟨k', m, c', failure, _, hk', hrefuses', hin, hwhy⟩
  · exact Nat.lt_irrefl i hnk
  -- The refusal that would explain the error is this one, or an earlier one that hit a question in
  -- front.
  · rcases Nat.lt_or_eq_of_le hk' with hlt | rfl
    · rcases hwhy with rfl | hahead
      · exact Nat.ne_of_gt hlt (obtains_once hobtains (obtains_of_refuses hreq hrefuses')).1
      · -- A question behind another is not waited for with a window.
        rcases hrefuses with ⟨on, _, _, hgoes, _, hfails⟩
        rcases Wallet.goOn_refused (fun _ _ => True) hfails with ⟨_, _, _, _, rfl, _⟩
        rw [InQueue, RequestQueue.waiter?, alone_of_window hasks hgoes.waits] at hahead
        exact Bool.false_ne_true hahead
    · exact hout hin

/-- A requester whose question is dropped with a window that it was not put behind is told wrong. -/
theorem wrong_of_other {m c : Nat} {failure : Error} (hreq : run.Requests n)
    (hobtains : run.Obtains i n r) (hnk : n < k) (hki : k ≤ i)
    (hrefuses : run.Refuses k m c failure) (hother : m ≠ n) (hin : run.InQueue k (run.channel n))
    (hlate : ¬ run.InQueue n c) : ¬ run.ToldRight n i r := by
  intro hright
  rcases surface_of_dropped hreq hobtains hrefuses hin hki with ⟨reason, rfl⟩
  rcases hright.refusal reason rfl with rfl | ⟨k', m', c', failure', _, _, hrefuses', hin', hwhy⟩
  · exact absurd hki (Nat.not_le_of_lt hnk)
  · -- A question leaves once, so the window that is to blame is the same.
    rcases left_once hin (hrefuses.gone hin) hin' (hrefuses'.gone hin')
    rcases hrefuses.unique hrefuses' with ⟨rfl, rfl⟩
    exact hwhy.elim hother hlate

/-- A requester that is not overtaken is told right. -/
theorem toldRight_of (hreq : run.Requests n) (hobtains : run.Obtains i n r)
    (h : ¬ run.Overtaken n i) : run.ToldRight n i r := by
  rcases asks_of_requests hreq with ⟨q, withId, hasks, _⟩
  rcases asks_stage hasks with ⟨hc, hnone, _⟩
  constructor
  -- Nothing overtakes, so the answer on the channel is the one that is obtained.
  · intro k request hdecides
    rcases hdecides.answered (decides_before hreq hobtains hdecides) with ⟨hout, hanswer⟩
    rcases obtains_cases hreq hobtains with ⟨rfl, _, _⟩ | ⟨hni, failure, hrefuses, _⟩ | ⟨_, hgiven⟩
    · exact absurd (lt_of_decides hdecides)
        (Nat.lt_asymm (decides_before hreq hobtains hdecides))
    · exact absurd ⟨i, n, _, failure, hni, Nat.le_refl i, hrefuses, .inl ⟨rfl, hout⟩⟩ h
    · exact Option.some.inj (hgiven.symm.trans hanswer)
  · rintro reason rfl
    rcases obtains_cases hreq hobtains with ⟨hsame, _, _⟩ | ⟨hni, failure, hrefuses, _⟩ |
      ⟨hni, hanswer⟩
    · exact .inl hsame
    · refine .inr ⟨i, n, _, failure, hni, Nat.le_refl i, hrefuses, ?_, .inl rfl⟩
      exact Classical.byContradiction fun hout =>
        h ⟨i, n, _, failure, hni, Nat.le_refl i, hrefuses, .inl ⟨rfl, hout⟩⟩
    · -- The answer was given when the question left, and only a window that failed gives that one.
      rcases answer_origin hc hnone hni hanswer with ⟨k, hnk, hki, hin, hleaves⟩
      generalize hsame : some (Except.error (Error.surfaceUnavailable reason)) = outcome at hleaves
      cases hleaves with
      | rejected => cases Option.some.inj hsame
      | decided hdecides =>
          exact absurd (Option.some.inj hsame).symm (Decision.outcome_surface _ _ _)
      | forsaken => cases hsame
      | @refused m c failure hrefuses =>
          by_cases hwhy : m = n ∨ run.InQueue n c
          · exact .inr ⟨k, m, c, failure, hnk, Nat.le_of_lt hki, hrefuses, hin, hwhy⟩
          · exact absurd ⟨k, m, c, failure, hnk, Nat.le_of_lt hki, hrefuses,
              .inr ⟨fun hown => hwhy (.inl hown), hin, fun hahead => hwhy (.inr hahead)⟩⟩ h

/-! ## Being told at all -/

/-- A call that puts a question waits until it ends, unless it is given up. -/
theorem waits_or_ends {q : Question} (hasks : run.Asks n q) (hnt : n < t)
    (hkept : ∀ u < t, run.move u ≠ .cancel n) :
    (∃ i < t, ∃ outcome, run.Ends i n outcome) ∨ ∃ on, run.Waits t n on := by
  -- Nobody gives the call up, so it waits until it ends.
  induction hnt with
  | refl =>
      rcases asks_cases hasks with hwaits | ⟨reason, hends, _⟩
      · exact .inr hwaits
      · exact .inl ⟨n, Nat.lt_succ_self n, _, hends⟩
  | @step t hnt ih =>
      rcases ih fun u hu => hkept u (Nat.lt_succ_of_lt hu) with ⟨i, hi, hends⟩ | ⟨on, hwaits⟩
      · exact .inl ⟨i, Nat.lt_succ_of_lt hi, hends⟩
      · rcases run.stage_cases t with ⟨call, hcall⟩ | ⟨m, other, hgoes⟩ | hidle
        · refine .inr ⟨on, waits_stays hwaits (hkept t (Nat.lt_succ_self t)) fun hmove => ?_⟩
          cases hcall.symm.trans hmove
        · -- The call waits on if another is gone on with, and also if its own next part waits.
          by_cases hsame : m = n
          · subst hsame
            rcases (System.run_cases m (Wallet.resume other) (run.system t)).2.2 with
              ⟨next, _, hwaiting⟩ | ⟨hover, _⟩
            · refine .inr ⟨next, ?_⟩
              rw [Waits, system, system_goOn hgoes, hwaiting, if_pos rfl]
            · rcases Option.isSome_iff_exists.1 hover with ⟨outcome, hover⟩
              exact .inl ⟨t, Nat.lt_succ_self t, outcome, ends_of_goesOn hgoes hover⟩
          · refine .inr ⟨on, waits_stays hwaits (hkept t (Nat.lt_succ_self t)) fun hmove => ?_⟩
            exact hsame (Move.goOn.inj (hgoes.move.symm.trans hmove))
        · exact .inr ⟨on, hidle.stays n on hwaits (hkept t (Nat.lt_succ_self t))⟩

/-- A call that has put a question is ready once that is answered, unless its window is held
back. -/
theorem ready_of_answer {q : Question} {on : Waiting} {answer : Except Error Json}
    (hasks : run.Asks n q) (hwaits : run.Waits t n on)
    (h : (run.queue t).answer? (run.channel n) = some answer) :
    on.isReady (run.wallet t) = true ∨ run.HeldBack t on := by
  have hasked := asked_of_waits hasks hwaits
  cases on with
  | window id channel ticket errand =>
      rcases hheld : (run.wallet t).host.desktop.held.contains ticket with _ | _
      · exact .inl (by rw [Waiting.isReady, hheld]; rfl)
      · exact .inr ⟨ticket, List.contains_iff_mem.1 hheld, rfl⟩
  | answer id channel errand =>
      rcases Option.some.inj hasked
      exact .inl (congrArg Option.isSome h)
  | _ => cases hasked

/-- A requester that is gone on with is given something once its question is answered. -/
theorem obtains_of_answer {on : Waiting} {answer : Except Error Json} (hreq : run.Requests n)
    (hgoes : run.GoesOn t n on) (h : (run.queue t).answer? (run.channel n) = some answer) :
    ∃ r, run.Obtains t n r := by
  rcases resume_requester hreq hgoes with ⟨⟨id, errand, hasked⟩, hgiven⟩
  rw [h] at hgiven
  rcases hfails : on.failure? (run.wallet t) with _ | failure
  · rw [hfails] at hgiven
    rcases Option.map_eq_some_iff.1 hgiven with ⟨outcome, hover, hresult⟩
    exact ⟨answer, outcome, ends_of_goesOn hgoes hover, hresult⟩
  · exact ⟨_, obtains_of_refuses hreq ⟨on, id, errand, hgoes, hasked, hfails⟩⟩

/-- A requester is told right exactly if it is not overtaken. It is told once, and it is told as
soon as it may be when its question is decided. -/
theorem served (run : Run) (n : Nat) (hreq : run.Requests n) : run.Served n where
  right := fun i r hobtains => by
    refine ⟨fun hright hover => ?_, toldRight_of hreq hobtains⟩
    rcases hover with ⟨k, m, c, failure, hnk, hki, hrefuses, ⟨rfl, hout⟩ | ⟨hother, hin, hlate⟩⟩
    · exact wrong_of_own hreq hobtains hnk hrefuses hout hright
    · exact wrong_of_other hreq hobtains hnk hki hrefuses hother hin hlate hright
  once := fun _ _ _ _ => obtains_once
  reached := fun k request t hdecides hkt hkept => by
    rcases asks_of_requests hreq with ⟨q, withId, hasks, _⟩
    have hanswer := (hdecides.answered hkt).2
    have hnt := Nat.lt_trans (lt_of_decides hdecides) hkt
    rcases waits_or_ends hasks hnt hkept with ⟨i, hi, outcome, hends⟩ | ⟨on, hwaits⟩
    · rcases obtains_of_ends hreq hends with ⟨r, hobtains⟩
      exact .inl ⟨i, hi, r, hobtains⟩
    · exact .inr ⟨on, hwaits, ready_of_answer hasks hwaits hanswer,
        fun hgoes => obtains_of_answer hreq hgoes hanswer⟩

/-! ## A window that comes too late -/

/-- Windows are refused, and the next one is held back. A question is put, it is accepted while its
window is held back, and then the window is refused. -/
def lateWindow : Run where
  move
    | 0 => .host .holdWindow
    | 1 => .host (.setFault .windows true)
    | 2 => .call (.ask .approve .null)
    | 3 => .call (.finalize { id := 0, status := .accept, data := some .null })
    | 4 => .host .releaseWindow
    | n => .goOn (n - 3)

/-- The user has accepted, and the requester is told that there was no window. -/
theorem lateWindow_wrong :
    lateWindow.Requests 2 ∧
      lateWindow.Decides 3 (lateWindow.channel 2)
        { id := 0, status := .accept, data := some .null } ∧
      lateWindow.Obtains 5 2 (.error (.surfaceUnavailable "window creation refused")) ∧
      ¬ lateWindow.ToldRight 2 5 (.error (.surfaceUnavailable "window creation refused")) := by
  have hdecides : lateWindow.Decides 3 (lateWindow.channel 2)
      { id := 0, status := .accept, data := some .null } := ⟨rfl, rfl, rfl⟩
  refine ⟨⟨_, _, .inl rfl⟩, hdecides, ⟨_, ⟨rfl, .inr rfl⟩, rfl⟩, fun hright => ?_⟩
  cases hright.decision 3 _ hdecides

theorem served_lateWindow : lateWindow.Requests 2 ∧ lateWindow.Served 2 :=
  ⟨⟨_, _, .inl rfl⟩, served lateWindow 2 ⟨_, _, .inl rfl⟩⟩

end Run

end WalletTrust

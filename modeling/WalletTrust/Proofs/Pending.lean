import WalletTrust.Proofs.Posing
import WalletTrust.Proofs.Writes

/-!
# Pending Questions

A call that waits for the answer to a question, while nothing else goes on.

`Posing` follows a question back from its answer. Here a call is followed from its question on. A
stage either runs a part of the call, and then it comes to what the operation comes to, or it leaves
the registries, the slots and the wait alone. Whoever goes on with a pending question is told one of
three things: that the window for it has failed to come, that there is no answer yet, or the answer.
The window is looked at first, so an answer may be lost if the window comes too late. That case is
set apart here; `Requesters` says what is wrong there.

Which questions a call has put is read off the channels. A question takes the next channel, and
nothing else takes one, so a stage that gives out no channel has put no question.

## Main definitions

* `Move.Quiet`: What may happen while nothing else goes on.
* `Run.PutsAt`, `Run.HasPut`: The questions that a stage puts, and those that a call has put.
* `Run.Pends`, `Run.Unaccepted`: A call waits for an answer, or there is none that accepts.
* `Run.FailsLate`: The window for a question fails to come after the answer.
* `Run.Leads`: What the part of a call comes to that a stage runs.

## Theorems

* `Run.HasPut.length_unique`: How many questions a call has put is settled.
* `Run.rests`: A stage that runs no part of the call leaves everything alone.
* `Run.Leads.asks`: A part that puts a question.
* `Run.goesOn_pending`, `Run.Pends.goesOn`: What a call is told that goes on with its question.
* `Run.PutsAt.count`: A stage that puts questions takes as many channels.
* `Run.settled_stage`: A stage that comes to no more than the window puts no question and touches
  nothing.
* `Run.acceptedWith_of_left`: Only who accepts sends data.
-/

namespace WalletTrust

/-- What may happen while nothing but a call goes on: a part of the call, a decision of the user, a
change of the host that writes nothing, and the end of another wait. -/
inductive Move.Quiet (n : Nat) : Move → Prop
  | goOn : Quiet n (.goOn n)
  | decision (request : FinalizeRequest) : Quiet n (.call (.finalize request))
  | host {action : HostAction} (h : ∀ name, ¬ action.Writes name) : Quiet n (.host action)
  | cancel {m : Nat} (h : m ≠ n) : Quiet n (.cancel m)

theorem Errand.wrap_of_question {errand : Errand} {q : RequestKind × Json}
    (h : errand.question? = some q) : errand.wrap = .ofConnect := by
  cases errand with
  | approval => rfl
  | identityChoice => rfl
  | _ => cases h

/-- A connect request whose question is refused fails for that. -/
theorem Wallet.fulfil_refused {errand : Errand} {q : RequestKind × Json}
    (h : errand.question? = some q) (id : UInt64) (e : Error) (w : Wallet) :
    Wallet.fulfil id errand (.error e) w = (.error e, w) := by
  cases errand with
  | approval => rfl
  | identityChoice => rfl
  | _ => cases h

namespace Run

variable {run : Run} {n j t u : Nat} {asked more : List (RequestKind × Json)} {on : Waiting}
  {errand : Errand} {w : Wallet}

/-! ## Questions -/

/-- The questions that a stage puts. There is at most one. -/
def PutsAt (run : Run) (t : Nat) : List (RequestKind × Json) → Prop
  | [] => (run.queue (t + 1)).nextChannel = (run.queue t).nextChannel
  | [(kind, payload)] => ∃ w : Wallet, w.core.queue.nextChannel = (run.queue t).nextChannel ∧
      run.wallet (t + 1) = (Wallet.onDesk (Desk.submit kind payload) w).2
  | _ => False

/-- The questions that a call has put before a stage, in order. -/
inductive HasPut (run : Run) (n : Nat) : Nat → List (RequestKind × Json) → Prop
  | called {asked : List (RequestKind × Json)} (h : run.PutsAt n asked) : HasPut run n (n + 1) asked
  | goneOn {t : Nat} {on : Waiting} {asked more : List (RequestKind × Json)}
      (h : HasPut run n t asked) (hgoes : run.GoesOn t n on) (hputs : run.PutsAt t more) :
      HasPut run n (t + 1) (asked ++ more)
  | rested {t : Nat} {asked : List (RequestKind × Json)} (h : HasPut run n t asked)
      (hrests : ∀ on, ¬ run.GoesOn t n on) : HasPut run n (t + 1) asked

/-- A stage that puts questions takes as many channels. -/
theorem PutsAt.count (h : run.PutsAt t asked) :
    (run.queue (t + 1)).nextChannel = (run.queue t).nextChannel + asked.length := by
  rcases asked with _ | ⟨⟨kind, payload⟩, _ | _⟩
  · exact h
  · rcases h with ⟨w, hw, hwallet⟩
    rw [queue, hwallet, ← hw]
    rcases Desk.submit_cases { queue := w.core.queue, desktop := w.host.desktop } kind payload with
      ⟨_, _, _, _, hdoes, _⟩ | ⟨_, _, _, hdoes⟩
    · exact congrArg RequestQueue.nextChannel hdoes.queue
    · exact congrArg RequestQueue.nextChannel hdoes.queue
  · exact h.elim

theorem HasPut.lt (h : run.HasPut n t asked) : n < t := by
  induction h with
  | called => exact Nat.lt_succ_self n
  | goneOn _ _ _ ih => exact Nat.lt_succ_of_lt ih
  | rested _ _ ih => exact Nat.lt_succ_of_lt ih

/-- How many questions a call has put is settled. -/
theorem HasPut.length_unique (h : run.HasPut n t asked) (k : run.HasPut n t more) :
    asked.length = more.length := by
  have hcount {t : Nat} {asked more : List (RequestKind × Json)} (h : run.PutsAt t asked)
      (k : run.PutsAt t more) : asked.length = more.length :=
    Nat.add_left_cancel (h.count.symm.trans k.count)
  -- Stage by stage the two are made alike: a stage goes on with the call or it does not.
  induction h generalizing more with
  | called h =>
      cases k with
      | called k => exact hcount h k
      | goneOn k => exact absurd k.lt (Nat.lt_irrefl n)
      | rested k => exact absurd k.lt (Nat.lt_irrefl n)
  | goneOn h hgoes hputs ih =>
      cases k with
      | called => exact absurd h.lt (Nat.lt_irrefl n)
      | goneOn k _ hputs' => rw [List.length_append, List.length_append, ih k, hcount hputs hputs']
      | rested k hrests => exact absurd hgoes (hrests _)
  | rested h hrests ih =>
      cases k with
      | called => exact absurd h.lt (Nat.lt_irrefl n)
      | goneOn k hgoes => exact absurd hgoes (hrests _)
      | rested k => exact ih k

/-! ## Answers -/

/-- The user accepts the question on a channel and sends data with it. -/
def AcceptedWith (run : Run) (k c : Nat) (data : Json) : Prop :=
  ∃ request, run.Decides k c request ∧ request.status = .accept ∧ request.data.getD .null = data

/-- A call waits for the answer to the question that it has put in a stage. Whenever it has gone on
since then, there was no answer. -/
structure Pends (run : Run) (n j t : Nat) (errand : Errand) : Prop where
  waits : ∃ on id, run.Waits t n on ∧ on.asked? = some (id, run.channel j, errand)
  unanswered : ∀ u on, j < u → u < t → run.GoesOn u n on →
    (run.queue u).answer? (run.channel j) = none

/-- A window fails to come in a stage, although the question for it has been answered. -/
def FailsLate (run : Run) (t n : Nat) : Prop :=
  ∃ on id c errand failure answer, run.GoesOn t n on ∧ on.asked? = some (id, c, errand) ∧
    on.failure? (run.wallet t) = some failure ∧ (run.queue t).answer? c = some answer

/-- The question that was put in a stage `j` is not accepted, and a call is told so in a stage
`u`. -/
inductive Unaccepted (run : Run) (j u : Nat) : Error → Prop
  /-- It has no answer, and there is no window to show it in. -/
  | unseen {cause : Error} (hnone : (run.queue u).answer? (run.channel j) = none)
      (h : (run.wallet u).host.desktop.opened = .error cause) :
      Unaccepted run j u (Desk.openingFailure cause)
  /-- It has left the queue with a failure. -/
  | answered {k : Nat} {e : Error} (hku : k < u)
      (h : run.Leaves k (run.channel j) (some (.error e))) : Unaccepted run j u e

theorem not_failsLate (h : (run.wallet t).host.desktop.obstacles = (false, false)) (n : Nat) :
    ¬ run.FailsLate t n := by
  rintro ⟨on, _, _, _, failure, _, _, _, hfails, _⟩
  have hopened : (run.wallet t).host.desktop.opened =
      .ok (run.wallet t).host.desktop.nextWindow := by
    rcases Prod.mk.inj h with ⟨hrefuses, hunreachable⟩
    rw [Desktop.opened_eq, hrefuses, hunreachable]
    rfl
  cases on with
  | window =>
      rw [Waiting.failure?, hopened] at hfails
      cases hfails
  | _ => cases hfails

/-! ## Stages that run no part of the call -/

/-- A stage that runs no part of the call leaves the registries, the slots and the wait alone. -/
theorem rests (hquiet : (run.move t).Quiet n) (hrests : ∀ on, ¬ run.GoesOn t n on) :
    Wallet.Touches [] [] (run.wallet t) (run.wallet (t + 1)) ∧
      (run.wallet (t + 1)).core.approvals = (run.wallet t).core.approvals ∧
      (run.wallet (t + 1)).core.connections = (run.wallet t).core.connections ∧
      ∀ on, run.Waits t n on → run.Waits (t + 1) n on := by
  have hwaits (hkept : run.move t ≠ .cancel n) (hother : run.move t ≠ .goOn n) (on : Waiting)
      (h : run.Waits t n on) : run.Waits (t + 1) n on := waits_stays h hkept hother
  generalize hmove : run.move t = move at hquiet hwaits
  cases hquiet with
  | goOn =>
      -- The call is to go on, but what it waits for has not come.
      have hsame := system_unready hmove hrests
      rw [wallet, wallet, hsame]
      refine ⟨.of_apart ⟨rfl, rfl, rfl, rfl, rfl⟩, rfl, rfl, fun on h => ?_⟩
      rw [Waits, hsame]
      exact h
  | decision request =>
      have happart : (run.wallet t).Apart (run.wallet (t + 1)) := by
        rw [wallet_call hmove]
        have hstate : (Wallet.perform (.finalize request) (run.wallet t)).2 =
            (Wallet.onDesk (Desk.finalize request) (run.wallet t)).2 :=
          Op.bind_pure_state _ _ _
        rw [hstate]
        exact ⟨rfl, rfl, rfl, rfl, rfl⟩
      exact ⟨.of_apart happart, happart.approvals, happart.connections,
        hwaits (by rintro ⟨⟩) (by rintro ⟨⟩)⟩
  | @host action hwrites =>
      have hwallet : run.wallet (t + 1) = (Wallet.undergo action (run.wallet t)).2 := by
        rw [wallet, system, hmove]
        rfl
      have hout := Wallet.undergo_outside action (run.wallet t)
      rw [hwallet]
      exact ⟨Wallet.undergo_touches hwrites _, hout.approvals, hout.connections,
        hwaits (by rintro ⟨⟩) (by rintro ⟨⟩)⟩
  | @cancel m hm =>
      have happart : (run.wallet t).Apart (run.wallet (t + 1)) := by
        have hwallet : run.wallet (t + 1) = ((run.system t).cancel m).2.wallet := by
          rw [wallet, system, hmove]
          rfl
        rw [hwallet]
        exact System.cancel_apart m _
      exact ⟨.of_apart happart, happart.approvals, happart.connections,
        hwaits (fun h => hm (Move.cancel.inj h)) (by rintro ⟨⟩)⟩

theorem Pends.rests (h : run.Pends n j t errand) (hquiet : (run.move t).Quiet n)
    (hrests : ∀ on, ¬ run.GoesOn t n on) : run.Pends n j (t + 1) errand where
  waits := by
    rcases h.waits with ⟨on, id, hwaits, hasked⟩
    exact ⟨on, id, (run.rests hquiet hrests).2.2.2 on hwaits, hasked⟩
  unanswered u on hju hut hgoes := by
    rcases Nat.lt_succ_iff_lt_or_eq.1 hut with hlt | rfl
    · exact h.unanswered u on hju hlt hgoes
    · exact absurd hgoes (hrests on)

/-! ## Stages that run a part of the call -/

/-- A stage runs a part of a call that comes to this. -/
structure Leads (run : Run) (t n : Nat) (part : Except Error Progress × Wallet) : Prop where
  wallet : run.wallet (t + 1) = part.2
  waits : ∀ on, part.1 = .ok (.waiting on) → run.Waits (t + 1) n on
  ends : ∀ outcome, Progress.outcome? part.1 = some outcome → run.Ends t n outcome

theorem leads_call {call : Call} (hmove : run.move n = .call call) :
    run.Leads n n (Wallet.perform call (run.wallet n)) where
  wallet := wallet_call hmove
  waits _ h := waits_of_call hmove (Prod.ext h rfl)
  ends _ h := ends_of_call hmove h

theorem leads_goesOn (hgoes : run.GoesOn t n on) :
    run.Leads t n (Wallet.resume on (run.wallet t)) where
  wallet := wallet_goOn hgoes
  waits _ h := waits_of_goesOn hgoes (Prod.ext h rfl)
  ends _ h := ends_of_goesOn hgoes h

/-- A part that puts a question of a connect request leaves it waiting, or it fails for want of a
window. -/
theorem Leads.asks {kind : RequestKind} {payload : Json} (errand : Errand)
    (h : run.Leads j n ((Wallet.ask kind payload errand).mapError .ofConnect w))
    (hw : w.core.queue.nextChannel = (run.queue j).nextChannel) :
    run.PutsAt j [(kind, payload)] ∧ w.Apart (run.wallet (j + 1)) ∧
      (run.Pends n j (j + 1) errand ∨ ∃ cause, w.host.desktop.opened = .error cause ∧
        run.Ends j n (.error (.ofConnect (Desk.openingFailure cause)))) := by
  have hwallet : run.wallet (j + 1) = (Wallet.onDesk (Desk.submit kind payload) w).2 := by
    rw [h.wallet, Op.mapError_state, Wallet.ask_state]
  refine ⟨⟨w, hw, hwallet⟩, ?_, ?_⟩
  · rw [hwallet]
    exact ⟨rfl, rfl, rfl, rfl, rfl⟩
  -- It waits for the answer or has failed to get a window, and asking changes nothing else.
  rcases Wallet.ask_cases kind payload errand w with
    ⟨on, v, _, _, hask, hasked, _⟩ | ⟨cause, v, _, hopens, hask, _⟩
  · have hrun := Op.mapError_of_ok hask .ofConnect
    refine .inl ⟨⟨on, w.core.queue.nonce, h.waits on (congrArg Prod.fst hrun), ?_⟩, ?_⟩
    · rw [hasked, hw]
      rfl
    · exact fun u on hju huj _ => absurd hju (Nat.not_lt_of_le (Nat.le_of_lt_succ huj))
  · have hrun := Op.mapError_of_error hask .ofConnect
    exact .inr ⟨cause, hopens, h.ends _ (congrArg (fun part => Progress.outcome? part.1) hrun)⟩

/-- Whoever is told of a pending question is told that its window failed, or nothing, or the
answer. -/
theorem goesOn_pending {id : UInt64} {channel : Nat} (hgoes : run.GoesOn t n on)
    (hasked : on.asked? = some (id, channel, errand)) (hprompt : ¬ run.FailsLate t n) :
    (∃ cause, (run.queue t).answer? channel = none ∧
      (run.wallet t).host.desktop.opened = .error cause ∧ run.Leads t n
        (.error (errand.wrap (Desk.openingFailure cause)), on.settled (run.wallet t))) ∨
    on.failure? (run.wallet t) = none ∧
      (((run.queue t).answer? channel = none ∧ run.Leads t n
        (.ok (.waiting (.answer id channel errand)), on.settled (run.wallet t))) ∨
      ∃ outcome, (run.queue t).answer? channel = some outcome ∧ run.Leads t n
        ((Wallet.fulfil id errand outcome).mapError errand.wrap (on.settled (run.wallet t)))) := by
  have hleads := leads_goesOn hgoes
  rw [Wallet.resume, Waiting.wrap_of_asked hasked] at hleads
  rcases Wallet.goOn_settled hasked (run.wallet t) with
    ⟨failure, hfails, hrun⟩ | ⟨hopens, hrun, hanswers⟩
  · rw [Op.mapError_of_error hrun] at hleads
    -- An answer that was there would have been lost.
    have hnone : (run.queue t).answer? channel = none := by
      rcases hanswer : (run.queue t).answer? channel with _ | answer
      · rfl
      · exact absurd ⟨on, id, channel, errand, failure, answer, hgoes, hasked, hfails, hanswer⟩
          hprompt
    refine .inl ?_
    -- Nothing fails but the wait for a window.
    cases on with
    | window =>
        rw [Waiting.failure?] at hfails
        rcases hopen : (run.wallet t).host.desktop.opened with cause | window
        · rw [hopen] at hfails
          rcases Option.some.inj hfails
          exact ⟨cause, hnone, rfl, hleads⟩
        · rw [hopen] at hfails
          cases hfails
    | _ => cases hfails
  · refine .inr ⟨hopens, ?_⟩
    have hsame := Wallet.answer?_congr hanswers channel
    rcases hanswer : (run.queue t).answer? channel with _ | outcome
    · rw [Wallet.awaitAnswer_none (hsame.trans hanswer)] at hrun
      rw [Op.mapError_of_ok hrun] at hleads
      exact .inl ⟨rfl, hleads⟩
    · rw [Wallet.awaitAnswer_some (hsame.trans hanswer)] at hrun
      rw [Op.mapError, hrun] at hleads
      exact .inr ⟨outcome, rfl, hleads⟩

/-- Only who accepts sends data. -/
theorem acceptedWith_of_left {k channel : Nat} {data : Json}
    (h : run.Leaves k channel (some (.ok data))) : run.AcceptedWith k channel data := by
  rcases h.accepted with ⟨request, _, hdecides, haccept, hdata, _, _⟩
  exact ⟨request, hdecides, haccept, hdata⟩

/-- A call that has gone on without an answer waits on. -/
theorem Pends.next {id : UInt64} (h : run.Pends n j t errand)
    (hnone : (run.queue t).answer? (run.channel j) = none)
    (hwaits : run.Waits (t + 1) n (.answer id (run.channel j) errand)) :
    run.Pends n j (t + 1) errand where
  waits := ⟨_, id, hwaits, rfl⟩
  unanswered u on hju hut hgoes := by
    rcases Nat.lt_succ_iff_lt_or_eq.1 hut with hlt | rfl
    · exact h.unanswered u on hju hlt hgoes
    · exact hnone

theorem Leads.fails {x : Op Wallet Progress} {v : Wallet} {e : Error}
    (h : run.Leads t n (x.mapError .ofConnect w)) (hx : x w = (.error e, v)) :
    run.wallet (t + 1) = v ∧ run.Ends t n (.error (.ofConnect e)) := by
  rw [Op.mapError_of_error hx] at h
  exact ⟨h.wallet, h.ends _ rfl⟩

theorem Leads.answers {x : Op Wallet Progress} {v : Wallet} {answer : Answer}
    (h : run.Leads t n (x.mapError .ofConnect w)) (hx : x w = (.ok (.finished answer), v)) :
    run.wallet (t + 1) = v ∧ run.Ends t n (.ok answer) := by
  rw [Op.mapError_of_ok hx] at h
  exact ⟨h.wallet, h.ends _ rfl⟩

/-- A stage that comes to no more than the window puts no question and touches nothing. -/
theorem settled_stage (h : run.wallet (t + 1) = on.settled (run.wallet t)) :
    run.PutsAt t [] ∧ (run.wallet t).Apart (run.wallet (t + 1)) := by
  rw [PutsAt, queue, queue, h]
  exact ⟨(Wallet.settled_quiet on _).2, (Wallet.settled_apart on _).1⟩

/-- A call goes on with the question of a connect request. Unless the question was accepted, nothing
is touched and no question is put: the call is told so, or it waits on. -/
theorem Pends.goesOn {kind : RequestKind} {payload : Json} (h : run.Pends n j t errand)
    (hquestion : errand.question? = some (kind, payload)) (hgoes : run.GoesOn t n on)
    (hprompt : ¬ run.FailsLate t n) :
    ((run.PutsAt t [] ∧ (run.wallet t).Apart (run.wallet (t + 1))) ∧
      ((∃ e, run.Ends t n (.error (.ofConnect e)) ∧ run.Unaccepted j t e) ∨
        run.Pends n j (t + 1) errand)) ∨
    ∃ id k data, k < t ∧ run.AcceptedWith k (run.channel j) data ∧ run.Leads t n
      ((Wallet.fulfil id errand (.ok data)).mapError .ofConnect (on.settled (run.wallet t))) := by
  rcases h.waits with ⟨_, id, hwaits, hasked⟩
  rcases Option.some.inj (hwaits.symm.trans hgoes.waits)
  have hwrap := errand.wrap_of_question hquestion
  -- The window fails, the answer is not there yet, or it is.
  rcases goesOn_pending hgoes hasked hprompt with
    ⟨cause, hnone, hopen, hleads⟩ | ⟨_, ⟨hnone, hleads⟩ | ⟨outcome, hanswer, hleads⟩⟩
  · rw [hwrap] at hleads
    exact .inl ⟨settled_stage hleads.wallet, .inl ⟨_, hleads.ends _ rfl, .unseen hnone hopen⟩⟩
  · exact .inl ⟨settled_stage hleads.wallet, .inr (h.next hnone (hleads.waits _ rfl))⟩
  rw [hwrap] at hleads
  rcases left_of_posed (posed hwaits hasked hquestion) hanswer with ⟨k, hkt, hleaves, _⟩
  rcases outcome with e | data
  · rcases hleads.fails (Wallet.fulfil_refused hquestion id e _) with ⟨hwallet, hends⟩
    exact .inl ⟨settled_stage hwallet, .inl ⟨e, hends, .answered hkt hleaves⟩⟩
  · exact .inr ⟨id, k, data, hkt, acceptedWith_of_left hleaves, hleads⟩

end Run

end WalletTrust

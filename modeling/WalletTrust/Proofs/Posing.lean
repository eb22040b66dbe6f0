import WalletTrust.Proofs.Answers

/-!
# Questions of Connect Requests

What the user has agreed to where a connect request goes on with an answer.

Most calls put their question at once, so what was asked is read off the call. A connect request
puts its questions in the middle of a part, after it has loaded the registries or approved the
origin, and the second question comes after the first. All that is left of a question then is a
channel and an errand. So it is carried along with the wait: in the queue of whoever waits is the
question that belongs to the errand, from the part that has put it until it leaves.

An errand says what its question was, and a question that leaves with data was accepted. Together
this leads from an answer back to an acceptance of just that question.

The question is found in the queue by its channel and not by its number. Numbers begin anew after
enough questions, channels never do, so what is in the queue under a channel is the question that
took the channel.

## Main definitions

* `Errand.question?`: The question that belongs to an errand of a connect request.
* `RequestQueue.Poses`: It is in the queue.
* `Run.Accepts`: The user accepts a question and sends data with it.

## Theorems

* `Wallet.perform_posing`, `Wallet.resume_posing`: A wait comes with its question.
* `Run.posed`: The question of a wait was put.
* `Run.accepted_of_answer`: Data is the answer to an accepted question only.
* `Run.left_of_posed`: A question that was answered has left the queue with the answer, and it left
  as it was put.
-/

namespace WalletTrust

open Op (Within Yields)

/-- The question that belongs to an errand of a connect request. -/
def Errand.question? : Errand → Option (RequestKind × Json)
  | .approval origin _ => some (.approve, Wallet.originPayload origin)
  | .identityChoice origin => some (.connectIdentity, Wallet.originPayload origin)
  | _ => none

/-- Only connect requests put their questions in the middle of a part. -/
theorem Errand.connects_of_question {errand : Errand} {p : RequestKind × Json}
    (h : errand.question? = some p) : errand.Connects := by
  cases errand with
  | approval => trivial
  | identityChoice => trivial
  | _ => cases h

/-- The question that a connect request waits for is in the queue. -/
def RequestQueue.Poses (q : RequestQueue) (on : Waiting) : Prop :=
  ∀ id c errand kind payload, on.asked? = some (id, c, errand) →
    errand.question? = some (kind, payload) →
    ∃ e, q.waiter? c = some e ∧ e.kind = kind ∧ e.payload = payload

theorem RequestQueue.poses_unasked {q : RequestQueue} {on : Waiting} (h : on.asked? = none) :
    q.Poses on := by
  intro _ _ _ _ _ hasked
  cases h.symm.trans hasked

namespace Wallet

variable {α : Type} {w v : Wallet} {x : Op Wallet Progress}

/-- Whoever waits after an operation waits for a question that is in the queue. -/
def Posing (x : Op Wallet Progress) : Prop :=
  ∀ w v on, w.core.queue.Sound → x w = (.ok (.waiting on), v) → v.core.queue.Poses on

namespace Posing

/-- Who puts a question last has put it in whatever queue there is by then. -/
theorem bind {y : Op Wallet α} {f : α → Op Wallet Progress}
    (hy : Within (Routine fun _ _ => True) y) (hf : ∀ a, Posing (f a)) : Posing (y >>= f) := by
  intro w v on hsound h
  rcases Op.bind_cases h with ⟨a, t, hrun, hrest⟩
  have hroutine := hy w
  rw [hrun] at hroutine
  exact hf a t v on (hroutine.queue.sound hsound) hrest

theorem ite {c : Prop} [Decidable c] {y : Op Wallet Progress} (hx : Posing x) (hy : Posing y) :
    Posing (if c then x else y) := by
  split
  · exact hx
  · exact hy

theorem of_over (h : Yields Progress.Over x) : Posing x :=
  fun w v _ _ hrun => (h w _ v hrun).elim

theorem unasked {on : Waiting} (h : on.asked? = none) : Posing (pure (.waiting on)) := by
  intro w v on' _ hrun
  rcases Progress.waiting.inj (Except.ok.inj (congrArg Prod.fst hrun))
  exact RequestQueue.poses_unasked h

theorem mapError (h : Posing x) (f : Error → Error) : Posing (x.mapError f) :=
  fun w v on hsound hrun => h w v on hsound (Op.mapError_ok hrun)

end Posing

/-! ## Parts that put a question -/

theorem ask_posing {kind : RequestKind} {payload : Json} {errand : Errand}
    (h : ∀ p, errand.question? = some p → p = (kind, payload)) :
    Posing (ask kind payload errand) := by
  intro w v on hsound hrun id c errand' kind' payload' hasked hquestion
  rcases ask_cases kind payload errand w with
    ⟨on', v', popup, listener, hask, hasked', hqueue, _⟩ | ⟨_, _, _, _, hask, _⟩
  · rcases Prod.mk.inj (hask.symm.trans hrun) with ⟨hon, rfl⟩
    rcases Progress.waiting.inj (Except.ok.inj hon)
    rcases Prod.mk.inj (Option.some.inj (hasked'.symm.trans hasked)) with ⟨_, hrest⟩
    rcases Prod.mk.inj hrest with ⟨rfl, rfl⟩
    rcases Prod.mk.inj (h _ hquestion) with ⟨rfl, rfl⟩
    -- The window that is held beside the queue has nothing to do with what is in it.
    have hwaiter : v'.core.queue.waiter? w.core.queue.nextChannel =
        (w.core.queue.enqueue kind' payload').waiter? w.core.queue.nextChannel := by
      rw [hqueue]
      rfl
    exact ⟨_, hwaiter.trans (RequestQueue.enqueue_new hsound kind' payload'), rfl, rfl⟩
  · cases congrArg Prod.fst (hask.symm.trans hrun)

/-- The question for an identity names the origin. -/
theorem chooseIdentity_posing (origin : String) (changeIdentity : Bool) :
    Posing (chooseIdentity origin changeIdentity) := by
  unfold chooseIdentity
  refine .bind .get fun w => ?_
  split
  · exact .of_over (.pure trivial)
  · exact ask_posing fun p hp => (Option.some.inj hp).symm

/-- So does the question for an approval. -/
theorem seekApproval_posing (origin : String) (changeIdentity : Bool) :
    Posing (seekApproval origin changeIdentity) := by
  unfold seekApproval
  refine .bind .get fun w => ?_
  refine .ite ?_ ?_
  · refine .bind (approve_routine _) fun _ => ?_
    exact chooseIdentity_posing _ _
  · exact ask_posing fun p hp => (Option.some.inj hp).symm

theorem awaitUnlock_posing (window : Nat) (origin : String) (changeIdentity : Bool) :
    Posing (awaitUnlock window origin changeIdentity) := by
  have hclose : Within (Routine fun _ _ => True) (onDesk (Desk.closeWindow (some window))) :=
    onDesk_routine (Desk.closeWindow_silent _) (Desk.closeWindow_ordinary _)
  refine .bind .get fun w => ?_
  refine .ite ?_ ?_
  · refine .bind loadRegistries_routine fun _ => ?_
    refine .bind (.ignore hclose) fun _ => ?_
    refine .bind loadRegistries_routine fun _ => ?_
    exact seekApproval_posing _ _
  · exact .unasked rfl

theorem openUnlockWindow_posing (origin : String) (changeIdentity : Bool) :
    Posing (openUnlockWindow origin changeIdentity) := by
  unfold openUnlockWindow
  refine .bind (onDesktop_routine Desktop.openWindow_silent) fun _ => ?_
  exact awaitUnlock_posing _ _ _

theorem connect_posing (origin : String) (changeIdentity : Bool) :
    Posing (connect origin changeIdentity) := by
  unfold connect
  refine .mapError ?_ _
  refine .ite ?_ ?_
  · exact .of_over (.fail _)
  · refine .bind .get fun w => ?_
    refine .ite ?_ ?_
    · refine .bind loadRegistries_routine fun _ => ?_
      exact seekApproval_posing _ _
    · refine .bind (onDesktop_routine Desktop.requestWindow_silent) fun ticket => ?_
      cases ticket with
      | some ticket => exact .unasked rfl
      | none => exact openUnlockWindow_posing _ _

theorem fulfil_posing (id : UInt64) (errand : Errand) (outcome : Except Error Json) :
    Posing (fulfil id errand outcome) := by
  -- Only an approval that is answered puts another question. All else is over.
  by_cases h : errand.Connects
  · cases errand with
    | approval origin changeIdentity =>
        refine .bind (.ofExcept _) fun _ => ?_
        refine .bind (.ofExcept _) fun _ => ?_
        refine .bind (approve_routine _) fun _ => ?_
        exact chooseIdentity_posing _ _
    | identityChoice origin => exact .of_over (choiceAnswered_over origin outcome)
    | _ => exact h.elim
  · exact .of_over (fulfil_over h id outcome)

/-- A part of a flow leaves it waiting for the same question or for one that is in the queue. -/
theorem resume_posing {on next : Waiting} (hsound : w.core.queue.Sound)
    (h : resume on w = (.ok (.waiting next), v)) :
    next.asked? = on.asked? ∨ v.core.queue.Poses next := by
  have hgo := Op.mapError_ok h
  -- It waits for the question of before, or has got its answer and poses the next.
  rcases hasked : on.asked? with _ | ⟨id, channel, errand⟩
  · cases on with
    | unlockWindow => exact .inr (openUnlockWindow_posing _ _ w v next hsound hgo)
    | unlock => exact .inr (awaitUnlock_posing _ _ _ w v next hsound hgo)
    | unlockSignal =>
        rw [unlockSignal_waits w _ v hgo next rfl]
        exact .inl rfl
    | lastWord => cases congrArg Prod.fst hgo
    | _ => cases hasked
  · rcases hfails : on.failure? w with _ | failure
    · rcases goOn_asked (fun _ _ => True) hasked hfails with ⟨u, hrun, _, hroutine⟩
      rw [hrun] at hgo
      rcases hanswer : u.core.queue.answer? channel with _ | outcome
      · rw [awaitAnswer_none hanswer] at hgo
        rcases Progress.waiting.inj (Except.ok.inj (congrArg Prod.fst hgo))
        exact .inl rfl
      · rw [awaitAnswer_some hanswer] at hgo
        exact .inr (fulfil_posing id errand outcome u v next (hroutine.queue.sound hsound) hgo)
    · -- A window that fails is the end of the flow.
      rcases goOn_refused (fun _ _ => True) hfails with ⟨_, _, _, _, _, herror, _, _⟩
      rw [hgo] at herror
      cases herror

/-- A call that waits for a question of a connect request has put it. -/
theorem perform_posing (call : Call) : Posing (perform call) := by
  intro w v on hsound hrun
  rcases perform_waiting hrun with hasks | ⟨origin, changeIdentity, rfl, _⟩ | ⟨_, rfl⟩
  · rcases Option.isSome_iff_exists.1 hasks with ⟨q, hq⟩
    rcases perform_asks hq with ⟨on', v', _, _, hask, hasked, _⟩ | ⟨_, _, hask, _⟩
    · rcases Progress.waiting.inj (Except.ok.inj (congrArg Prod.fst (hask.symm.trans hrun)))
      -- The errands of other calls are none of a connect request.
      intro id c errand kind payload hasked' hquestion
      rcases Prod.mk.inj (Option.some.inj (hasked.symm.trans hasked')) with ⟨_, hrest⟩
      rcases Prod.mk.inj hrest with ⟨_, rfl⟩
      exact absurd (Errand.connects_of_question hquestion) (question_connects hq)
    · cases congrArg Prod.fst (hask.symm.trans hrun)
  · exact connect_posing origin changeIdentity w v on hsound hrun
  · exact RequestQueue.poses_unasked rfl

end Wallet

/-! ## Runs -/

namespace Run

variable {run : Run} {t n c : Nat} {kind : RequestKind} {payload data : Json}

/-- A question was put on a channel by then. -/
def PosedOn (run : Run) (t c : Nat) (kind : RequestKind) (payload : Json) : Prop :=
  ∃ j ≤ t, ∃ e, (run.queue j).waiter? c = some e ∧ e.kind = kind ∧ e.payload = payload

/-- The user accepts a question that was shown with a payload, and data comes with the
acceptance. -/
def Accepts (run : Run) (k : Nat) (kind : RequestKind) (payload data : Json) : Prop :=
  ∃ request entry, run.move k = .call (.finalize request) ∧
    run.outcome k = some (.ok (.flag true)) ∧ request.status = .accept ∧
    (run.queue k).find? request.id = some entry ∧ entry.kind = kind ∧ entry.payload = payload ∧
    request.data.getD .null = data

/-- A question that was put has been put at all later times. -/
theorem PosedOn.mono {u : Nat} (h : run.PosedOn t c kind payload) (htu : t ≤ u) :
    run.PosedOn u c kind payload := by
  rcases h with ⟨j, hjt, hposed⟩
  exact ⟨j, Nat.le_trans hjt htu, hposed⟩

/-- The question that a connect request waits for was put. -/
theorem posed {on : Waiting} {id : UInt64} {errand : Errand} (h : run.Waits t n on)
    (hasked : on.asked? = some (id, c, errand))
    (hquestion : errand.question? = some (kind, payload)) : run.PosedOn t c kind payload := by
  -- Looking back from a wait for the answer there is the stage in which the question was posed.
  induction t generalizing on with
  | zero => cases h
  | succ t ih =>
      have hput {v : Wallet} (hwallet : run.wallet (t + 1) = v) (hposes : v.core.queue.Poses on) :
          run.PosedOn (t + 1) c kind payload := by
        rcases hposes id c errand kind payload hasked hquestion with ⟨e, hwaiter, hshown⟩
        refine ⟨t + 1, Nat.le_refl _, e, ?_, hshown⟩
        rw [queue, hwallet]
        exact hwaiter
      rcases waits_stage h with hbefore | ⟨call, hmove, rfl, hpart⟩ | ⟨old, hgoes, hpart⟩
      · exact (ih hbefore hasked).mono (Nat.le_succ t)
      · exact hput (wallet_call hmove) (Wallet.perform_posing call _ _ on (run.queue_sound n)
          (Prod.ext hpart rfl))
      · rcases Wallet.resume_posing (run.queue_sound t) (Prod.ext hpart rfl) with hsame | hposes
        · exact (ih hgoes.waits (hsame.symm.trans hasked)).mono (Nat.le_succ t)
        · exact hput (wallet_goOn hgoes) hposes

/-- A question that was answered has left the queue with the answer, and it left as it was put. -/
theorem left_of_posed {answer : Except Error Json} (hposed : run.PosedOn t c kind payload)
    (h : (run.queue t).answer? c = some answer) : ∃ k < t, run.Leaves k c (some answer) ∧
      ∀ entry, (run.queue k).waiter? c = some entry →
        entry.kind = kind ∧ entry.payload = payload := by
  rcases hposed with ⟨j, hjt, e, hwaiter, rfl, rfl⟩
  have hin : run.InQueue j c := Option.isSome_iff_exists.2 ⟨e, hwaiter⟩
  rcases answer_origin (lt_of_inQueue hin) (answer_of_inQueue hin) hjt h with
    ⟨k, hjk, hkt, _, hleaves⟩
  refine ⟨k, hkt, hleaves, fun entry hentry => ?_⟩
  rcases waiter_stays hwaiter hjk hentry
  exact ⟨rfl, rfl⟩

/-- Data is the answer to an accepted question only. -/
theorem accepted_of_answer (hposed : run.PosedOn t c kind payload)
    (h : (run.queue t).answer? c = some (.ok data)) : ∃ k < t, run.Accepts k kind payload data := by
  -- A question leaves a channel once, and data is left on it only by whoever accepts.
  rcases left_of_posed hposed h with ⟨k, hkt, hleaves, hshown⟩
  rcases hleaves.accepted with ⟨request, entry, hdecides, haccept, hdata, hfind, hentry⟩
  rcases hshown entry hentry with ⟨hkind, hpayload⟩
  exact ⟨k, hkt, request, entry, hdecides.move, hdecides.answer, haccept, hfind, hkind, hpayload,
    hdata⟩

end Run

end WalletTrust

import WalletTrust.Proofs.Calls
import WalletTrust.Wallet.System

/-!
# Runs of a Wallet

A wallet at work, stage by stage.

A run is any order of calls, of going on with calls that wait, of what comes from outside, and of
giving calls up. A call is numbered by the stage in which it is made, so no two calls share a
number, and what a call says to the user is read off the state before that stage.

A stage runs one part of one call, or changes the host. What the parts of calls do is in `Calls` and
`Flows`; here they become facts about stages, and by induction facts about all stages.

Calls that wait are kept under their numbers, and a stage that names a number of nobody does
nothing. So does one that names a call that is not ready: a wait for an answer is over when there is
an answer, and a wait for the signal when the signal is set. Nothing is assumed of the order, so a
call may be ready and left waiting for as long as the run likes.

That a host may change in any way between two stages is part of a run as well. Theorems that need a
host that keeps to something, such as slots that nobody else writes to, say so of the run.

## Main definitions

* `Move`, `Run`: What can happen, and a run.
* `Run.GoesOn`, `Run.Ends`: A stage goes on with a call, and a call ends in a stage.
* `Run.Asks`: A call puts a question.
* `Run.Rooted`: What a call may wait for, from what it was when it was made.

## Theorems

* `Run.rooted`: Whoever waits waits for what its call has begun.
* `Run.queue_stage`, `Run.uses_stage`, `Run.keeps_stage`: What a stage does to the queue, how it
  uses identities, and whom it leaves entitled.
* `Run.queue_sound`, `Run.guarded`: The queue stays in order and the connections stay guarded.
* `Run.stage_cases`: A stage runs the first part of a call, or a later part of one, or none.
* `Run.waits_stage`, `Run.waits_stays`: How a call comes to wait, and how it goes on waiting.
* `Run.system_unready`: A stage that names nobody who is ready does nothing.
* `Run.nextChannel_mono`: Channels are given out and not taken back.
-/

namespace WalletTrust

/-- What can happen to a wallet. -/
inductive Move where
  | call (call : Call)
  /-- A call goes on, if its wait is over. -/
  | goOn (n : Nat)
  | host (action : HostAction)
  | cancel (n : Nat)

/-- What becomes of a call after a part of it, if it is over then. -/
def Progress.outcome? : Except Error Progress → Option Outcome
  | .ok (.waiting _) => none
  | .ok (.finished answer) => some (.ok answer)
  | .error e => some (.error e)

theorem Progress.finished_of_outcome {part : Except Error Progress} {answer : Answer}
    (h : outcome? part = some (.ok answer)) : part = .ok (.finished answer) := by
  rcases part with e | progress
  · cases h
  · cases progress with
    | waiting on => cases h
    | finished other => cases h; rfl

/-! ## Calls that wait -/

namespace System

variable {n m : Nat} {on : Waiting} {s : System} {x : Op Wallet Progress}

theorem find_put (n : Nat) (on : Waiting) (waiting : List (Nat × Waiting)) (m : Nat) :
    (put n on waiting).find? (fun t => t.1 = m) =
      if n = m then some (n, on) else waiting.find? fun t => t.1 = m := by
  -- The list is kept in order, so the new wait comes first, takes a place, or goes further down.
  induction waiting with
  | nil =>
      rw [put, List.find?_singleton]
      by_cases h : n = m
      · simp only [h, decide_true, if_true]
      · simp only [h, decide_false, Bool.false_eq_true, if_false, List.find?_nil]
  | cons head rest ih =>
      rw [put]
      split
      · by_cases h : n = m
        · simp only [List.find?_cons, h, decide_true, if_true]
        · simp only [List.find?_cons, h, decide_false, if_false]
      · split
        · next same =>
          by_cases h : n = m
          · simp only [List.find?_cons, h, decide_true, if_true]
          · have hhead : decide (head.1 = m) = false := decide_eq_false (same ▸ h)
            simp only [List.find?_cons, h, decide_false, if_false, hhead]
        · next differs =>
          by_cases h : n = m
          · have hhead : decide (head.1 = m) = false :=
              decide_eq_false fun hsame => differs (h.trans hsame.symm)
            rw [List.find?_cons, hhead, ih, if_pos h, if_pos h]
          · rw [List.find?_cons, List.find?_cons, ih, if_neg h, if_neg h]

/-- Who was put among the calls that wait is found there, and the others are as before. -/
theorem waiting?_put (wallet : Wallet) (n : Nat) (on : Waiting) (m : Nat) :
    waiting? { wallet, waiting := put n on s.waiting } m =
      if n = m then some on else s.waiting? m := by
  rw [waiting?, find_put]
  split
  · rfl
  · rfl

/-- Who was forgotten is not found any more, and the others are as before. -/
theorem find_forget (n : Nat) (waiting : List (Nat × Waiting)) (m : Nat) :
    (waiting.filter fun t => t.1 ≠ n).find? (fun t => t.1 = m) =
      if n = m then none else waiting.find? fun t => t.1 = m := by
  induction waiting with
  | nil => rw [List.filter_nil, List.find?_nil, ite_self]
  | cons head rest ih =>
      -- An entry of `n` goes, and is looked for under `n` only.
      by_cases hhead : head.1 = n
      · simp only [List.filter_cons, hhead, ne_eq, not_true_eq_false, decide_false,
          Bool.false_eq_true, if_false, ih]
        by_cases h : n = m
        · rw [if_pos h, if_pos h]
        · rw [if_neg h, if_neg h, List.find?_cons, decide_eq_false (hhead ▸ h)]
      · simp only [List.filter_cons, hhead, ne_eq, not_false_eq_true, decide_true, if_true,
          List.find?_cons, ih]
        by_cases h : n = m
        · simp only [if_pos h, decide_eq_false (h ▸ hhead)]
        · rw [if_neg h, if_neg h]

/-- And so for the call that has been forgotten. -/
theorem waiting?_forget (n : Nat) (s : System) (m : Nat) :
    (forget n s).waiting? m = if n = m then none else s.waiting? m := by
  rw [waiting?, forget, find_forget]
  split
  · rfl
  · rfl

/-- What a part of a call comes to is read off the wallet it begins with. -/
theorem run_congr {y : Op Wallet Progress} (h : x s.wallet = y s.wallet) (n : Nat) :
    run n x s = run n y s := by
  rw [run, run, h]

/-- What a part of a call leaves: the wallet that it leaves, and the call with its next wait. -/
theorem run_cases (n : Nat) (x : Op Wallet Progress) (s : System) :
    (run n x s).1 = Progress.outcome? (x s.wallet).1 ∧ (run n x s).2.wallet = (x s.wallet).2 ∧
    ((∃ on, (x s.wallet).1 = .ok (.waiting on) ∧
        ∀ m, (run n x s).2.waiting? m = if n = m then some on else s.waiting? m) ∨
      ((Progress.outcome? (x s.wallet).1).isSome ∧
        ∀ m, (run n x s).2.waiting? m = if n = m then none else s.waiting? m)) := by
  rcases hx : x s.wallet with ⟨outcome, wallet⟩
  rcases outcome with e | answer | on
  · simp only [run, hx]
    exact ⟨rfl, rfl, .inr ⟨rfl, waiting?_forget n { s with wallet }⟩⟩
  · simp only [run, hx]
    exact ⟨rfl, rfl, .inr ⟨rfl, waiting?_forget n { s with wallet }⟩⟩
  · simp only [run, hx]
    exact ⟨rfl, trivial, .inl ⟨on, rfl, waiting?_put wallet n on⟩⟩

/-- A part that ends a call forgets it. -/
theorem run_ended {o : Outcome} (h : Progress.outcome? (x s.wallet).1 = some o) :
    run n x s = (some o, forget n { s with wallet := (x s.wallet).2 }) := by
  rcases hx : x s.wallet with ⟨e | answer | on, w⟩
  · rw [hx] at h
    rcases Option.some.inj h
    simp only [run, hx]
  · rw [hx] at h
    rcases Option.some.inj h
    simp only [run, hx]
  · rw [hx] at h
    cases h

/-- A part that has to wait leaves the call with its wait. -/
theorem run_waits (h : (x s.wallet).1 = .ok (.waiting on)) :
    run n x s = (none, { wallet := (x s.wallet).2, waiting := put n on s.waiting }) := by
  rcases hx : x s.wallet with ⟨outcome, w⟩
  rw [hx] at h
  simp only [run, hx, show outcome = .ok (.waiting on) from h]

/-- Giving up a call forgets it and, if it waits for a window, the request for that. -/
theorem cancel_cases (n : Nat) (s : System) :
    (∀ spared, Wallet.Routine spared s.wallet (s.cancel n).2.wallet) ∧
      (s.cancel n).2.waiting? n = none ∧ ∀ m, n ≠ m → (s.cancel n).2.waiting? m = s.waiting? m := by
  rcases hwaits : s.waiting? n with _ | on
  · simp only [cancel, hwaits]
    exact ⟨fun _ => Std.Refl.refl _, trivial, fun _ _ => trivial⟩
  · rcases hticket : on.ticket? with _ | ticket
    · simp only [cancel, hwaits, hticket]
      refine ⟨fun _ => Std.Refl.refl _, ?_, fun m hm => ?_⟩
      · rw [waiting?_forget, if_pos rfl]
      · rw [waiting?_forget, if_neg hm]
    · -- Withdrawing the request for a window changes the host only.
      simp only [cancel, hwaits, hticket]
      refine ⟨fun _ => .of_same rfl rfl rfl rfl, ?_, fun m hm => ?_⟩
      · rw [waiting?_forget, if_pos rfl]
      · rw [waiting?_forget, if_neg hm]
        rfl

end System

/-! ## Stages -/

/-- What a move answers and what it makes of a wallet at work; `t` is the number of a call that is
made. -/
def Move.step (t : Nat) : Move → System → Option Outcome × System
  | .call c, s => s.start t c
  | .goOn n, s => (s.resume n).getD (none, s)
  | .host action, s => (none, { s with wallet := (Wallet.undergo action s.wallet).2 })
  | .cancel n, s => (none, (s.cancel n).2)

/-- A run of a wallet: where it begins, and what happens in each stage. -/
structure Run where
  config : Config := {}
  host : Host := {}
  move : Nat → Move

namespace Run

variable (run : Run)

/-- The wallet and the calls that wait before a stage. -/
def system : Nat → System
  | 0 => { wallet := { config := run.config, host := run.host } }
  | t + 1 => ((run.move t).step t (system t)).2

/-- The wallet before a stage. -/
def wallet (t : Nat) : Wallet :=
  (run.system t).wallet

/-- The queue before a stage. -/
def queue (t : Nat) : RequestQueue :=
  (run.wallet t).core.queue

/-- The outcome of the call that ends in a stage. -/
def outcome (t : Nat) : Option Outcome :=
  ((run.move t).step t (run.system t)).1

/-- Before a stage, a call waits. -/
def Waits (t n : Nat) (on : Waiting) : Prop :=
  (run.system t).waiting? n = some on

/-- A stage goes on with a call, which has waited and waits no longer. -/
structure GoesOn (t n : Nat) (on : Waiting) : Prop where
  move : run.move t = .goOn n
  waits : run.Waits t n on
  ready : on.isReady (run.wallet t) = true

/-- A call ends in a stage: that in which it is made or one that goes on with it. -/
structure Ends (t n : Nat) (outcome : Outcome) : Prop where
  outcome : run.outcome t = some outcome
  own : ((∃ call, run.move t = .call call) ∧ n = t) ∨ run.move t = .goOn n

/-- A call puts a question. -/
def Asks (n : Nat) (q : Question) : Prop :=
  ∃ call, run.move n = .call call ∧ (run.wallet n).question? call = some q

variable {run} {t n : Nat} {on : Waiting}

/-- What a stage with a call does. -/
theorem system_call {call : Call} (h : run.move t = .call call) :
    ((run.move t).step t (run.system t)) =
      System.run t (Wallet.perform call) (run.system t) := by
  rw [h]
  rfl

theorem system_after_call {call : Call} (h : run.move t = .call call) :
    run.system (t + 1) = (System.run t (Wallet.perform call) (run.system t)).2 := by
  rw [system, system_call h]

/-- What a stage does in which a call goes on. -/
theorem system_goOn (h : run.GoesOn t n on) : ((run.move t).step t (run.system t)) =
    System.run n (Wallet.resume on) (run.system t) := by
  have hresume : (run.system t).resume n =
      some (System.run n (Wallet.resume on) (run.system t)) := by
    rw [System.resume, h.waits]
    exact if_pos h.ready
  rw [h.move, Move.step, hresume]
  rfl

theorem wallet_call {call : Call} (h : run.move t = .call call) :
    run.wallet (t + 1) = (Wallet.perform call (run.wallet t)).2 := by
  rw [wallet, system_after_call h]
  exact (System.run_cases t _ _).2.1

theorem wallet_goOn (h : run.GoesOn t n on) :
    run.wallet (t + 1) = (Wallet.resume on (run.wallet t)).2 := by
  rw [wallet, system, system_goOn h]
  exact (System.run_cases n _ _).2.1

theorem outcome_call {call : Call} (h : run.move t = .call call) :
    run.outcome t = Progress.outcome? (Wallet.perform call (run.wallet t)).1 := by
  rw [outcome, system_call h]
  exact (System.run_cases t _ _).1

theorem outcome_goOn (h : run.GoesOn t n on) :
    run.outcome t = Progress.outcome? (Wallet.resume on (run.wallet t)).1 := by
  rw [outcome, system_goOn h]
  exact (System.run_cases n _ _).1

/-- A stage that runs no part of a call: the host changes, a call is given up, or nothing
happens. -/
structure Idle (run : Run) (t : Nat) : Prop where
  uncalled : ∀ call, run.move t ≠ .call call
  unresumed : ∀ n on, ¬ run.GoesOn t n on
  outcome : run.outcome t = none
  routine : ∀ spared, Wallet.Routine spared (run.wallet t) (run.wallet (t + 1))
  waits : ∀ n on, run.Waits (t + 1) n on → run.Waits t n on
  stays : ∀ n on, run.Waits t n on → run.move t ≠ .cancel n → run.Waits (t + 1) n on

/-- Nothing happens if nobody waits under a number, or if the wait is not over. -/
theorem step_unready (hmove : run.move t = .goOn n) (hnot : ∀ on, ¬ run.GoesOn t n on) :
    (run.move t).step t (run.system t) = (none, run.system t) := by
  have hnone : (run.system t).resume n = none := by
    rcases hwaits : (run.system t).waiting? n with _ | on
    · rw [System.resume, hwaits]
    · rw [System.resume, hwaits]
      exact if_neg fun hready => hnot on ⟨hmove, hwaits, hready⟩
  rw [hmove, Move.step, hnone]
  rfl

/-- A call whose wait is not over cannot be made to go on. Such a stage does nothing. -/
theorem system_unready (hmove : run.move t = .goOn n) (hnot : ∀ on, ¬ run.GoesOn t n on) :
    run.system (t + 1) = run.system t :=
  congrArg Prod.snd (step_unready hmove hnot)

/-- A stage runs the first part of a call, or a later part of one, or none. -/
theorem stage_cases (run : Run) (t : Nat) :
    (∃ call, run.move t = .call call) ∨ (∃ n on, run.GoesOn t n on) ∨ run.Idle t := by
  rcases hmove : run.move t with call | n | action | n
  · exact .inl ⟨call, rfl⟩
  · refine .inr ?_
    by_cases hgoes : ∃ on, run.GoesOn t n on
    · exact .inl ⟨n, hgoes⟩
    -- Nobody of that number waits, or it is not ready yet: then nothing is done at all.
    · have hnot : ∀ on, ¬ run.GoesOn t n on := fun on h => hgoes ⟨on, h⟩
      have hsame := system_unready hmove hnot
      refine .inr {
        uncalled := fun call hcall => by cases hcall.symm.trans hmove
        unresumed := fun m on h => ?_
        outcome := congrArg Prod.fst (step_unready hmove hnot)
        routine := fun spared => by rw [wallet, wallet, hsame]; exact Std.Refl.refl _
        waits := fun n on hw => by rw [Waits, hsame] at hw; exact hw
        stays := fun n on hw _ => by rw [Waits, hsame]; exact hw }
      rcases Move.goOn.inj (hmove.symm.trans h.move)
      exact hnot on h
  -- What the world does leaves the calls that are suspended alone.
  · have hstep : run.system (t + 1) = { run.system t with
        wallet := (Wallet.undergo action (run.wallet t)).2 } := by
      rw [system, hmove]
      rfl
    refine .inr (.inr {
      uncalled := fun call hcall => by cases hcall.symm.trans hmove
      unresumed := fun m on hgoes => by cases hgoes.move.symm.trans hmove
      outcome := by rw [outcome, hmove]; rfl
      routine := fun spared => ?_
      waits := fun n on hw => ?_
      stays := fun n on hw _ => ?_ })
    · have hwallet : run.wallet (t + 1) = (Wallet.undergo action (run.wallet t)).2 := by
        rw [wallet, hstep]
      rw [hwallet]
      exact Wallet.undergo_routine action (run.wallet t)
    · rw [Waits, hstep] at hw
      exact hw
    · rw [Waits, hstep]
      exact hw
  -- A call that is given up is the one whose waiting comes to an end.
  · have hstep : run.system (t + 1) = ((run.system t).cancel n).2 := by
      rw [system, hmove]
      rfl
    rcases System.cancel_cases n (run.system t) with ⟨hroutine, hgone, hother⟩
    refine .inr (.inr {
      uncalled := fun call hcall => by cases hcall.symm.trans hmove
      unresumed := fun m on hgoes => by cases hgoes.move.symm.trans hmove
      outcome := by rw [outcome, hmove]; rfl
      routine := fun spared => ?_
      waits := fun m on hw => ?_
      stays := fun m on hw hkept => ?_ })
    · have hwallet : run.wallet (t + 1) = ((run.system t).cancel n).2.wallet := by
        rw [wallet, hstep]
      rw [hwallet]
      exact hroutine spared
    · rw [Waits, hstep] at hw
      by_cases hm : n = m
      · rw [← hm, hgone] at hw
        cases hw
      · exact (hother m hm).symm.trans hw
    · rw [Waits, hstep]
      by_cases hm : n = m
      · exact absurd (hm ▸ hmove) hkept
      · exact (hother m hm).trans hw

/-! ## What calls wait for -/

/-- A call that waits after a stage waited before it, or the stage ran a part of it. -/
theorem waits_stage {next : Waiting} (h : run.Waits (t + 1) n next) :
    run.Waits t n next ∨
    (∃ call, run.move t = .call call ∧ n = t ∧
      (Wallet.perform call (run.wallet t)).1 = .ok (.waiting next)) ∨
    ∃ on, run.GoesOn t n on ∧ (Wallet.resume on (run.wallet t)).1 = .ok (.waiting next) := by
  -- A part of a call changes the wait of that call and of no other.
  rcases run.stage_cases t with ⟨call, hmove⟩ | ⟨m, on, hgoes⟩ | hidle
  · rw [Waits, system, system_call hmove] at h
    rcases (System.run_cases t (Wallet.perform call) (run.system t)).2.2 with
      ⟨on, hpart, hwaiting⟩ | ⟨_, hwaiting⟩
    · rw [hwaiting] at h
      split at h
      · next same =>
        rcases Option.some.inj h
        exact .inr (.inl ⟨call, hmove, same.symm, hpart⟩)
      · exact .inl h
    · rw [hwaiting] at h
      split at h
      · cases h
      · exact .inl h
  · rw [Waits, system, system_goOn hgoes] at h
    rcases (System.run_cases m (Wallet.resume on) (run.system t)).2.2 with
      ⟨on, hpart, hwaiting⟩ | ⟨_, hwaiting⟩
    · rw [hwaiting] at h
      split at h
      · next same =>
        rcases Option.some.inj h
        exact .inr (.inr ⟨_, same ▸ hgoes, hpart⟩)
      · exact .inl h
    · rw [hwaiting] at h
      split at h
      · cases h
      · exact .inl h
  · exact .inl (hidle.waits n next h)

/-- A call is numbered by the stage in which it was made. -/
theorem lt_of_waits (h : run.Waits t n on) : n < t := by
  induction t generalizing on with
  | zero => cases h
  | succ t ih =>
      rcases waits_stage h with hbefore | ⟨_, _, rfl, _⟩ | ⟨_, hgoes, _⟩
      · exact Nat.lt_succ_of_lt (ih hbefore)
      · exact Nat.lt_succ_self n
      · exact Nat.lt_succ_of_lt (ih hgoes.waits)

/-- A call waits on unless it is given up or a stage goes on with it. -/
theorem waits_stays (h : run.Waits t n on) (hkept : run.move t ≠ .cancel n)
    (hrests : run.move t ≠ .goOn n) : run.Waits (t + 1) n on := by
  -- The call is older than the stage, so a call that is made in the stage is another one.
  have hlt := lt_of_waits h
  rcases run.stage_cases t with ⟨call, hmove⟩ | ⟨m, other, hgoes⟩ | hidle
  · rw [Waits, system, system_call hmove]
    rcases (System.run_cases t (Wallet.perform call) (run.system t)).2.2 with
      ⟨_, _, hwaiting⟩ | ⟨_, hwaiting⟩
    · rw [hwaiting, if_neg (Nat.ne_of_gt hlt)]
      exact h
    · rw [hwaiting, if_neg (Nat.ne_of_gt hlt)]
      exact h
  · have hother : m ≠ n := fun hsame => hrests (hsame ▸ hgoes.move)
    rw [Waits, system, system_goOn hgoes]
    rcases (System.run_cases m (Wallet.resume other) (run.system t)).2.2 with
      ⟨_, _, hwaiting⟩ | ⟨_, hwaiting⟩
    · rw [hwaiting, if_neg hother]
      exact h
    · rw [hwaiting, if_neg hother]
      exact h
  · exact hidle.stays n on h hkept

/-- A part of a call that ends in a wait leaves the call waiting for that. -/
theorem waiting_of_part {x : Op Wallet Progress} {s : System} {v : Wallet}
    (h : x s.wallet = (.ok (.waiting on), v)) : (System.run n x s).2.waiting? n = some on := by
  rcases (System.run_cases n x s).2.2 with ⟨other, hpart, hwaiting⟩ | ⟨hover, _⟩
  · rw [h] at hpart
    rw [hwaiting, if_pos rfl, Progress.waiting.inj (Except.ok.inj hpart)]
  · rw [h] at hover
    exact absurd hover Bool.false_ne_true

/-- A call whose first part has to wait does so from the next stage on. -/
theorem waits_of_call {call : Call} {v : Wallet} (hmove : run.move n = .call call)
    (h : Wallet.perform call (run.wallet n) = (.ok (.waiting on), v)) : run.Waits (n + 1) n on := by
  rw [Waits, system, system_call hmove]
  exact waiting_of_part h

/-- So does one that goes on and has to wait again. -/
theorem waits_of_goesOn {next : Waiting} {v : Wallet} (hgoes : run.GoesOn t n on)
    (h : Wallet.resume on (run.wallet t) = (.ok (.waiting next), v)) :
    run.Waits (t + 1) n next := by
  rw [Waits, system, system_goOn hgoes]
  exact waiting_of_part h

/-- A call puts one question at most. -/
theorem asks_unique {q q' : Question} (h : run.Asks n q) (h' : run.Asks n q') : q = q' := by
  rcases h with ⟨call, hmove, hq⟩
  rcases h' with ⟨call', hmove', hq'⟩
  rcases Move.call.inj (hmove.symm.trans hmove')
  exact Option.some.inj (hq.symm.trans hq')

/-- What a call may wait for, from what it was when it was made. -/
def Rooted (run : Run) (n : Nat) (on : Waiting) : Prop :=
  (∃ origin changeIdentity, run.move n = .call (.connect origin changeIdentity) ∧
    on.Links origin) ∨
  (∃ q, run.Asks n q ∧
    on.asked? = some ((run.queue n).nonce, (run.queue n).nextChannel, q.errand)) ∨
  (run.move n = .call .awaitUnlock ∧ on = .unlockSignal)

/-- Whoever waits waits for what its call has begun. -/
theorem rooted (h : run.Waits t n on) : run.Rooted n on := by
  -- A part of a call leaves it waiting for one of these, and going on keeps to the same one.
  induction t generalizing on with
  | zero => cases h
  | succ t ih =>
      rcases waits_stage h with hbefore | ⟨call, hmove, rfl, hpart⟩ | ⟨old, hgoes, hpart⟩
      · exact ih hbefore
      · rcases hp : Wallet.perform call (run.wallet n) with ⟨outcome, v⟩
        rw [hp] at hpart
        simp only at hpart
        subst hpart
        rcases Wallet.perform_waiting hp with
          hasks | ⟨origin, changeIdentity, rfl, hlinks⟩ | ⟨rfl, rfl⟩
        · rcases Option.isSome_iff_exists.1 hasks with ⟨q, hq⟩
          rcases Wallet.perform_asks hq with ⟨on', _, _, _, hask, hasked, _, _⟩ | ⟨_, _, hask, _⟩
          · rw [hp] at hask
            rcases Progress.waiting.inj (Except.ok.inj (congrArg Prod.fst hask))
            exact .inr (.inl ⟨q, ⟨call, hmove, hq⟩, hasked⟩)
          · rw [hp] at hask
            cases congrArg Prod.fst hask
        · exact .inl ⟨origin, changeIdentity, hmove, hlinks⟩
        · exact .inr (.inr ⟨hmove, rfl⟩)
      · -- A wait of one kind never follows one of another.
        rcases hp : Wallet.resume old (run.wallet t) with ⟨outcome, v⟩
        rw [hp] at hpart
        simp only at hpart
        subst hpart
        rcases Wallet.resume_waiting hp with
          ⟨other, hold, hnext⟩ | ⟨id, channel, errand, hasked, _, rfl⟩ | ⟨rfl, rfl⟩
        · rcases ih hgoes.waits with
            ⟨origin, changeIdentity, hmove, hlinks⟩ | ⟨q, ⟨call, _, hq⟩, hasked⟩ | ⟨_, rfl⟩
          · rcases Waiting.links_unique hlinks hold
            exact .inl ⟨_, changeIdentity, hmove, hnext⟩
          · exact absurd (Errand.connects_iff.2 ⟨other, (Waiting.links_iff hasked).1 hold⟩)
              (Wallet.question_connects hq)
          · exact hold.elim
        · rcases ih hgoes.waits with
            ⟨origin, changeIdentity, hmove, hlinks⟩ | ⟨q, hasks, hsame⟩ | ⟨_, rfl⟩
          · exact .inl ⟨origin, changeIdentity, hmove, (Waiting.links_iff hasked).1 hlinks⟩
          · exact .inr (.inl ⟨q, hasks, hasked.symm.trans hsame⟩)
          · cases hasked
        · rcases ih hgoes.waits with ⟨_, _, _, hold⟩ | ⟨_, _, hasked⟩ | ⟨hmove, _⟩
          · exact hold.elim
          · cases hasked
          · exact .inr (.inr ⟨hmove, rfl⟩)

/-! ## What a stage does -/

/-- A stage rejects at most, unless it is a decision or a window fails to come in it. -/
theorem queue_stage (run : Run) (t : Nat) :
    (run.queue t).Ordinary (run.queue (t + 1)) ∨
    (∃ request entry, run.move t = .call (.finalize request) ∧
      (run.queue t).find? request.id = some entry ∧
      run.queue (t + 1) = (run.queue t).settle entry (request.status.outcome request.data)) ∨
    ∃ n id channel ticket errand failure, run.GoesOn t n (.window id channel ticket errand) ∧
      (Waiting.window id channel ticket errand).failure? (run.wallet t) = some failure ∧
      run.queue (t + 1) = (run.queue t).dropAll id failure := by
  rcases run.stage_cases t with ⟨call, hmove⟩ | ⟨n, on, hgoes⟩ | hidle
  · rw [queue, queue, wallet_call hmove]
    rcases Wallet.perform_queue call (run.wallet t) with
      hordinary | ⟨request, entry, rfl, hfind, hqueue⟩
    · exact .inl hordinary
    · exact .inr (.inl ⟨request, entry, hmove, hfind, hqueue⟩)
  · rw [queue, queue, wallet_goOn hgoes]
    rcases Wallet.resume_queue on (run.wallet t) with
      hordinary | ⟨id, channel, ticket, errand, failure, rfl, hfails, hqueue⟩
    · exact .inl hordinary
    · exact .inr (.inr ⟨n, id, channel, ticket, errand, failure, hgoes, hfails, hqueue⟩)
  -- Neither the world nor a call that is given up gets at the queue.
  · exact .inl (hidle.routine fun _ _ => True).queue

/-- By induction on the stages: the queue is in order at all times. -/
theorem queue_sound (run : Run) (t : Nat) : (run.queue t).Sound := by
  induction t with
  | zero => exact .empty
  | succ t ih =>
      rcases run.queue_stage t with
        hordinary | ⟨_, _, _, hfind, hqueue⟩ | ⟨_, _, _, _, _, _, _, _, hqueue⟩
      · exact hordinary.sound ih
      · rw [hqueue]
        exact ih.settle hfind _
      · rw [hqueue]
        exact ih.dropAll _ _

/-- A stage gives out channels and takes none back. -/
theorem nextChannel_le (run : Run) (t : Nat) :
    (run.queue t).nextChannel ≤ (run.queue (t + 1)).nextChannel := by
  rcases run.queue_stage t with
    hordinary | ⟨_, _, _, _, hqueue⟩ | ⟨_, _, _, _, _, _, _, _, hqueue⟩
  · exact hordinary.grows
  · have hcounter := congrArg RequestQueue.nextChannel hqueue
    exact Nat.le_of_eq (hcounter.trans (RequestQueue.settle_counters _ _).2).symm
  · exact Nat.le_of_eq (congrArg RequestQueue.nextChannel hqueue).symm

/-- And so do any number of stages. -/
theorem nextChannel_mono (run : Run) {t u : Nat} (h : t ≤ u) :
    (run.queue t).nextChannel ≤ (run.queue u).nextChannel := by
  induction h with
  | refl => exact Nat.le_refl _
  | step _ ih => exact Nat.le_trans ih (run.nextChannel_le _)

/-- The origins that a stage spares. -/
def Spares (run : Run) (t : Nat) : String → String → Prop :=
  match run.move t with
  | .call call => call.Spares
  | .goOn n => fun o c => ∀ on, run.Waits t n on → on.Spares o c
  | _ => fun _ _ => True

/-- A stage keeps the origins entitled that it spares. -/
theorem keeps_stage (run : Run) (t : Nat) :
    Wallet.Keeps (run.Spares t) (run.wallet t) (run.wallet (t + 1)) := by
  rcases run.stage_cases t with ⟨call, hmove⟩ | ⟨n, on, hgoes⟩ | hidle
  · rw [Spares, hmove, wallet_call hmove]
    exact Wallet.perform_keeps call (run.wallet t)
  · rw [Spares, hgoes.move, wallet_goOn hgoes]
    have hkeeps := Wallet.resume_keeps on (run.wallet t)
    exact ⟨hkeeps.guarded, fun o c hs => hkeeps.entitled o c (hs on hgoes.waits)⟩
  · exact (hidle.routine _).toKeeps

/-- By induction on the stages: connections are never loaded while the session is locked. -/
theorem guarded (run : Run) (t : Nat) : (run.wallet t).Guarded := by
  induction t with
  | zero => exact fun h => absurd h Bool.false_ne_true
  | succ t ih => exact (run.keeps_stage t).guarded ih

/-- A stage uses an identity only if a call dispatches a job at once, or goes on with an errand for
that use after an acceptance. -/
theorem uses_stage (run : Run) (t : Nat) : (run.wallet (t + 1)).uses = (run.wallet t).uses ∨
    (∃ call job, run.move t = .call call ∧ (run.wallet t).dispatched? call = some job ∧
      (run.wallet (t + 1)).uses = (run.wallet t).uses ++ [.job job]) ∨
    ∃ n on id channel errand use data, run.GoesOn t n on ∧
      on.asked? = some (id, channel, errand) ∧ errand.use? = some use ∧
      (run.queue t).answer? channel = some (.ok data) ∧
      (run.wallet (t + 1)).uses = (run.wallet t).uses ++ [use] := by
  -- A call is used up by what is dispatched in it, a suspended one by the answer it gets.
  rcases run.stage_cases t with ⟨call, hmove⟩ | ⟨n, on, hgoes⟩ | hidle
  · rw [wallet_call hmove]
    rcases Wallet.perform_uses call (run.wallet t) with hnone | ⟨job, hdispatched, huses⟩
    · exact .inl hnone
    · exact .inr (.inl ⟨call, job, hmove, hdispatched, huses⟩)
  · rw [wallet_goOn hgoes]
    rcases Wallet.resume_uses on (run.wallet t) with
      hnone | ⟨id, channel, errand, use, data, hasked, huse, hanswer, huses⟩
    · exact .inl hnone
    · exact .inr (.inr ⟨n, on, id, channel, errand, use, data, hgoes, hasked, huse, hanswer, huses⟩)
  · exact .inl (hidle.routine fun _ _ => True).uses

end Run

end WalletTrust

import WalletTrust.Proofs.Contexts
import WalletTrust.Proofs.Screening

/-!
# Stages That Compute a Proof

Which stages of a run have a proof computed, for which job and for which call.

There are two ways to it. A call dispatches a job at once, if the job is handed over with the call
or if its origin skips the confirmation. Or a call goes on with a job that was to be confirmed, and
finds its question accepted and the window of the question not failed. In both cases that is the end
of the call, and the outcome is what the strategy that is in force delivers, as the call tells it.

Nothing else ends a proof request with an answer. So the answer is a proof of the system that was
requested, and when the host gives a proof of the other system, the request fails.

The outcome is an equation: whoever dispatches is told what the strategy delivers, with the errors
of the dispatch as the call passes them on. So what two platforms have to agree on for a call to end
alike is what they deliver for its job, and nothing more. `Platforms` makes use of that.

## Main definitions

* `Waiting.dispatched?`: The job that a flow dispatches when it goes on.
* `Call.tells`: What the maker of a call is told of a failed proof.
* `Run.Dispatches`: A stage has the proof for a job computed for a call.

## Theorems

* `Wallet.perform_dispatches`, `Wallet.resume_dispatches`: The two ways to a proof.
* `Run.Dispatches.caller`: Whose proofs are computed.
* `Run.Dispatches.ends`: The call ends with what the strategy delivers.
* `Run.Ends.dispatches`, `Run.Ends.kind`: Whatever answers a proof request.
* `Wallet.dispatch_outcome`: What is delivered is what the dispatch comes to.
* `Run.Dispatches.kind`: The job of a proof request is of the kind that was requested.
* `Wallet.dispatched_of_answered`: A proof request that is answered at once has dispatched a job.
-/

namespace WalletTrust

/-- The job that a flow dispatches when it goes on: that of its errand, if the question is accepted
and the window has not failed. -/
def Waiting.dispatched? (w : Wallet) (on : Waiting) : Option ProofJob :=
  match on.asked? with
  | some (_, channel, .proof job true) =>
    match ((on.failure? w).map .error).or (w.core.queue.answer? channel) with
    | some (.ok _) => some job
    | _ => none
  | _ => none

/-- What the maker of a call is told of a failed proof. -/
def Call.tells : Call → Error → Error
  | .generate request _, e => .ofProof request.kind e
  | _, e => e

theorem Waiting.dispatched?_eq_some {w : Wallet} {on : Waiting} {job : ProofJob}
    (h : on.dispatched? w = some job) : ∃ id channel data,
      on.asked? = some (id, channel, .proof job true) ∧
      ((on.failure? w).map .error).or (w.core.queue.answer? channel) = some (.ok data) := by
  rw [dispatched?] at h
  split at h
  · next hasked =>
    split at h
    · next data hheard =>
      rcases Option.some.inj h
      exact ⟨_, _, data, hasked, hheard⟩
    · cases h
  · cases h

/-- What is delivered is of the system of the job. -/
theorem Strategy.kind_of_delivers {strategy : Strategy} {job : ProofJob} {output : ProofOutput}
    (h : strategy.delivers job = .ok output) : output.kind = job.kind := by
  rcases Except.of_bind h with ⟨given, _, hkind⟩
  rw [ProofOutput.ofKind_eq] at hkind
  split at hkind
  · next hsame =>
    rcases Except.ok.inj hkind
    exact hsame
  · cases hkind

namespace Wallet

variable {w : Wallet} {job : ProofJob}

/-- A call that dispatches a job at once. -/
theorem perform_dispatches {call : Call} (h : w.dispatched? call = some job) :
    perform call w = (dispatch job).mapError call.tells w := by
  cases call with
  | generate request origin =>
      rw [dispatched?] at h
      split at h
      · next hskip => exact perform_generate_skips h hskip
      · cases h
  | dispatch other =>
      rcases Option.some.inj h
      exact congrFun (Op.mapError_id (fun _ => rfl) (dispatch job)).symm w
  | _ => cases h

/-- A call that goes on with a job once it is confirmed. -/
theorem resume_dispatches {on : Waiting} (h : on.dispatched? w = some job) :
    resume on w = (dispatch job).mapError (.ofProof job.kind) (on.settled w) := by
  rcases Waiting.dispatched?_eq_some h with ⟨id, channel, data, hasked, hheard⟩
  rw [resume_confirmation hasked, hheard]
  rfl

theorem settled_strategy (on : Waiting) (w : Wallet) :
    (on.settled w).host.strategy = w.host.strategy := by
  cases on with
  | _ => rfl

/-- Whoever has a proof computed is done, and is told what the strategy delivers. -/
theorem dispatch_outcome (job : ProofJob) (f : Error → Error) (w : Wallet) :
    Progress.outcome? ((dispatch job).mapError f w).1 =
      some (((w.host.strategy.delivers job).map .proof).mapError f) := by
  rw [Op.mapError, dispatch_apply]
  rcases w.host.strategy.delivers job with e | output
  · rfl
  · rfl

/-- A proof request that is answered at once dispatches a job: without one it fails, and with one
that is to be confirmed it waits or fails. -/
theorem dispatched_of_answered {request : ProofRequest} {origin : String} {answer : Answer}
    (h : Progress.outcome? (perform (.generate request origin) w).1 = some (.ok answer)) :
    ∃ job, w.dispatched? (.generate request origin) = some job := by
  -- Without a job the call fails, and without leave to skip the question it waits.
  rcases hjob : w.assembled? request origin with _ | job
  · rcases requestProof_unassembled hjob true with ⟨e, hrun⟩
    have herror : perform (.generate request origin) w = (.error (.ofProof request.kind e), w) :=
      Op.mapError_of_error hrun _
    rw [herror] at h
    cases h
  rcases hskip : w.canSkipApprove origin with _ | _
  · have hq : w.question? (.generate request origin) = some {
        kind := job.kind.requestKind
        payload := job.withoutIdentity.preparedJson
        errand := .proof job true } := by
      rw [question?, proofQuestion?, hskip, hjob]
      rfl
    rcases perform_asks hq with ⟨_, _, _, _, hrun, _⟩ | ⟨_, _, hrun, _⟩
    · rw [hrun] at h
      cases h
    · rw [hrun] at h
      cases h
  · exact ⟨job, by rw [dispatched?, if_pos hskip, hjob]⟩

/-- A job that was to be confirmed is dispatched if the call is answered. -/
theorem confirmed_of_answered {on : Waiting} {id : UInt64} {channel : Nat} {answer : Answer}
    (hasked : on.asked? = some (id, channel, .proof job true))
    (h : Progress.outcome? (resume on w).1 = some (.ok answer)) : on.dispatched? w = some job := by
  rw [resume_confirmation hasked] at h
  rw [Waiting.dispatched?, hasked]
  dsimp only
  generalize ((on.failure? w).map .error).or (w.core.queue.answer? channel) = heard at h ⊢
  rcases heard with _ | e | data
  · cases h
  · cases h
  · rfl

end Wallet

namespace Run

variable {run : Run} {t n : Nat} {on : Waiting} {job : ProofJob} {request : ProofRequest}
  {origin : String}

/-- A stage has the proof for a job computed, for a call. -/
inductive Dispatches (run : Run) (t : Nat) : Nat → ProofJob → Prop
  | call {call : Call} {job : ProofJob} (hmove : run.move t = .call call)
    (h : (run.wallet t).dispatched? call = some job) : Dispatches run t t job
  | goOn {n : Nat} {on : Waiting} {job : ProofJob} (hgoes : run.GoesOn t n on)
    (h : on.dispatched? (run.wallet t) = some job) : Dispatches run t n job

/-- Only a proof request waits with a job whose proof is to be computed. -/
theorem generate_of_waits {id : UInt64} {channel : Nat} (h : run.Waits t n on)
    (hasked : on.asked? = some (id, channel, .proof job true)) :
    ∃ request origin, run.move n = .call (.generate request origin) ∧ job.kind = request.kind := by
  rcases rooted h with ⟨_, _, _, hlinks⟩ | ⟨q, ⟨call, hmove, hq⟩, hsame⟩ | ⟨_, rfl⟩
  · exact ((Waiting.links_iff hasked).1 hlinks).elim
  · have herrand : q.errand = .proof job true :=
      congrArg (·.2.2) (Option.some.inj (hsame.symm.trans hasked))
    -- Other calls ask too, but not for leave to compute a proof.
    cases call with
    | generate request origin =>
        rcases Wallet.proofQuestion?_eq_some hq with ⟨_, job', hjob, rfl⟩
        rcases Errand.proof.inj herrand with ⟨rfl, _⟩
        exact ⟨request, origin, hmove, Wallet.kind_of_assembled hjob⟩
    | prepare request origin =>
        rcases Wallet.proofQuestion?_eq_some hq with ⟨_, job', hjob, rfl⟩
        cases herrand
    | submit kind payload =>
        rcases Option.some.inj hq
        cases herrand
    | ask kind payload =>
        rcases Option.some.inj hq
        cases herrand
    | reveal origin =>
        rcases Option.map_eq_some_iff.1 hq with ⟨connection, _, rfl⟩
        cases herrand
    | _ => cases hq
  · cases hasked

/-- Proofs are computed for proof requests, and for jobs that are handed over. -/
theorem Dispatches.caller (h : run.Dispatches t n job) :
    (∃ request origin, run.move n = .call (.generate request origin) ∧
      job.kind = request.kind) ∨ run.move n = .call (.dispatch job) := by
  cases h with
  | @call call _ hmove hdispatched =>
      cases call with
      | generate request origin =>
          rw [Wallet.dispatched?] at hdispatched
          split at hdispatched
          · exact .inl ⟨request, origin, hmove, Wallet.kind_of_assembled hdispatched⟩
          · cases hdispatched
      | dispatch other =>
          rcases Option.some.inj hdispatched
          exact .inr hmove
      | _ => cases hdispatched
  | goOn hgoes hdispatched =>
      rcases Waiting.dispatched?_eq_some hdispatched with ⟨_, _, _, hasked, _⟩
      exact .inl (generate_of_waits hgoes.waits hasked)

/-- That is the end of the call, and it ends with what the strategy delivers. -/
theorem Dispatches.ends {call : Call} (h : run.Dispatches t n job)
    (hcall : run.move n = .call call) :
    run.Ends t n ((((run.strategy t).delivers job).map .proof).mapError call.tells) := by
  -- The dispatch is the last thing that the call does, so its outcome is that of the call.
  cases h with
  | call hmove hdispatched =>
      rcases Move.call.inj (hcall.symm.trans hmove)
      refine ends_of_call hmove ?_
      rw [Wallet.perform_dispatches hdispatched, Wallet.dispatch_outcome]
      rfl
  | goOn hgoes hdispatched =>
      rcases Waiting.dispatched?_eq_some hdispatched with ⟨_, _, _, hasked, _⟩
      rcases generate_of_waits hgoes.waits hasked with ⟨request, origin, hmove, hkind⟩
      rcases Move.call.inj (hcall.symm.trans hmove)
      refine ends_of_goesOn hgoes ?_
      rw [Wallet.resume_dispatches hdispatched, Wallet.dispatch_outcome, Wallet.settled_strategy,
        hkind]
      rfl

/-- A proof request waits for the answer to its question. -/
theorem asked_of_generate (hmove : run.move n = .call (.generate request origin))
    (h : run.Waits t n on) :
    ∃ id channel job, on.asked? = some (id, channel, .proof job true) := by
  rcases rooted h with ⟨_, _, hconnect, _⟩ | ⟨q, ⟨call, hcall, hq⟩, hasked⟩ | ⟨hawait, _⟩
  · cases hconnect.symm.trans hmove
  · rcases Move.call.inj (hcall.symm.trans hmove)
    rcases Wallet.proofQuestion?_eq_some hq with ⟨_, job, _, rfl⟩
    exact ⟨_, _, job, hasked⟩
  · cases hawait.symm.trans hmove

/-- A proof request that is answered had a proof computed. -/
theorem Ends.dispatches {answer : Answer} (hmove : run.move n = .call (.generate request origin))
    (h : run.Ends t n (.ok answer)) : ∃ job, run.Dispatches t n job := by
  rcases ends_cases h with ⟨rfl, call, hcall, hover⟩ | ⟨on, hgoes, hover⟩
  · rcases Move.call.inj (hcall.symm.trans hmove)
    rcases Wallet.dispatched_of_answered hover with ⟨job, hdispatched⟩
    exact ⟨job, .call hmove hdispatched⟩
  · rcases asked_of_generate hmove hgoes.waits with ⟨id, channel, job, hasked⟩
    exact ⟨job, .goOn hgoes (Wallet.confirmed_of_answered hasked hover)⟩

/-- The job of a proof request is of the kind that was requested. -/
theorem Dispatches.kind (h : run.Dispatches t n job)
    (hmove : run.move n = .call (.generate request origin)) : job.kind = request.kind := by
  rcases h.caller with ⟨request', origin', hcall, hkind⟩ | hcall
  · rcases Call.generate.inj (Move.call.inj (hcall.symm.trans hmove)) with ⟨rfl, _⟩
    exact hkind
  · cases hcall.symm.trans hmove

/-- A proof request that is answered is answered with a proof of the system that was requested. -/
theorem Ends.kind {answer : Answer} (hmove : run.move n = .call (.generate request origin))
    (h : run.Ends t n (.ok answer)) :
    ∃ output, answer = .proof output ∧ output.kind = request.kind := by
  rcases h.dispatches hmove with ⟨job, hdispatches⟩
  have hsame := (ends_once h (hdispatches.ends hmove)).2
  rcases hdelivers : (run.strategy t).delivers job with e | output
  · rw [hdelivers] at hsame
    cases hsame
  · rw [hdelivers] at hsame
    exact ⟨output, Except.ok.inj hsame,
      (Strategy.kind_of_delivers hdelivers).trans (hdispatches.kind hmove)⟩

end Run

end WalletTrust

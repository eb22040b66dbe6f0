import WalletTrust.Proofs.Flows
import WalletTrust.Wallet.Call

/-!
# Calls and Their Questions

What a call does up to its end or its first wait.

A call that puts a question to the user is known by the question: its kind, its payload and the
errand that the answer is wanted for. `Wallet.question?` gives the question of a call, as the state
at the time of the call determines it, and `perform_question` says that putting it is all that the
call does. Everything that is shown to the user, and everything that is used once the user agrees,
is fixed by the state at that time.

A call that skips the question, and the call that takes a job as it is, dispatch at once. A decision
settles what it decides. All other calls are routine.

A proof request is the call in which this matters most, as it assembles a job before it asks. The
job is a function of the state, so it is computed here without running the request, and the request
is then described by what it does with the job: it shows it, hands it back or dispatches it.

## Main definitions

* `Question`, `Wallet.question?`: The question that a call puts.
* `Wallet.dispatched?`: The job that a call dispatches at once.
* `Call.Spares`: The origins that a call spares.

## Theorems

* `Wallet.perform_question`: A call that puts a question does nothing else.
* `Wallet.perform_routine`, `Wallet.perform_dispatched`, `Wallet.perform_cases`: What other calls
  do.
* `Wallet.perform_waiting`: The calls that wait.
* `Wallet.requestProof_assembled`, `Wallet.requestProof_unassembled`: A proof request with a job,
  and without one.
* `Wallet.perform_asks`: A call that puts a question waits for its answer, or fails for want of a
  window.
* `Wallet.question_connects`: The question of a call is not one of those that a connect request
  puts.
* `Wallet.perform_uses`, `Wallet.perform_keeps`, `Wallet.perform_queue`: What calls respect.
-/

namespace WalletTrust

/-- A question, with the errand that its answer is wanted for. -/
structure Question where
  kind : RequestKind
  payload : Json
  errand : Errand

/-- The origins that a call spares. -/
def Call.Spares : Call → String → String → Prop
  | .logout => fun _ _ => False
  | .connectIdentity _ origin => fun o _ => o ≠ origin
  | .disconnect target => fun o c => o ≠ target ∧ c ≠ target
  | .revoke origin => fun o c => o ≠ origin ∧ c ≠ origin
  | .clearConnections => fun _ _ => False
  | .uploadBackup _ => fun _ _ => False
  | .uploadComponent component _ _ => fun _ _ => component ≠ .connections
  | _ => fun _ _ => True

namespace Wallet

open Op (Within Yields)

variable {α : Type} {spared : String → String → Prop} {w : Wallet}

/-! ## Questions -/

/-- The job of a request, as the state has it. -/
def assembled? (w : Wallet) (request : ProofRequest) (origin : String) : Option ProofJob :=
  (assemble request origin w).1.toOption

/-- The question that a proof request puts, if it puts one. -/
def proofQuestion? (w : Wallet) (request : ProofRequest) (origin : String) (compute : Bool) :
    Option Question :=
  if w.canSkipApprove origin then none
  else (w.assembled? request origin).map fun job =>
    { kind := job.kind.requestKind
      payload := job.withoutIdentity.preparedJson
      errand := .proof job compute }

/-- The question that a call puts, if it is known from the state that it puts one. -/
def question? (w : Wallet) : Call → Option Question
  | .submit kind payload => some { kind, payload, errand := .asked true }
  | .ask kind payload => some { kind, payload, errand := .asked false }
  | .reveal origin => (w.connection? origin).map fun connection =>
    { kind := .revealCommitment
      payload := .obj [("origin", toJson origin), ("name", toJson connection.name)]
      errand := .reveal origin connection.commitment }
  | .prepare request origin => w.proofQuestion? request origin false
  | .generate request origin => w.proofQuestion? request origin true
  | _ => none

/-- The job that a call dispatches at once. -/
def dispatched? (w : Wallet) : Call → Option ProofJob
  | .generate request origin =>
    if w.canSkipApprove origin then w.assembled? request origin else none
  | .dispatch job => some job
  | _ => none

theorem assemble_state (request : ProofRequest) (origin : String) (w : Wallet) :
    (assemble request origin w).2 = w := by
  have hsame : Within (Op.Same id) (assemble request origin) := by
    refine .ite (fun _ => ?_) fun _ => ?_
    · exact .fail _
    · refine .bind ?_ fun found => ?_
      · refine .bind .get fun w => ?_
        cases w.connection? origin with
        | none => exact .pure _
        | some connection =>
            refine .bind .get fun _ => ?_
            exact .ofExcept _
      · refine .bind (.ofOption _ _) fun identity => ?_
        refine .bind (.ofExcept _) fun raw => ?_
        refine .bind (.ofExcept _) fun source => ?_
        refine .bind .get fun w => ?_
        refine .bind (.ofExcept _) fun _ => ?_
        exact .pure _
  exact hsame w

/-- The request of a job is of the kind that was requested. -/
theorem assemble_kind (request : ProofRequest) (origin : String) :
    Yields (fun job => job.kind = request.kind) (assemble request origin) := by
  -- Whatever the checks look at, the job is made of the request.
  unfold assemble
  refine .ite ?_ ?_
  · exact .fail _
  · refine .bind fun _ => ?_
    refine .bind fun _ => ?_
    refine .bind fun _ => ?_
    refine .bind fun _ => ?_
    refine .bind fun w => ?_
    refine .bind fun _ => ?_
    refine .pure ?_
    cases request with
    | semaphore request => rfl
    | rln request => rfl

theorem assembled?_eq_some {request : ProofRequest} {origin : String} {job : ProofJob}
    (h : w.assembled? request origin = some job) : assemble request origin w = (.ok job, w) := by
  have hstate := assemble_state request origin w
  rcases hassemble : assemble request origin w with ⟨outcome, v⟩
  rw [assembled?, hassemble] at h
  rw [hassemble] at hstate
  cases outcome with
  | ok job' => rw [← Option.some.inj h, ← hstate]
  | error e => cases h

theorem assembled?_eq_none {request : ProofRequest} {origin : String}
    (h : w.assembled? request origin = none) :
    ∃ e, assemble request origin w = (.error e, w) := by
  have hstate := assemble_state request origin w
  rcases hassemble : assemble request origin w with ⟨outcome, v⟩
  rw [assembled?, hassemble] at h
  rw [hassemble] at hstate
  cases outcome with
  | ok job => cases h
  | error e => exact ⟨e, by rw [← hstate]⟩

/-- A proof request without a job fails and changes nothing. -/
theorem requestProof_unassembled {request : ProofRequest} {origin : String}
    (h : w.assembled? request origin = none) (compute : Bool) :
    ∃ e, requestProof request origin compute w = (.error e, w) := by
  rcases assembled?_eq_none h with ⟨e, hassemble⟩
  exact ⟨e, by rw [requestProof, Op.bind_error hassemble]⟩

/-- A proof request with a job skips the question or puts it. -/
theorem requestProof_assembled {request : ProofRequest} {origin : String} {job : ProofJob}
    (h : w.assembled? request origin = some job) (compute : Bool) :
    requestProof request origin compute w =
      (if w.canSkipApprove origin then confirmed job compute
        else ask job.kind.requestKind job.withoutIdentity.preparedJson (.proof job compute)) w := by
  rw [requestProof, Op.bind_ok (assembled?_eq_some h)]
  rfl

theorem kind_of_assembled {request : ProofRequest} {origin : String} {job : ProofJob}
    (h : w.assembled? request origin = some job) : job.kind = request.kind :=
  assemble_kind request origin w job w (assembled?_eq_some h)

/-- A proof request puts its question if it has a job that is not to skip it. -/
theorem proofQuestion?_eq_some {request : ProofRequest} {origin : String} {compute : Bool}
    {q : Question} (h : w.proofQuestion? request origin compute = some q) :
    w.canSkipApprove origin = false ∧ ∃ job, w.assembled? request origin = some job ∧
      q = { kind := job.kind.requestKind, payload := job.withoutIdentity.preparedJson,
            errand := .proof job compute } := by
  rw [proofQuestion?] at h
  split at h
  · cases h
  · next hshown =>
    rcases Option.map_eq_some_iff.1 h with ⟨job, hjob, hsame⟩
    exact ⟨Bool.not_eq_true _ ▸ hshown, job, hjob, hsame.symm⟩

theorem reveal_unconnected {origin : String} (h : w.connection? origin = none) :
    perform (.reveal origin) w = (.error .notConnected, w) := by
  simp only [perform, reveal, Op.bind_apply, Op.get, h, Op.ofOption, Op.fail]

/-- A call that puts a question does nothing else. -/
theorem perform_question {call : Call} {q : Question} (h : w.question? call = some q) :
    perform call w = ((ask q.kind q.payload q.errand).mapError q.errand.wrap) w := by
  have hproof {request : ProofRequest} {origin : String} {compute : Bool}
      (hq : w.proofQuestion? request origin compute = some q) :
      ∃ job, w.assembled? request origin = some job ∧ q.errand = .proof job compute ∧
        requestProof request origin compute w = ask q.kind q.payload q.errand w := by
    rcases proofQuestion?_eq_some hq with ⟨hshown, job, hjob, rfl⟩
    refine ⟨job, hjob, rfl, ?_⟩
    rw [requestProof_assembled hjob, if_neg (by rw [hshown]; exact Bool.false_ne_true)]
  cases call with
  | submit kind payload =>
      rcases Option.some.inj h
      exact (congrFun (Op.mapError_id (fun _ => rfl) _) w).symm
  | ask kind payload =>
      rcases Option.some.inj h
      exact (congrFun (Op.mapError_id (fun _ => rfl) _) w).symm
  | reveal origin =>
      rcases Option.map_eq_some_iff.1 h with ⟨connection, hconnection, rfl⟩
      refine Eq.trans ?_ (congrFun (Op.mapError_id (fun _ => rfl) _) w).symm
      simp only [perform, reveal, Op.bind_apply, Op.get, hconnection, Op.ofOption, Op.pure_apply]
  | prepare request origin =>
      rcases hproof h with ⟨job, _, herrand, hrun⟩
      have hwrap : ∀ e, q.errand.wrap e = e := by
        rw [herrand]
        exact fun _ => rfl
      exact hrun.trans (congrFun (Op.mapError_id hwrap _) w).symm
  | generate request origin =>
      -- The call wraps failures by the kind of the request, and the errand by that of the job.
      rcases hproof h with ⟨job, hjob, herrand, hrun⟩
      have hwrap : q.errand.wrap = .ofProof request.kind := by
        rw [herrand, ← kind_of_assembled hjob]
        rfl
      rw [Op.mapError, ← hrun, hwrap]
      rfl
  | _ => cases h

/-- A call that puts a question waits for its answer, or fails for want of a window. -/
theorem perform_asks {call : Call} {q : Question} (h : w.question? call = some q) :
    (∃ on v popup listener, perform call w = (.ok (.waiting on), v) ∧
      on.asked? = some (w.core.queue.nonce, w.core.queue.nextChannel, q.errand) ∧
      v.core.queue = { w.core.queue.enqueue q.kind q.payload with popup, listener } ∧
      (on = .answer w.core.queue.nonce w.core.queue.nextChannel q.errand ∨
        w.core.queue.pending = [])) ∨
    ∃ cause v, perform call w = (.error (q.errand.wrap (Desk.openingFailure cause)), v) ∧
      v.core.queue = (w.core.queue.enqueue q.kind q.payload).dropAll w.core.queue.nonce
        (Desk.openingFailure cause) := by
  rw [perform_question h]
  -- Wrapping changes what a failure says, and leaves a wait as it is.
  rcases ask_cases q.kind q.payload q.errand w with
    ⟨on, v, popup, listener, hask, hasked, hqueue, halone⟩ | ⟨cause, v, _, _, hask, hqueue⟩
  · exact .inl ⟨on, v, popup, listener, Op.mapError_of_ok hask _, hasked, hqueue, halone⟩
  · exact .inr ⟨cause, v, Op.mapError_of_error hask _, hqueue⟩

/-- The question of a call is not one of those that a connect request puts. -/
theorem question_connects {call : Call} {q : Question} (h : w.question? call = some q) :
    ¬ q.errand.Connects := by
  have hproof {request : ProofRequest} {origin : String} {compute : Bool}
      (hq : w.proofQuestion? request origin compute = some q) : ¬ q.errand.Connects := by
    rcases proofQuestion?_eq_some hq with ⟨_, job, _, rfl⟩
    exact id
  -- The calls that ask a question of their own are not those that connect.
  cases call with
  | submit kind payload => rcases Option.some.inj h; exact id
  | ask kind payload => rcases Option.some.inj h; exact id
  | reveal origin =>
      rcases Option.map_eq_some_iff.1 h with ⟨connection, _, rfl⟩
      exact id
  | prepare request origin => exact hproof h
  | generate request origin => exact hproof h
  | _ => cases h

/-! ## Calls -/

theorem finish_routine {x : Op Wallet α} (h : Within (Routine spared) x) (answer : α → Answer) :
    Within (Routine spared) (finish answer x) := by
  unfold finish
  refine .bind h fun _ => ?_
  exact .pure _

theorem finish_over (answer : α → Answer) (x : Op Wallet α) :
    Yields Progress.Over (finish answer x) := by
  unfold finish
  refine .bind fun _ => ?_
  exact .pure trivial

/-- A call that puts a question is routine, whatever it spares. -/
theorem perform_question_routine {call : Call} {q : Question} (h : w.question? call = some q) :
    Routine spared w (perform call w).2 := by
  rw [perform_question h]
  exact Within.mapError (ask_routine _ _ _) w

/-- A proof request that neither puts a question nor dispatches its job changes nothing. -/
theorem requestProof_idle {request : ProofRequest} {origin : String} {compute : Bool}
    (hasks : w.proofQuestion? request origin compute = none)
    (hskips : compute = true → w.canSkipApprove origin = true →
      w.assembled? request origin = none) :
    (requestProof request origin compute w).2 = w := by
  rcases hjob : w.assembled? request origin with _ | job
  · rcases requestProof_unassembled hjob compute with ⟨e, hrun⟩
    rw [hrun]
  · rcases hskip : w.canSkipApprove origin with _ | _
    · -- With a job, and without leave to skip the question, it would put one.
      rw [proofQuestion?, hskip, hjob] at hasks
      cases hasks
    · rw [requestProof_assembled hjob, if_pos hskip]
      cases compute with
      | true => cases hjob.symm.trans (hskips rfl hskip)
      | false => rfl

theorem generate_state (request : ProofRequest) (origin : String) (w : Wallet) :
    (perform (.generate request origin) w).2 = (requestProof request origin true w).2 :=
  Op.mapError_state (.ofProof request.kind) (requestProof request origin true) w

/-- A call is routine unless it is a decision or dispatches a job. -/
theorem perform_routine {call : Call} (hdecides : ∀ request, call ≠ .finalize request)
    (hdispatches : w.dispatched? call = none) : Routine call.Spares w (perform call w).2 := by
  -- Whatever puts a question is routine, so what is left are the calls that put none.
  rcases hasks : w.question? call with _ | q
  · cases call with
    | setupPassword password => exact finish_routine (setupPassword_routine _) _ w
    | unlock password => exact finish_routine (unlock_routine _) _ w
    | logout => exact finish_routine logout_routine _ w
    | status => exact finish_routine (onLock_routine SessionLock.status_firm) _ w
    | setupLock password =>
        exact finish_routine (onLock_routine (SessionLock.setupPassword_firm _)) _ w
    | openLock password => exact finish_routine (onLock_routine (SessionLock.unlock_firm _)) _ w
    | sessionState => exact finish_routine (onLock_routine SessionLock.state_firm) _ w
    | isAuthentic password =>
        exact finish_routine (onLock_routine (SessionLock.isAuthentic_firm _)) _ w
    | submit kind payload => cases hasks
    | ask kind payload => cases hasks
    | awaitUnlock =>
        exact Within.mapError unlockSignal_routine w
    | ensureUnlocked => exact finish_routine (onLock_routine SessionLock.ensureUnlocked_firm) _ w
    | sealText plain purpose =>
        exact finish_routine (onLock_routine (SessionLock.sealText_firm _ _)) _ w
    | openText sealed purpose =>
        exact finish_routine (onLock_routine (SessionLock.openText_firm _ _)) _ w
    | loadApprovals => exact finish_routine loadApprovals_routine _ w
    | approve entry => exact finish_routine (approve_routine _) _ w
    | setPermission origin flag => exact finish_routine (setPermission_routine _ _) _ w
    | unapprove origin => exact finish_routine (unapprove_routine _) _ w
    | clearApprovals => exact finish_routine clearApprovals_routine _ w
    | loadConnections => exact finish_routine loadConnections_routine _ w
    | connectIdentity commitment origin => exact finish_routine (connectIdentity_routine _ _) _ w
    | disconnect target => exact finish_routine (disconnect_routine _) _ w
    | clearConnections => exact finish_routine clearConnections_routine _ w
    | connectedIdentity origin => exact finish_routine (connectedIdentity_routine _) _ w
    | identity commitment => exact finish_routine (identity_routine _) _ w
    | selectedIdentity => exact finish_routine selectedIdentity_routine _ w
    | finalize request => exact absurd rfl (hdecides request)
    | connect origin changeIdentity => exact connect_routine _ _ w
    | reveal origin =>
        rw [reveal_unconnected (Option.map_eq_none_iff.1 hasks)]
        exact Std.Refl.refl w
    | revoke origin => exact finish_routine (revoke_routine _) _ w
    | prepare request origin =>
        have hsame : (perform (.prepare request origin) w).2 = w :=
          requestProof_idle hasks fun h => absurd h Bool.false_ne_true
        rw [hsame]
        exact Std.Refl.refl w
    | generate request origin =>
        have hsame : (perform (.generate request origin) w).2 = w := by
          rw [generate_state]
          refine requestProof_idle hasks fun _ hskip => ?_
          simpa only [dispatched?, hskip, if_true] using hdispatches
        rw [hsame]
        exact Std.Refl.refl w
    | dispatch job => cases hdispatches
    | removeComponent key => exact finish_routine (removeComponent_routine _) _ w
    | registerComponent component => exact finish_routine (registerComponent_routine _) _ w
    | downloadBackup password => exact finish_routine (downloadBackup_routine _) _ w
    | uploadBackup upload => exact finish_routine (uploadBackup_routine _) _ w
    | downloadComponent component password =>
        exact finish_routine (downloadComponent_routine _ _) _ w
    | uploadComponent component blob password =>
        exact finish_routine (uploadComponent_routine _ _ _) _ w
    | _ => exact finish_routine .get _ w
  · exact perform_question_routine hasks

/-- A call that dispatches a job does nothing else. -/
theorem perform_dispatched {call : Call} {job : ProofJob} (h : w.dispatched? call = some job) :
    (perform call w).2 = (dispatch job w).2 := by
  cases call with
  | generate request origin =>
      rw [dispatched?] at h
      split at h
      · next hskip =>
        rw [generate_state, requestProof_assembled h, if_pos hskip]
        rfl
      · cases h
  | dispatch => rw [Option.some.inj h]; rfl
  | _ => cases h

/-- A decision settles the question that it names, if there is one. -/
theorem perform_finalize (spared : String → String → Prop) (request : FinalizeRequest)
    (w : Wallet) : Steady spared w (perform (.finalize request) w).2 ∧
    ((∃ entry, w.core.queue.find? request.id = some entry ∧
        (perform (.finalize request) w).1 = .ok (.finished (.flag true)) ∧
        (perform (.finalize request) w).2.core.queue =
          w.core.queue.settle entry (request.status.outcome request.data)) ∨
      (w.core.queue.find? request.id = none ∧
        (perform (.finalize request) w).1 = .ok (.finished (.flag false)) ∧
        (perform (.finalize request) w).2.core.queue = w.core.queue)) := by
  have hsteady : Steady spared w (onDesk (Desk.finalize request) w).2 :=
    onDesk_steady (Desk.finalize_silent request) w
  have hperform : perform (.finalize request) w =
      (onDesk (Desk.finalize request) >>= fun found =>
        (pure (.finished (.flag found)) : Op Wallet Progress)) w := rfl
  -- A decision runs on the queue and the desktop, and the rest of the wallet is left to it.
  let desk : Desk := { queue := w.core.queue, desktop := w.host.desktop }
  rw [hperform]
  rcases hfind : desk.queue.find? request.id with _ | entry
  · have hrun := Desk.finalize_unknown hfind
    have hsame : onDesk (Desk.finalize request) w = (.ok false, w) := by
      simp only [onDesk, Op.zoom]
      rw [show Desk.finalize request { queue := w.core.queue, desktop := w.host.desktop } =
        (.ok false, desk) from hrun]
    rw [Op.bind_ok hsame]
    exact ⟨Std.Refl.refl w, .inr ⟨rfl, rfl, rfl⟩⟩
  · rcases onDesk_does (Desk.finalize_known hfind) with ⟨v, hrun, hqueue⟩
    rw [hrun] at hsteady
    rw [Op.bind_ok hrun]
    exact ⟨hsteady, .inl ⟨entry, rfl, rfl, hqueue⟩⟩

/-- A call is a decision, or it dispatches a job and does nothing else, or it is routine. -/
theorem perform_cases (call : Call) (w : Wallet) :
    (∃ request, call = .finalize request) ∨
    (∃ job, w.dispatched? call = some job ∧ (perform call w).2 = (dispatch job w).2) ∨
    Routine call.Spares w (perform call w).2 := by
  -- Whether it is a decision is read off the call, whether it dispatches also off the state.
  by_cases hdecides : ∃ request, call = .finalize request
  · exact .inl hdecides
  · refine .inr ?_
    rcases hdispatched : w.dispatched? call with _ | job
    · exact .inr (perform_routine (fun request h => hdecides ⟨request, h⟩) hdispatched)
    · exact .inl ⟨job, rfl, perform_dispatched hdispatched⟩

/-- A call keeps the origins entitled that it spares. -/
theorem perform_keeps (call : Call) (w : Wallet) : Keeps call.Spares w (perform call w).2 := by
  rcases perform_cases call w with ⟨request, rfl⟩ | ⟨job, _, hrun⟩ | hroutine
  · exact (perform_finalize _ request w).1.toKeeps
  · rw [hrun]
    exact .of_core (dispatch_core job w)
  · exact hroutine.toKeeps

/-- A call uses an identity at once only if it dispatches a job. -/
theorem perform_uses (call : Call) (w : Wallet) : (perform call w).2.uses = w.uses ∨
    ∃ job, w.dispatched? call = some job ∧ (perform call w).2.uses = w.uses ++ [.job job] := by
  rcases perform_cases call w with ⟨request, rfl⟩ | ⟨job, hdispatched, hrun⟩ | hroutine
  · exact .inl (perform_finalize (fun _ _ => True) request w).1.uses
  · rw [hrun]
    exact (dispatch_uses job w).symm.imp_right fun huses => ⟨job, hdispatched, huses⟩
  · exact .inl hroutine.uses

/-- A call rejects at most, unless it is a decision. -/
theorem perform_queue (call : Call) (w : Wallet) :
    w.core.queue.Ordinary (perform call w).2.core.queue ∨
    ∃ request entry, call = .finalize request ∧ w.core.queue.find? request.id = some entry ∧
      (perform call w).2.core.queue =
        w.core.queue.settle entry (request.status.outcome request.data) := by
  rcases perform_cases call w with ⟨request, rfl⟩ | ⟨job, _, hrun⟩ | hroutine
  · rcases (perform_finalize (fun _ _ => True) request w).2 with
      ⟨entry, hfind, _, hqueue⟩ | ⟨_, _, hqueue⟩
    · exact .inr ⟨request, entry, rfl, hfind, hqueue⟩
    · rw [hqueue]
      exact .inl (.refl _)
  · rw [hrun, dispatch_core]
    exact .inl (.refl _)
  · exact .inl hroutine.queue

theorem confirmed_over (job : ProofJob) (compute : Bool) :
    Yields Progress.Over (confirmed job compute) := by
  unfold confirmed
  refine .ite ?_ ?_
  · exact dispatch_over job
  · exact .pure trivial

/-- A proof request that puts no question does not wait. -/
theorem requestProof_over {request : ProofRequest} {origin : String} {compute : Bool}
    {p : Progress} {v : Wallet} (hasks : w.proofQuestion? request origin compute = none)
    (h : requestProof request origin compute w = (.ok p, v)) : p.Over := by
  rcases hjob : w.assembled? request origin with _ | job
  · rcases requestProof_unassembled hjob compute with ⟨e, hrun⟩
    cases hrun.symm.trans h
  · rcases hskip : w.canSkipApprove origin with _ | _
    · rw [proofQuestion?, hskip, hjob] at hasks
      cases hasks
    · rw [requestProof_assembled hjob, if_pos hskip] at h
      exact confirmed_over job compute w p v h

/-- A call that waits has put a question, or is a connect request, or waits for the session. -/
theorem perform_waiting {call : Call} {v : Wallet} {on : Waiting}
    (h : perform call w = (.ok (.waiting on), v)) :
    (w.question? call).isSome ∨ (∃ origin changeIdentity, call = .connect origin changeIdentity ∧
      on.Links origin) ∨ (call = .awaitUnlock ∧ on = .unlockSignal) := by
  rcases hasks : w.question? call with _ | q
  · refine .inr ?_
    -- What is not named here runs an operation to its end.
    cases call with
    | submit kind payload => cases hasks
    | ask kind payload => cases hasks
    | awaitUnlock =>
        exact .inr ⟨rfl, unlockSignal_waits w _ v (Op.mapError_ok h) on rfl⟩
    | connect origin changeIdentity =>
        exact .inl ⟨origin, changeIdentity, rfl, connect_links _ _ w _ v h⟩
    | reveal origin =>
        cases (reveal_unconnected (Option.map_eq_none_iff.1 hasks)).symm.trans h
    | prepare request origin => exact (requestProof_over hasks h).elim
    | generate request origin => exact (requestProof_over hasks (Op.mapError_ok h)).elim
    | dispatch job => exact (dispatch_over job w _ v h).elim
    | _ => exact (finish_over _ _ w _ v h).elim
  · exact .inl rfl

end Wallet

end WalletTrust

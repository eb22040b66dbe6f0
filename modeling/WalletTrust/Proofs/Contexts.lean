import WalletTrust.Proofs.Windows

/-!
# Isolated Contexts Are Torn Down

What a strategy does with a job, all of it: the output and what it leaves in the record.

A context that could be made is torn down again, once, as the last thing that is done with it. That
holds whether the job could be posted, whether a message came back and what it said. Where no
context could be made there is none to tear down, and nothing is posted. A job is posted once at
most, and one message at most is waited for.

Both strategies do what they do in one go, so a proof is what the strategy gives for the job, and
nothing else of the wallet has a part in it. What is given may be a proof of the other system. It is
not passed on.

To say so of a run, the events are counted: a stage records as many contexts that are made as
contexts that are torn down, since a stage dispatches one job at most and everything else that it
records is about something else. `Suspension` shows that nothing is lost by taking a dispatch for
one step.

## Main definitions

* `Strategy.compute`, `Strategy.trace`: What a strategy gives for a job, and what it leaves.
* `Strategy.Gives`: A strategy gives an output for a job.
* `Sandbox.Uses`: What may be done with one context.
* `Strategy.delivers`: What a call is told of its proof.

## Theorems

* `Strategy.dispatch_apply`, `Wallet.dispatch_apply`: Dispatching a job does that, and nothing else.
* `Sandbox.trace_uses`: A context is torn down.
* `ProofOutput.ofKind_eq`: A proof of the other system is not passed on.
* `Strategy.trace_counts`: What is made for a job is torn down.
* `Run.contexts_stage`, `Run.contextsTornDown_eq`: As many contexts are torn down as are made, in a
  stage and in a run.
-/

namespace WalletTrust

/-! ## Events -/

namespace HostEvent

def isContextCreated : HostEvent → Bool
  | .contextCreated => true
  | _ => false

def isContextTornDown : HostEvent → Bool
  | .contextTornDown => true
  | _ => false

def isAnswerAwaited : HostEvent → Bool
  | .answerAwaited => true
  | _ => false

/-- The job that is posted to a context. -/
def posted? : HostEvent → Option ProofJob
  | .jobPosted job => some job
  | _ => none

end HostEvent

/-! ## Strategies -/

namespace Strategy

/-- What a strategy gives for a job. -/
def compute (job : ProofJob) : Strategy → Except Error ProofOutput
  | .inProcess prover => prover.prove job
  | .isolated sandbox =>
    sandbox.create >>= fun _ => sandbox.post job >>= fun _ => ofMessage (sandbox.answer job)

/-- What a strategy leaves in the record for a job. -/
def trace (job : ProofJob) : Strategy → List HostEvent
  | .inProcess _ => [.proofStarted job]
  | .isolated sandbox =>
    match sandbox.create, sandbox.post job with
    | .error _, _ => [.contextCreated]
    | .ok _, .error _ => [.contextCreated, .jobPosted job, .contextTornDown]
    | .ok _, .ok _ => [.contextCreated, .jobPosted job, .answerAwaited, .contextTornDown]

/-- A strategy gives an output for a job: the prover does, or a context that can be made takes the
job and answers with the output. -/
def Gives (job : ProofJob) (output : ProofOutput) : Strategy → Prop
  | .inProcess prover => prover.prove job = .ok output
  | .isolated sandbox => sandbox.create = .ok () ∧ sandbox.post job = .ok () ∧
      sandbox.answer job = some (.result output)

variable {job : ProofJob} {output : ProofOutput} {strategy : Strategy}

theorem ofMessage_eq_ok {message : Option SandboxMessage} :
    ofMessage message = .ok output ↔ message = some (.result output) := by
  rcases message with _ | (result | text)
  · exact ⟨nofun, nofun⟩
  · simp only [ofMessage, Except.ok.injEq, Option.some.injEq, SandboxMessage.result.injEq]
  · exact ⟨nofun, nofun⟩

theorem gives_iff : strategy.Gives job output ↔ strategy.compute job = .ok output := by
  cases strategy with
  | inProcess prover => exact Iff.rfl
  | isolated sandbox =>
      rw [Gives, compute, ← ofMessage_eq_ok]
      rcases sandbox.create with e | _
      · exact ⟨nofun, nofun⟩
      · rcases sandbox.post job with e | _
        · exact ⟨nofun, nofun⟩
        · exact ⟨fun h => h.2.2, fun h => ⟨rfl, rfl, h⟩⟩

/-- Dispatching a job gives what the strategy gives, and leaves its trace. -/
theorem dispatch_apply (strategy : Strategy) (job : ProofJob) (d : Desktop) :
    strategy.dispatch job d =
      (strategy.compute job, { d with log := d.log ++ strategy.trace job }) := by
  cases strategy with
  | inProcess prover => rfl
  | isolated sandbox =>
      rw [dispatch, compute, trace]
      simp only [converse, Op.bind_apply, Op.modify, Op.ofExcept, Op.attempt, Desktop.record]
      -- The context may fail to be made, to take the job, or to answer, and the trace says which.
      rcases sandbox.create with e | _
      · rfl
      · rcases sandbox.post job with e | _
        · simp only [List.append_assoc]
          rfl
        · simp only [List.append_assoc]
          rfl

end Strategy

/-! ## Contexts -/

/-- What may be done with the context for a job, from asking for it on. -/
structure Sandbox.Uses (sandbox : Sandbox) (job : ProofJob) (events : List HostEvent) : Prop where
  /-- One context is asked for, before anything else. -/
  asked : ∃ rest, events = .contextCreated :: rest ∧ rest.countP HostEvent.isContextCreated = 0
  /-- If it could be made it is torn down, once and after everything else. -/
  tornDown : sandbox.create = .ok () → ∃ before, events = before ++ [.contextTornDown] ∧
    before.countP HostEvent.isContextTornDown = 0
  /-- If it could not there is nothing else. -/
  unmade : ∀ e, sandbox.create = .error e → events = [.contextCreated]
  posted : events.filterMap HostEvent.posted? = [] ∨ events.filterMap HostEvent.posted? = [job]
  awaited : events.countP HostEvent.isAnswerAwaited ≤ 1

/-- Whatever becomes of a job, its context is torn down. -/
theorem Sandbox.trace_uses (sandbox : Sandbox) (job : ProofJob) :
    sandbox.Uses job ((Strategy.isolated sandbox).trace job) := by
  rw [Strategy.trace]
  -- What is not made is not torn down.
  rcases hcreate : sandbox.create with e | _
  · exact {
      asked := ⟨_, rfl, rfl⟩
      tornDown := fun h => by cases hcreate.symm.trans h
      unmade := fun _ _ => rfl
      posted := .inl rfl
      awaited := Nat.zero_le 1 }
  · rcases sandbox.post job with e | _
    · exact {
        asked := ⟨_, rfl, rfl⟩
        tornDown := fun _ => ⟨[.contextCreated, .jobPosted job], rfl, rfl⟩
        unmade := fun _ h => by cases hcreate.symm.trans h
        posted := .inr rfl
        awaited := Nat.zero_le 1 }
    · exact {
        asked := ⟨_, rfl, rfl⟩
        tornDown := fun _ => ⟨[.contextCreated, .jobPosted job, .answerAwaited], rfl, rfl⟩
        unmade := fun _ h => by cases hcreate.symm.trans h
        posted := .inr rfl
        awaited := Nat.le_refl 1 }

/-! ## Proofs of the other system -/

/-- What is said of a proof that is not of the system that was asked for. -/
def ProofKind.unexpected : ProofKind → Error
  | .semaphore => .transport "expected a Semaphore proof"
  | .rln => .transport "expected an RLN proof"

/-- A proof of the other system is not passed on. -/
theorem ProofOutput.ofKind_eq (asked : ProofKind) (output : ProofOutput) :
    output.ofKind asked = if output.kind = asked then .ok output else .error asked.unexpected := by
  cases asked with
  | _ =>
      cases output with
      | _ => rfl

/-- What a call is told of the proof for its job. -/
def Strategy.delivers (strategy : Strategy) (job : ProofJob) : Except Error ProofOutput :=
  strategy.compute job >>= ProofOutput.ofKind job.kind

theorem Strategy.delivers_of_gives {strategy : Strategy} {job : ProofJob} {output : ProofOutput}
    (h : strategy.Gives job output) : strategy.delivers job =
      if output.kind = job.kind then .ok output else .error job.kind.unexpected := by
  rw [delivers, gives_iff.1 h, ← ProofOutput.ofKind_eq]
  rfl

namespace Wallet

/-- Dispatching a job leaves the trace of the strategy, and nothing else. -/
theorem dispatch_apply (job : ProofJob) (w : Wallet) : dispatch job w =
    ((w.host.strategy.delivers job).map fun output => .finished (.proof output),
      { w with host := { w.host with desktop := { w.host.desktop with
        log := w.host.desktop.log ++ w.host.strategy.trace job } } }) := by
  simp only [dispatch, Op.bind_apply, Op.get, onDesktop, Op.zoom, Strategy.dispatch_apply,
    Strategy.delivers]
  rcases w.host.strategy.compute job with e | output
  · rfl
  · simp only [Op.ofExcept]
    rcases hkind : output.ofKind job.kind with e | proof
    · simp only [bind, Except.bind, hkind]
      rfl
    · simp only [bind, Except.bind, hkind]
      rfl

end Wallet

/-! ## Counting contexts -/

/-- Whether a context that is asked for is made. -/
def Strategy.makes : Strategy → Bool
  | .inProcess _ => false
  | .isolated sandbox => sandbox.create.isOk

/-- What is made for a job is torn down. -/
theorem Strategy.trace_counts (strategy : Strategy) (job : ProofJob) :
    (strategy.trace job).countP HostEvent.isContextTornDown =
      if strategy.makes then (strategy.trace job).countP HostEvent.isContextCreated else 0 := by
  cases strategy with
  | inProcess prover => rfl
  | isolated sandbox =>
      rw [makes]
      have huses := sandbox.trace_uses job
      rcases huses.asked with ⟨rest, hasked, hnone⟩
      have hone :
          ((Strategy.isolated sandbox).trace job).countP HostEvent.isContextCreated = 1 := by
        rw [hasked, List.countP_cons, hnone]
        rfl
      -- One context is asked for, and one is torn down if it came to be.
      rcases hcreate : sandbox.create with e | _
      · rw [huses.unmade e hcreate]
        rfl
      · rcases huses.tornDown hcreate with ⟨before, htrace, hbefore⟩
        rw [hone, htrace, List.countP_append, hbefore]
        rfl

namespace Desktop

/-- The contexts that were asked for. -/
def contextsAsked (d : Desktop) : Nat :=
  d.log.countP HostEvent.isContextCreated

def contextsTornDown (d : Desktop) : Nat :=
  d.log.countP HostEvent.isContextTornDown

end Desktop

/-- Whoever closes windows of its own at most records nothing about proofs. -/
theorem Wallet.ClosesOwn.countP {also : HostEvent → Prop} {w v : Wallet} (h : w.ClosesOwn also v)
    {p : HostEvent → Bool} (hp : ∀ e, p e = true → e.isPublic = false)
    (halso : ∀ e, also e → e.isPublic = true) :
    v.host.desktop.log.countP p = w.host.desktop.log.countP p := by
  rcases h.records with ⟨events, hlog, hall⟩
  have hlog' : v.host.desktop.log = w.host.desktop.log ++ events := hlog
  have hnone : events.countP p = 0 := by
    refine List.countP_eq_zero.2 fun e he hpe => ?_
    have hpublic := (hall e he).elim HostEvent.ClosesOwn.unproved (halso e)
    rw [hp e hpe] at hpublic
    cases hpublic
  rw [hlog', List.countP_append, hnone, Nat.add_zero]

namespace Run

variable (run : Run)

/-- The strategy in force before a stage. -/
def strategy (t : Nat) : Strategy :=
  (run.wallet t).host.strategy

/-- The contexts that were made before a stage: those that were asked for while they could be. -/
def contextsMade : Nat → Nat
  | 0 => 0
  | t + 1 => contextsMade t + if (run.strategy t).makes then
      (run.wallet (t + 1)).host.desktop.contextsAsked - (run.wallet t).host.desktop.contextsAsked
    else 0

/-- A stage tears down what it makes. -/
theorem contexts_stage (t : Nat) : (run.wallet (t + 1)).host.desktop.contextsTornDown =
    (run.wallet t).host.desktop.contextsTornDown + if (run.strategy t).makes then
      (run.wallet (t + 1)).host.desktop.contextsAsked - (run.wallet t).host.desktop.contextsAsked
    else 0 := by
  have halso (e : HostEvent) (h : ∃ n on, run.GoesOn t n on ∧ on.Closes e) : e.isPublic = true := by
    rcases h with ⟨_, _, _, window, _, rfl⟩
    rfl
  have hasked (e : HostEvent) (h : e.isContextCreated = true) : e.isPublic = false := by
    cases e with
    | contextCreated => rfl
    | _ => cases h
  have htorn (e : HostEvent) (h : e.isContextTornDown = true) : e.isPublic = false := by
    cases e with
    | contextTornDown => rfl
    | _ => cases h
  -- Both counts grow only in a dispatch, since nothing else records anything about contexts.
  rcases run.stage_dispatches t with hown | ⟨job, v, hown, hstrategy, hlast⟩
  · rw [Desktop.contextsTornDown, Desktop.contextsTornDown, Desktop.contextsAsked,
      Desktop.contextsAsked, hown.countP htorn halso, hown.countP hasked halso, Nat.sub_self,
      ite_self, Nat.add_zero]
  · have hlog : (run.wallet (t + 1)).host.desktop.log =
        v.host.desktop.log ++ (run.strategy t).trace job := by
      rw [hlast, Wallet.dispatch_apply, hstrategy]
      rfl
    rw [Desktop.contextsTornDown, Desktop.contextsTornDown, Desktop.contextsAsked,
      Desktop.contextsAsked, hlog, List.countP_append, List.countP_append,
      hown.countP htorn halso, hown.countP hasked halso, Strategy.trace_counts,
      Nat.add_sub_cancel_left]

/-- In a run, as many contexts are torn down as are made. -/
theorem contextsTornDown_eq (t : Nat) : (run.wallet t).host.desktop.contextsTornDown =
    run.host.desktop.contextsTornDown + run.contextsMade t := by
  induction t with
  | zero => rfl
  | succ t ih => rw [contexts_stage, ih, contextsMade, Nat.add_assoc]

end Run

end WalletTrust

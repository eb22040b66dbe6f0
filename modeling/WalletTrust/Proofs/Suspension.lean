import WalletTrust.Proofs.Platforms

/-!
# Waiting for a Context

What happens to a wallet while an isolated context works on a job.

A dispatch to a context has two halves. In the first the context is made and gets the job; in the
second its message is there and it is torn down. A context takes its time, and between the two
halves the wallet may do anything else: other calls are made and go on, the session is locked, an
approval is revoked, and further jobs are dispatched to further contexts. In a run both halves are
one part of a call, as if the message were always there at once.

Nothing is lost by that. The second half looks at nothing of the wallet: the job was settled before
the first, and what the message is worth is decided by the message. So the proof is the one that a
dispatch in one go gives, whatever has happened in between. And nothing else of the wallet looks at
the first half, which leaves nothing but its place in the record of the host. So all that happens in
between comes to what it comes to after a dispatch in one go. What is left out is that the call is
given up in between, since then nobody is there for the second half.

What carries the argument through any number of moves is that the two wallets, the one that still
waits and the one that has its proof, are counterparts, just as the wallets of two platforms are:
they differ in what the record has of proofs, and that is covered.

## Main definitions

* `Sandbox.engage`, `Sandbox.release`: The two halves of a dispatch to a context.
* `Wallet.receive`: The second half, for the call that waits for the proof.
* `System.follow`: What becomes of a wallet at work in some moves.

## Theorems

* `Sandbox.dispatch_halves`, `Wallet.dispatch_halves`: The two halves are a dispatch.
* `System.follow_together`: Counterparts stay counterparts.
* `System.dispatch_interrupted`: Whatever happens between the two halves, it might as well have
  happened afterwards.
-/

namespace WalletTrust

variable {sandbox : Sandbox} {job : ProofJob}

namespace Sandbox

/-- The first half of a dispatch. The answer tells whether the context has taken the job. -/
def engage (sandbox : Sandbox) (job : ProofJob) : Op Desktop (Except Error Unit) := do
  Op.modify (Desktop.record .contextCreated)
  Op.ofExcept sandbox.create
  Op.attempt do
    Op.modify (Desktop.record (.jobPosted job))
    Op.ofExcept (sandbox.post job)
    Op.modify (Desktop.record .answerAwaited)

/-- The second half, whether or not there is a message to be waited for. -/
def release (sandbox : Sandbox) (job : ProofJob) (taken : Except Error Unit) :
    Op Desktop ProofOutput := do
  Op.modify (Desktop.record .contextTornDown)
  Op.ofExcept (taken >>= fun _ => Strategy.ofMessage (sandbox.answer job))

/-- One half after the other is a dispatch. -/
theorem dispatch_halves (sandbox : Sandbox) (job : ProofJob) (d : Desktop) :
    (Strategy.isolated sandbox).dispatch job d =
      (sandbox.engage job >>= sandbox.release job) d := by
  simp only [Strategy.dispatch, Strategy.converse, engage, release, Op.bind_apply, Op.modify,
    Op.ofExcept, Op.attempt]
  rcases sandbox.create with e | _
  · rfl
  · rcases sandbox.post job with e | _
    · rfl
    · rfl

/-- The first half leaves in the record what is about proofs, and that is all it leaves. -/
theorem engage_record (sandbox : Sandbox) (job : ProofJob) (d : Desktop) : ∃ events,
    events.filterMap Cover.platform.event = [] ∧
      (sandbox.engage job d).2 = { d with log := d.log ++ events } := by
  simp only [engage, Op.bind_apply, Op.modify, Op.ofExcept, Op.attempt, Desktop.record]
  rcases sandbox.create with e | _
  · exact ⟨[.contextCreated], rfl, rfl⟩
  · rcases sandbox.post job with e | _
    · refine ⟨[.contextCreated, .jobPosted job], rfl, ?_⟩
      simp only [List.append_assoc]
      rfl
    · refine ⟨[.contextCreated, .jobPosted job, .answerAwaited], rfl, ?_⟩
      simp only [List.append_assoc]
      rfl

end Sandbox

namespace Wallet

variable {w v u : Wallet} {taken : Except Error Unit}

/-- The second half of a dispatch, for the call that waits for the proof. -/
def receive (sandbox : Sandbox) (job : ProofJob) (taken : Except Error Unit) :
    Op Wallet Progress := do
  let output ← onDesktop (sandbox.release job taken)
  return .finished (.proof (← Op.ofExcept (output.ofKind job.kind)))

/-- The two halves, with nothing in between. -/
theorem dispatch_halves (hstrategy : w.host.strategy = .isolated sandbox)
    (hengage : onDesktop (sandbox.engage job) w = (.ok taken, v)) :
    dispatch job w = receive sandbox job taken v := by
  have hhalves : onDesktop ((Strategy.isolated sandbox).dispatch job) w =
      onDesktop (sandbox.release job taken) v := by
    rcases hrun : sandbox.engage job w.host.desktop with ⟨outcome, d⟩
    rw [onDesktop, Op.zoom, hrun] at hengage
    rcases Prod.mk.inj hengage with ⟨rfl, rfl⟩
    rw [onDesktop, Op.zoom, sandbox.dispatch_halves, Op.bind_ok hrun]
    rfl
  rw [dispatch, Op.bind_ok (x := Op.get) rfl, hstrategy, Op.bind_congr hhalves]
  rfl

/-- What the second half answers is settled by then, and it leaves a wallet that it has not looked
at. -/
theorem receive_apply (sandbox : Sandbox) (job : ProofJob) (taken : Except Error Unit)
    (w : Wallet) : receive sandbox job taken w =
      (((taken >>= fun _ => Strategy.ofMessage (sandbox.answer job)) >>=
          ProofOutput.ofKind job.kind).map fun output => .finished (.proof output),
        (onDesktop (Op.modify (Desktop.record .contextTornDown)) w).2) := by
  rw [receive]
  simp only [Op.bind_apply, onDesktop, Op.zoom, Sandbox.release, Op.modify, Op.ofExcept]
  rcases taken >>= fun _ => Strategy.ofMessage (sandbox.answer job) with e | output
  · rfl
  · rcases hkind : output.ofKind job.kind with e | proof
    · simp only [bind, Except.bind, hkind]
      rfl
    · simp only [bind, Except.bind, hkind]
      rfl

/-- Of the first half nothing is left once proofs are covered. -/
theorem engage_platform (hengage : onDesktop (sandbox.engage job) w = (.ok taken, v)) :
    Cover.platform.wallet v = Cover.platform.wallet w := by
  rcases sandbox.engage_record job w.host.desktop with ⟨events, hcovered, hdesktop⟩
  have hv : v = { w with host := { w.host with desktop :=
      { w.host.desktop with log := w.host.desktop.log ++ events } } } := by
    rw [← hdesktop]
    exact (congrArg Prod.snd hengage).symm
  rw [hv, Cover.wallet, Cover.wallet, Cover.host, Cover.host, Cover.platform_desktop _ hcovered]

/-- Whatever has become of the wallet, the call hears the same. -/
theorem receive_settled (sandbox : Sandbox) (job : ProofJob) (taken : Except Error Unit)
    (w v : Wallet) :
    (receive sandbox job taken w).1 = (receive sandbox job taken v).1 := by
  rw [receive_apply, receive_apply]

/-- The context is torn down, and that is covered. -/
theorem receive_platform (sandbox : Sandbox) (job : ProofJob) (taken : Except Error Unit)
    (w : Wallet) :
    Cover.platform.wallet (receive sandbox job taken w).2 = Cover.platform.wallet w := by
  have hcovered : [HostEvent.contextTornDown].filterMap Cover.platform.event = [] := rfl
  rw [receive_apply]
  simp only [onDesktop, Op.zoom, Op.modify, Desktop.record, Cover.wallet, Cover.host,
    Cover.platform_desktop _ hcovered]

end Wallet

namespace System

variable {s s' : System}

/-- What becomes of a wallet at work in some moves. The calls that are made are numbered from `t`
on. -/
def follow (t : Nat) : List Move → System → System
  | [], s => s
  | move :: rest, s => follow (t + 1) rest (move.step t s).2

/-- Counterparts stay counterparts. -/
theorem follow_together (h : s.Together s') (t : Nat) (moves : List Move) :
    (follow t moves s).Together (follow t moves s') := by
  induction moves generalizing t s s' with
  | nil => exact h
  | cons move rest ih => exact ih (Move.step_together h move t) (t + 1)

/-- Whatever happens between the two halves of a dispatch, the proof is that of a dispatch in one
go, and all that has happened might as well have happened afterwards. -/
theorem dispatch_interrupted {taken : Except Error Unit} {w : Wallet}
    (hstrategy : s.wallet.host.strategy = .isolated sandbox)
    (hengage : Wallet.onDesktop (sandbox.engage job) s.wallet = (.ok taken, w)) (t : Nat)
    (moves : List Move) :
    let between := follow t moves { s with wallet := w }
    let received := Wallet.receive sandbox job taken between.wallet
    received.1 = (Wallet.dispatch job s.wallet).1 ∧
      Together { between with wallet := received.2 }
        (follow t moves { s with wallet := (Wallet.dispatch job s.wallet).2 }) := by
  intro between received
  have hanswer : received.1 = (Wallet.dispatch job s.wallet).1 := by
    rw [Wallet.dispatch_halves hstrategy hengage]
    exact Wallet.receive_settled sandbox job taken between.wallet w
  -- What the first half has left in the record is covered, as all of the dispatch is.
  have hbegin : Together { s with wallet := w }
      { s with wallet := (Wallet.dispatch job s.wallet).2 } :=
    ⟨rfl, (Wallet.dispatch_platform job s.wallet).trans (Wallet.engage_platform hengage).symm⟩
  have hfollow := follow_together hbegin t moves
  have hreceived := Wallet.receive_platform sandbox job taken between.wallet
  exact ⟨hanswer, hfollow.waiting, hfollow.wallet.trans hreceived.symm⟩

end System

end WalletTrust

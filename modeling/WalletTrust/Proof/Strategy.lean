import WalletTrust.Host.Desktop

/-!
# Proving Strategies

Where a proof is computed.

A platform that offers isolated contexts computes every proof in one that is made for the job and
torn down after it, whatever became of the job. Other platforms compute proofs in the wallet's own
process. The choice is made once. Either way the result is a proof of either system, and it is for
the asker to check that it is of the right one.

What provers and contexts do is the host's affair, so both are plain functions here.

A context takes its time over a job, and the wallet goes on in the meantime. A dispatch is one step
here all the same. Between the job and the message it neither reads nor writes anything of the
wallet, so whatever happens in the meantime comes to the same as if it happened afterwards; that is
proved in `Suspension`.

## Main definitions

* `Prover`, `Sandbox`: The prover of the process, and the behaviour of isolated contexts.
* `Strategy`: The choice between them.
* `Strategy.dispatch`: The proof for a job.
-/

namespace WalletTrust

/-- The prover of the wallet's own process. -/
structure Prover where
  semaphore : Prepared SemaphoreRequest → Except Error FullProof
  rln : Prepared RlnRequest → Except Error RlnProof

/-- The proof for a job, from the prover of the process. -/
def Prover.prove (p : Prover) : ProofJob → Except Error ProofOutput
  | .semaphore prepared => (p.semaphore prepared).map .semaphore
  | .rln prepared => (p.rln prepared).map .rln

/-- How isolated contexts behave. -/
structure Sandbox where
  create : Except Error Unit
  post : ProofJob → Except Error Unit
  /-- The message that comes back; none if the context is lost. -/
  answer : ProofJob → Option SandboxMessage

/-- Where proofs are computed. -/
inductive Strategy where
  | inProcess (prover : Prover)
  | isolated (sandbox : Sandbox)

instance : Inhabited Strategy :=
  ⟨.inProcess { semaphore := fun _ => .error default, rln := fun _ => .error default }⟩

namespace Strategy

/-- Whether proofs are computed in isolated contexts. -/
def isIsolated : Strategy → Bool
  | .isolated _ => true
  | .inProcess _ => false

/-- The proof that a context's message carries, or why there is none. -/
def ofMessage : Option SandboxMessage → Except Error ProofOutput
  | some (.result output) => .ok output
  | some (.error message) => .error (.prover message)
  | none => .error (.transport "isolated context closed without a result")

/-- Give a job to a context and wait for its message. -/
def converse (sandbox : Sandbox) (job : ProofJob) : Op Desktop ProofOutput := do
  Op.modify (Desktop.record (.jobPosted job))
  Op.ofExcept (sandbox.post job)
  Op.modify (Desktop.record .answerAwaited)
  Op.ofExcept (ofMessage (sandbox.answer job))

/-- The proof for a job. -/
def dispatch (strategy : Strategy) (job : ProofJob) : Op Desktop ProofOutput := do
  match strategy with
  | .inProcess prover =>
    Op.modify (Desktop.record (.proofStarted job))
    Op.ofExcept (prover.prove job)
  | .isolated sandbox =>
    Op.modify (Desktop.record .contextCreated)
    Op.ofExcept sandbox.create
    let outcome ← (converse sandbox job).attempt
    Op.modify (Desktop.record .contextTornDown)
    Op.ofExcept outcome

end Strategy

end WalletTrust

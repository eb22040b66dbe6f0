import WalletTrust.Diagnostics
import WalletTrust.Proofs.Run

/-!
# The Veil

What is left to see of a wallet when the secrets of its identities are covered.

Behind the veil every serialized identity looks the same, in the identity book, in a job that waits
to be confirmed and in one that was handed to the prover. Provers and isolated contexts may let out
what they were given, so what they do is covered too: of a strategy only its kind is left, and of
the record that it was used. Everything else is as it was.

Covering is idle work as long as it is only done to states. What makes it useful is that the wallet
goes on behind the veil as it does before it, and that is for the modules that follow. Here are the
definitions, and that whoever is shown a job or reads a log sees as much of a covered one as of any.

## Main definitions

* `Identity.veil`, `ProofJob.veil`: An identity and a job, covered.
* `HostEvent.veil?`: What is left of the record.
* `Wallet.veil`, `System.veil`: A wallet, and one with the calls that wait.
* `Run.veil`: A run in which nothing secret ever comes in.

## Theorems

* `Identity.veil_eq_iff`: Covered identities differ only in what is public.
* `IdentityBook.veil_congr`: Covered books differ only in what is public, too.
* `ProofJob.withoutIdentity_veil`: The user is shown the same of a covered job.
* `ProofJob.diagnosis_veil`, `Answer.diagnosis_veil`: So is whoever reads a log.
-/

namespace WalletTrust

/-! ## Identities -/

namespace Identity

variable {i j : Identity}

/-- An identity without its serialized form. -/
def veil (i : Identity) : Identity :=
  { i with serialized := "" }

theorem veil_eq_iff : i.veil = j.veil ↔ i.publicPart = j.publicPart := by
  simp only [veil, publicPart, Identity.mk.injEq, PublicIdentity.mk.injEq, and_true]

end Identity

namespace IdentityBook

variable {b : IdentityBook}

def veil (b : IdentityBook) : IdentityBook :=
  { b with identities := b.identities.map Identity.veil }

/-- Books are covered alike if they agree in what is public. -/
theorem veil_congr {b' : IdentityBook}
    (hpublic : b'.identities.map (·.publicPart) = b.identities.map (·.publicPart))
    (hselected : b'.selected = b.selected) (havailable : b'.available = b.available) :
    b'.veil = b.veil := by
  have hcover : Identity.veil =
      (fun p => { commitment := p.commitment, name := p.name, serialized := "" }) ∘
        Identity.publicPart := rfl
  simp only [veil, hcover, ← List.map_map, IdentityBook.mk.injEq]
  exact ⟨by rw [hpublic], hselected, havailable⟩

end IdentityBook

/-! ## Jobs -/

namespace Prepared

variable {ρ : Type}

/-- A prepared request without the serialized identity. That there is one may be seen. -/
def veil (p : Prepared ρ) : Prepared ρ :=
  { p with identity := p.identity.map fun _ => "" }

theorem diagnose_veil [Diagnostic ρ] (p : Prepared ρ) : diagnose p.veil = diagnose p := by
  cases p with
  | mk request source identity artifacts origin =>
      cases identity with
      | none => rfl
      | some secret => rfl

end Prepared

namespace ProofJob

def veil : ProofJob → ProofJob
  | .semaphore p => .semaphore p.veil
  | .rln p => .rln p.veil

theorem kind_veil (job : ProofJob) : job.veil.kind = job.kind := by
  cases job with
  | semaphore p => rfl
  | rln p => rfl

theorem withoutIdentity_veil (job : ProofJob) : job.veil.withoutIdentity = job.withoutIdentity := by
  cases job with
  | semaphore p => rfl
  | rln p => rfl

/-- The diagnostic text of the prepared request of a job. -/
def diagnosis : ProofJob → String
  | .semaphore p => diagnose p
  | .rln p => diagnose p

theorem diagnosis_veil (job : ProofJob) : job.veil.diagnosis = job.diagnosis := by
  cases job with
  | semaphore p => exact p.diagnose_veil
  | rln p => exact p.diagnose_veil

end ProofJob

theorem ProofRequest.job_veil (request : ProofRequest) (source : MerkleSource)
    (identity : Option String) (artifacts : ArtifactPaths) (origin : String) :
    (request.job source identity artifacts origin).veil =
      request.job source (identity.map fun _ => "") artifacts origin := by
  cases request with
  | semaphore request => rfl
  | rln request => rfl

/-! ## The host -/

/-- A prover that proves nothing. -/
def Prover.blank : Prover :=
  { semaphore := fun _ => .error default, rln := fun _ => .error default }

/-- Isolated contexts that cannot be made. -/
def Sandbox.blank : Sandbox :=
  { create := .error default, post := fun _ => .error default, answer := fun _ => none }

/-- A strategy of which only the kind is left. -/
def Strategy.veil : Strategy → Strategy
  | .inProcess _ => .inProcess .blank
  | .isolated _ => .isolated .blank

/-- What is left of the record: that the prover was given a job, and that a context was asked for.
What became of the context after that is up to the context. -/
def HostEvent.veil? : HostEvent → Option HostEvent
  | .proofStarted job => some (.proofStarted job.veil)
  | .jobPosted _ => none
  | .answerAwaited => none
  | .contextTornDown => none
  | e => some e

theorem HostEvent.veil?_public {e : HostEvent} (h : e.isPublic = true) : e.veil? = some e := by
  cases e with
  | proofStarted job => cases h
  | contextCreated => cases h
  | jobPosted job => cases h
  | answerAwaited => cases h
  | contextTornDown => cases h
  | _ => rfl

def Desktop.veil (d : Desktop) : Desktop :=
  { d with log := d.log.filterMap HostEvent.veil? }

def Host.veil (h : Host) : Host :=
  { h with
    desktop := h.desktop.veil
    identities := h.identities.veil
    strategy := h.strategy.veil }

def Desk.veil (d : Desk) : Desk :=
  { d with desktop := d.desktop.veil }

def SessionLock.veil (l : SessionLock) : SessionLock :=
  { l with desktop := l.desktop.veil }

/-- A wallet with the secrets of its identities covered. It has no others: the secret of the session
is not an identity's. -/
def Wallet.veil (w : Wallet) : Wallet :=
  { w with host := w.host.veil }

/-! ## Calls and runs -/

def Errand.veil : Errand → Errand
  | .proof job compute => .proof job.veil compute
  | errand => errand

theorem Errand.wrap_veil (errand : Errand) : errand.veil.wrap = errand.wrap := by
  cases errand with
  | proof job compute =>
      cases compute with
      | true =>
          funext e
          exact congrArg (Error.ofProof · e) job.kind_veil
      | false => rfl
  | asked withId => rfl
  | approval origin changeIdentity => rfl
  | identityChoice origin => rfl
  | reveal origin commitment => rfl

namespace Waiting

def veil : Waiting → Waiting
  | .window id channel ticket errand => .window id channel ticket errand.veil
  | .answer id channel errand => .answer id channel errand.veil
  | on => on

theorem wrap_veil (on : Waiting) : on.veil.wrap = on.wrap := by
  cases on with
  | window id channel ticket errand => exact errand.wrap_veil
  | answer id channel errand => exact errand.wrap_veil
  | unlockWindow ticket origin changeIdentity => rfl
  | unlock window origin changeIdentity => rfl
  | unlockSignal => rfl
  | lastWord id outcome => rfl

theorem ticket?_veil (on : Waiting) : on.veil.ticket? = on.ticket? := by
  cases on with
  | window id channel ticket errand => rfl
  | answer id channel errand => rfl
  | unlockWindow ticket origin changeIdentity => rfl
  | unlock window origin changeIdentity => rfl
  | unlockSignal => rfl
  | lastWord id outcome => rfl

theorem isReady_veil (on : Waiting) (w : Wallet) : on.veil.isReady w.veil = on.isReady w := by
  cases on with
  | window id channel ticket errand => rfl
  | answer id channel errand => rfl
  | unlockWindow ticket origin changeIdentity => rfl
  | unlock window origin changeIdentity => rfl
  | unlockSignal => rfl
  | lastWord id outcome => rfl

end Waiting

namespace Answer

def veil : Answer → Answer
  | .identity i => .identity (i.map Identity.veil)
  | .prepared job => .prepared job.veil
  | answer => answer

/-- What a log is told of an answer that has a secret. -/
def diagnosis : Answer → Option String
  | .identity i => i.map diagnose
  | .prepared job => some job.diagnosis
  | _ => none

theorem diagnosis_veil (answer : Answer) : answer.veil.diagnosis = answer.diagnosis := by
  cases answer with
  | identity i =>
      cases i with
      | none => rfl
      | some i => rfl
  | prepared job => exact congrArg some job.diagnosis_veil
  | _ => rfl

end Answer

def System.veil (s : System) : System :=
  { wallet := s.wallet.veil, waiting := s.waiting.map fun t => (t.1, t.2.veil) }

def Call.veil : Call → Call
  | .dispatch job => .dispatch job.veil
  | call => call

def HostAction.veil : HostAction → HostAction
  | .useProver _ => .useProver .blank
  | .useSandbox _ => .useSandbox .blank
  | .insertIdentity identity => .insertIdentity identity.veil
  | action => action

def Move.veil : Move → Move
  | .call c => .call c.veil
  | .goOn n => .goOn n
  | .host action => .host action.veil
  | .cancel n => .cancel n

/-- The run in which nothing secret ever comes in. -/
def Run.veil (run : Run) : Run where
  config := run.config
  host := run.host.veil
  move t := (run.move t).veil

end WalletTrust

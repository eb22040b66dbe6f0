import WalletTrust.Proofs.Adopting
import WalletTrust.Proofs.Classification
import WalletTrust.Proofs.Consent

/-!
# Proof Requests Are Screened First

What becomes of a proof request, from the call to its end.

A request is checked as a whole before anybody is asked and before anything is computed. What there
may be to object is written as a list, as for membership data, and the first objection is what the
page is told; nothing else has happened by then. The identity store is asked between two of the
checks, and it may fail. That the origin is connected and its identity is in the store is not enough
for a job, then: the request fails with what the store said.

Without an objection there is one job, and everything in it is settled. An origin that skips the
confirmation has it computed at once. For any other origin one question is put, that of the proof
system, which shows the job without the identity. From there on the call depends on the answer
alone: as long as there is none it waits, an acceptance has the very same job computed, and anything
else is passed on to the page. A window that fails to come is left out where the question had been
answered by then; `Requesters` says more about such windows.

## Main definitions

* `ArtifactConfig.Has`: A platform has the artifacts of a proof system.
* `Wallet.Holds`: The identity that an origin is connected to is in the store.
* `Wallet.objections`, `Wallet.Makes`: What there may be to object to a request, and its job.
* `Run.ComputesAt`: A stage computes the proof for a job.
* `Run.Hears`: What a call is told that goes on with its question.
* `Run.Confirms`, `Run.Screened`: What becomes of a request that is to be confirmed, and of any
  request.

## Theorems

* `Wallet.checks_checked`, `Wallet.makes_of_checks`: The checks of a request, and the job that they
  lead to.
* `Wallet.resume_confirmation`: Going on with a job that is to be confirmed.
* `Run.confirms`, `Run.screened`: All together, for every request in every run.
* `Run.storeLost_refused`: A request that only the identity store stands in the way of fails.
-/

namespace WalletTrust

/-! ## Checks and the job -/

/-- A sequence that succeeded did both of its parts. -/
theorem Except.of_bind {α β : Type} {x : Except Error α} {f : α → Except Error β} {b : β}
    (h : (x >>= f) = .ok b) : ∃ a, x = .ok a ∧ f a = .ok b := by
  cases x with
  | error e => cases h
  | ok a => exact ⟨a, rfl, h⟩

namespace ArtifactConfig

variable {c : ArtifactConfig} {kind : ProofKind} {paths : ArtifactPaths}

/-- A platform has the artifacts of a proof system: they are listed, with a circuit and a key. -/
def Has (c : ArtifactConfig) (kind : ProofKind) (paths : ArtifactPaths) : Prop :=
  c.entry kind = some paths ∧ paths.circuit ≠ "" ∧ paths.zkey ≠ ""

theorem resolve_ok_iff : c.resolve kind = .ok paths ↔ c.Has kind paths := by
  rw [resolve, Has]
  rcases c.entry kind with _ | found
  · exact iff_of_false nofun nofun
  · dsimp only
    split
    · next hfull =>
      constructor
      · rintro h
        rcases Except.ok.inj h
        exact ⟨rfl, hfull⟩
      · rintro ⟨h, _⟩
        rw [Option.some.inj h]
    · next hlacks =>
      refine iff_of_false nofun ?_
      rintro ⟨h, hfull⟩
      rcases Option.some.inj h
      exact hlacks hfull

theorem resolve_error_iff {e : Error} : c.resolve kind = .error e ↔
    Objection.unmet (∃ paths, c.Has kind paths) (.artifactsMissing kind.displayName) e := by
  rcases h : c.resolve kind with cause | paths
  -- There is one error, whether the entry is missing or incomplete.
  · have hcause : cause = .artifactsMissing kind.displayName := by
      rw [resolve] at h
      split at h
      · split at h
        · cases h
        · exact (Except.error.inj h).symm
      · exact (Except.error.inj h).symm
    rw [hcause]
    constructor
    · intro hsame
      refine ⟨?_, (Except.error.inj hsame).symm⟩
      rintro ⟨paths, hpaths⟩
      cases h.symm.trans (resolve_ok_iff.2 hpaths)
    · rintro ⟨_, rfl⟩
      rfl
  · exact iff_of_false nofun fun hunmet => hunmet.1 ⟨paths, resolve_ok_iff.1 h⟩

end ArtifactConfig

/-- The source that a request names, checked. -/
def MerkleFields.source (f : MerkleFields) : Except Error MerkleSource :=
  f.select >>= MerkleSource.validate

namespace Wallet

variable {w : Wallet} {request : ProofRequest} {origin : String} {job : ProofJob}

/-- The origin is connected, and its identity is in the store. -/
def Holds (w : Wallet) (origin : String) (identity : Identity) : Prop :=
  ∃ connection, w.connection? origin = some connection ∧
    w.host.identities.find? connection.commitment = some identity

/-- The identity store is asked for the identity of a connected origin, and fails. -/
def storeFailure (w : Wallet) (origin : String) : Objection := fun e =>
  ∃ connection, w.connection? origin = some connection ∧
    w.host.identities.lookup connection.commitment = .error e

/-- What there may be to object to a request. -/
def objections (w : Wallet) (request : ProofRequest) (origin : String) : List Objection :=
  [.unmet (origin ≠ "") .originMissing, w.storeFailure origin,
    .unmet (∃ identity, w.Holds origin identity) .identityMissing, .raised request.merkle.source,
    .unmet (∃ paths, w.config.artifacts.Has request.kind paths)
      (.artifactsMissing request.kind.displayName)]

/-- The job of a request: the request as it is, with its source, the identity of the origin, the
artifacts and the origin. -/
def Makes (w : Wallet) (request : ProofRequest) (origin : String) (job : ProofJob) : Prop :=
  ∃ identity source paths, w.Holds origin identity ∧ request.merkle.source = .ok source ∧
    w.config.artifacts.Has request.kind paths ∧
    job = request.job source (some identity.serialized) paths origin

/-- What is found of the identity of an origin. -/
def identityOf (w : Wallet) (origin : String) : Except Error (Option Identity) :=
  match w.connection? origin with
  | none => .ok none
  | some connection => w.host.identities.lookup connection.commitment

theorem connectedIdentity_apply (origin : String) (w : Wallet) :
    connectedIdentity origin w = (w.identityOf origin, w) := by
  rw [connectedIdentity, identityOf, Op.bind_ok (x := Op.get) rfl]
  cases w.connection? origin with
  | none => rfl
  | some connection => rfl

theorem identityOf_error_iff {e : Error} :
    w.identityOf origin = .error e ↔ w.storeFailure origin e := by
  rw [identityOf, storeFailure]
  cases hconnection : w.connection? origin with
  | none => exact iff_of_false nofun nofun
  | some connection =>
      constructor
      · exact fun h => ⟨connection, rfl, h⟩
      · rintro ⟨_, hsame, h⟩
        rw [Option.some.inj hsame]
        exact h

/-- What is found is the identity of the origin. -/
theorem holds_of_identityOf {found : Option Identity} (h : w.identityOf origin = .ok found)
    (identity : Identity) : found = some identity ↔ w.Holds origin identity := by
  rw [identityOf] at h
  rw [Holds]
  -- Looking up has not failed, so what it found is what the book has.
  cases hconnection : w.connection? origin with
  | none =>
      rw [hconnection] at h
      rw [← Except.ok.inj h]
      exact iff_of_false nofun nofun
  | some connection =>
      rw [hconnection] at h
      have hfound : w.host.identities.find? connection.commitment = found := by
        simp only [IdentityBook.lookup] at h
        split at h
        · exact Except.ok.inj h
        · cases h
      constructor
      · exact fun hsome => ⟨connection, rfl, hfound.trans hsome⟩
      · rintro ⟨_, hsame, hfind⟩
        rw [← Option.some.inj hsame] at hfind
        exact hfound.symm.trans hfind

/-- The checks of a request, in order, and the job that they lead to. -/
def checks (w : Wallet) (request : ProofRequest) (origin : String) : Except Error ProofJob := do
  check (origin ≠ "") .originMissing
  let found ← w.identityOf origin
  let identity ← (found.elim (.error .identityMissing) .ok : Except Error Identity)
  let source ← request.merkle.source
  let paths ← w.config.artifacts.resolve request.kind
  return request.job source (some identity.serialized) paths origin

/-- Assembling a job comes to making the checks. -/
theorem assemble_apply (request : ProofRequest) (origin : String) (w : Wallet) :
    assemble request origin w = (w.checks request origin, w) := by
  refine Prod.ext ?_ (assemble_state request origin w)
  rw [assemble, checks, check]
  by_cases horigin : origin = ""
  · rw [if_pos horigin, if_neg (by rw [horigin]; decide)]
    rfl
  rw [if_neg horigin, if_pos (decide_eq_true horigin)]
  -- Nothing on the way changes the wallet, so each step counts by its outcome.
  refine (Op.bind_still (connectedIdentity_apply origin w) _).trans ?_
  refine congrArg (w.identityOf origin >>= ·) (funext fun found => ?_)
  refine (Op.bind_still (Op.ofOption_apply _ found w) _).trans ?_
  refine congrArg (_ >>= ·) (funext fun identity => ?_)
  rw [MerkleFields.source, bind_assoc]
  refine (Op.bind_still rfl _).trans (congrArg (_ >>= ·) (funext fun raw => ?_))
  refine (Op.bind_still rfl _).trans (congrArg (_ >>= ·) (funext fun source => ?_))
  exact Op.bind_still (x := Op.ofExcept (w.config.artifacts.resolve request.kind)) rfl _

theorem found_error_iff {found : Option Identity} (h : w.identityOf origin = .ok found)
    (e : Error) :
    (found.elim (.error .identityMissing) .ok : Except Error Identity) = .error e ↔
      Objection.unmet (∃ identity, w.Holds origin identity) .identityMissing e := by
  cases found with
  | none =>
      constructor
      · intro hsame
        have hcause : (.error .identityMissing : Except Error Identity) = .error e := hsame
        refine ⟨?_, (Except.error.inj hcause).symm⟩
        rintro ⟨identity, hholds⟩
        cases (holds_of_identityOf h identity).2 hholds
      · rintro ⟨_, rfl⟩
        rfl
  | some identity =>
      exact iff_of_false nofun fun hunmet =>
        hunmet.1 ⟨identity, (holds_of_identityOf h identity).1 rfl⟩

theorem checks_checked (w : Wallet) (request : ProofRequest) (origin : String) :
    Checked (w.checks request origin) (w.objections request origin) := by
  -- One check for each objection. What one finds the later ones are about.
  refine .bind (check_error_iff decide_eq_true_iff _) fun _ _ => ?_
  refine .bind (fun _ => identityOf_error_iff) fun found hfound => ?_
  refine .bind (found_error_iff hfound) fun identity _ => ?_
  refine .bind (fun _ => Iff.rfl) fun source _ => ?_
  refine .bind (fun _ => ArtifactConfig.resolve_error_iff) fun paths _ => ?_
  exact .nil _

/-- The checks lead to the job of the request. -/
theorem makes_of_checks (h : w.checks request origin = .ok job) : w.Makes request origin job := by
  rcases Except.of_bind h with ⟨_, _, h⟩
  rcases Except.of_bind h with ⟨found, hfound, h⟩
  rcases Except.of_bind h with ⟨identity, hidentity, h⟩
  rcases Except.of_bind h with ⟨source, hsource, h⟩
  rcases Except.of_bind h with ⟨paths, hpaths, h⟩
  have hholds : w.Holds origin identity := by
    cases found with
    | none => cases hidentity
    | some other =>
        rw [← Except.ok.inj hidentity]
        exact (holds_of_identityOf hfound other).1 rfl
  exact ⟨identity, source, paths, hholds, hsource, ArtifactConfig.resolve_ok_iff.1 hpaths,
    (Except.ok.inj h).symm⟩

theorem assembled?_eq (request : ProofRequest) (origin : String) (w : Wallet) :
    w.assembled? request origin = (w.checks request origin).toOption := by
  rw [assembled?, assemble_apply]

/-- A request that there is something to object to fails with the first objection, and nothing has
happened. -/
theorem perform_generate_objected {e : Error} (h : FirstOf (w.objections request origin) e) :
    perform (.generate request origin) w = (.error (.ofProof request.kind e), w) := by
  have herror := (checks_checked w request origin e).2 h
  have hassemble : assemble request origin w = (.error e, w) := by
    rw [assemble_apply, herror]
  have hrun : requestProof request origin true w = (.error e, w) := by
    rw [requestProof, Op.bind_error hassemble]
  exact Op.mapError_of_error hrun _

/-- There is no objection to a request exactly if it has a job. -/
theorem unobjected_iff : Unobjected (w.objections request origin) ↔
    (w.assembled? request origin).isSome = true := by
  rw [← (checks_checked w request origin).passes, assembled?_eq]
  cases w.checks request origin with
  | ok job => exact iff_of_true ⟨job, rfl⟩ rfl
  | error e =>
      refine iff_of_false ?_ Bool.false_ne_true
      rintro ⟨job, h⟩
      cases h

theorem makes_of_assembled (h : w.assembled? request origin = some job) :
    w.Makes request origin job := by
  rw [assembled?_eq] at h
  rcases hchecks : w.checks request origin with e | other
  · rw [hchecks] at h
    cases h
  · rw [hchecks] at h
    rcases Option.some.inj h
    exact makes_of_checks hchecks

/-- A job that is not to be confirmed is dispatched. -/
theorem perform_generate_skips (h : w.assembled? request origin = some job)
    (hskip : w.canSkipApprove origin = true) : perform (.generate request origin) w =
      (dispatch job).mapError (.ofProof request.kind) w := by
  have hrun : requestProof request origin true w = dispatch job w := by
    rw [requestProof_assembled h, if_pos hskip]
    rfl
  rw [Op.mapError, ← hrun]
  rfl

end Wallet

/-! ## The question and its answer -/

namespace Wallet

variable {w : Wallet} {on : Waiting} {id : UInt64} {c : Nat} {errand : Errand}

/-- What a job comes to that is to be confirmed, once the call is told something. -/
def heard (id : UInt64) (c : Nat) (job : ProofJob) :
    Option (Except Error Json) → Op Wallet Progress
  | none => pure (.waiting (.answer id c (.proof job true)))
  | some (.error e) => Op.fail (.ofProof job.kind e)
  | some (.ok _) => (dispatch job).mapError (.ofProof job.kind)

/-- Going on with a job that is to be confirmed. -/
theorem resume_confirmation {job : ProofJob} (h : on.asked? = some (id, c, .proof job true))
    (w : Wallet) : resume on w =
      heard id c job (((on.failure? w).map .error).or (w.core.queue.answer? c)) (on.settled w) := by
  have hwrap : on.wrap = .ofProof job.kind := Waiting.wrap_of_asked h
  rw [resume, hwrap]
  -- A window that fails is heard like an answer, and before any other.
  rcases goOn_settled h w with ⟨failure, hfails, hrun⟩ | ⟨hopens, hrun, hanswers⟩
  · rw [hfails]
    exact Op.mapError_of_error hrun _
  rw [hopens, ← answer?_congr hanswers]
  rcases hanswer : (on.settled w).core.queue.answer? c with _ | e | data
  · rw [awaitAnswer_none hanswer] at hrun
    exact Op.mapError_of_ok hrun _
  · rw [awaitAnswer_some hanswer] at hrun
    exact Op.mapError_of_error hrun _
  · rw [awaitAnswer_some hanswer] at hrun
    rw [Op.mapError, hrun]
    rfl

theorem heard_queue (id : UInt64) (c : Nat) (job : ProofJob) (r : Option (Except Error Json))
    (w : Wallet) : (heard id c job r w).2.core.queue = w.core.queue := by
  rcases r with _ | e | data
  · rfl
  · rfl
  · rw [heard, Op.mapError_state, dispatch_core]

end Wallet

/-! ## Requests in a run -/

namespace Run

variable {run : Run} {n t : Nat} {request : ProofRequest} {origin : String} {job : ProofJob}
  {on : Waiting}

/-- A stage computes the proof for a job, from some wallet on, and the call ends with what comes of
it. -/
structure ComputesAt (run : Run) (t : Nat) (w : Wallet) (job : ProofJob) : Prop where
  wallet : run.wallet (t + 1) = (Wallet.dispatch job w).2
  outcome : run.outcome t =
    Progress.outcome? ((Wallet.dispatch job).mapError (.ofProof job.kind) w).1

/-- What a call is told that goes on with its question: the answer, or that the window failed before
there was one, or nothing yet. What it is told of a window that failed after the question was
answered is left open. -/
inductive Hears (run : Run) (t n : Nat) (on : Waiting) : Option (Except Error Json) → Prop
  | nothing (hopens : on.failure? (run.wallet t) = none)
      (h : (run.queue t).answer? (run.channel n) = none) : Hears run t n on none
  | failure {failure : Error} (hfails : on.failure? (run.wallet t) = some failure)
      (h : (run.queue t).answer? (run.channel n) = none) :
      Hears run t n on (some (.error failure))
  | answer {answer : Except Error Json} (hopens : on.failure? (run.wallet t) = none)
      (h : (run.queue t).answer? (run.channel n) = some answer) : Hears run t n on (some answer)

/-- The question whether to compute the proof for a job. -/
def confirmation (request : ProofRequest) (job : ProofJob) : Question :=
  { kind := request.kind.requestKind
    payload := job.withoutIdentity.preparedJson
    errand := .proof job true }

/-- The user accepts the question of a request after it was put and before a stage. -/
def AcceptedBefore (run : Run) (t n : Nat) (request : ProofRequest) (job : ProofJob) : Prop :=
  ∃ k, n < k ∧ k < t ∧
    run.Agrees k (run.channel n) request.kind.requestKind job.withoutIdentity.preparedJson

/-- What becomes of a request that is to be confirmed. -/
structure Confirms (run : Run) (n : Nat) (request : ProofRequest) (job : ProofJob) : Prop where
  /-- The question of the proof system is put, and it shows the job without the identity. That is
  all that is done. -/
  put : run.wallet (n + 1) = (Wallet.onDesk (Desk.submit request.kind.requestKind
    job.withoutIdentity.preparedJson) (run.wallet n)).2
  /-- The call waits, with its question in the queue, or it fails for want of a window. -/
  begins : (∃ on popup listener, run.outcome n = none ∧ run.Waits (n + 1) n on ∧
      run.queue (n + 1) = { (run.queue n).enqueue request.kind.requestKind
        job.withoutIdentity.preparedJson with popup, listener }) ∨
    ∃ failure, run.outcome n = some (.error (.ofProof request.kind failure)) ∧
      run.queue (n + 1) = ((run.queue n).enqueue request.kind.requestKind
        job.withoutIdentity.preparedJson).dropAll (run.queue n).nonce failure
  /-- No other question is put. -/
  once : ∀ t on, run.GoesOn t n on →
    (run.queue (t + 1)).nextChannel = (run.queue t).nextChannel
  waits : ∀ t on, run.GoesOn t n on → run.Hears t n on none → run.outcome t = none ∧
    (∃ next, run.Waits (t + 1) n next) ∧ run.wallet (t + 1) = on.settled (run.wallet t)
  denied : ∀ t on e, run.GoesOn t n on → run.Hears t n on (some (.error e)) →
    run.outcome t = some (.error (.ofProof request.kind e)) ∧
      run.wallet (t + 1) = on.settled (run.wallet t)
  computed : ∀ t on data, run.GoesOn t n on → run.Hears t n on (some (.ok data)) →
    run.ComputesAt t (on.settled (run.wallet t)) job
  /-- The call is told of an acceptance exactly if the user has accepted its question. -/
  accepted : ∀ t on, run.GoesOn t n on → ((∃ data, run.Hears t n on (some (.ok data))) ↔
    on.failure? (run.wallet t) = none ∧ run.AcceptedBefore t n request job)
  /-- No identity is used otherwise. -/
  only : ∀ t on use, run.GoesOn t n on → run.UsesAt t use →
    use = .job job ∧ run.AcceptedBefore t n request job

/-- What becomes of a proof request. -/
structure Screened (run : Run) (n : Nat) (request : ProofRequest) (origin : String) : Prop where
  objected : ∀ e, FirstOf ((run.wallet n).objections request origin) e →
    run.outcome n = some (.error (.ofProof request.kind e)) ∧ run.wallet (n + 1) = run.wallet n
  unobjected : Unobjected ((run.wallet n).objections request origin) →
    ∃ job, (run.wallet n).Makes request origin job ∧
      ((run.wallet n).canSkipApprove origin = true →
        run.ComputesAt n (run.wallet n) job ∧ run.queue (n + 1) = run.queue n) ∧
      ((run.wallet n).canSkipApprove origin = false → run.Confirms n request job)

theorem Hears.reply {r : Option (Except Error Json)} (h : run.Hears t n on r) :
    ((on.failure? (run.wallet t)).map .error).or ((run.queue t).answer? (run.channel n)) = r := by
  cases h with
  | nothing hopens h => rw [hopens, h]; rfl
  | failure hfails h => rw [hfails]; rfl
  | answer hopens h => rw [hopens, h]; rfl

theorem resume_heard {r : Option (Except Error Json)}
    (hasks : run.Asks n (confirmation request job)) (hgoes : run.GoesOn t n on)
    (h : run.Hears t n on r) : Wallet.resume on (run.wallet t) =
      Wallet.heard (run.queue n).nonce (run.channel n) job r (on.settled (run.wallet t)) := by
  rw [Wallet.resume_confirmation (asked_of_waits hasks hgoes.waits), ← h.reply]
  rfl

/-- A call is told of an acceptance exactly if the user has accepted its question. -/
theorem hears_accepted (hasks : run.Asks n (confirmation request job)) (hgoes : run.GoesOn t n on) :
    (∃ data, run.Hears t n on (some (.ok data))) ↔
      on.failure? (run.wallet t) = none ∧ run.AcceptedBefore t n request job := by
  constructor
  · rintro ⟨data, hhears⟩
    cases hhears with
    | answer hopens hanswer =>
        exact ⟨hopens, agreed_of_answer hasks (lt_of_waits hgoes.waits) hanswer⟩
  · rintro ⟨hopens, k, _, hkt, decision, entry, hdecides, haccept, _⟩
    have hanswer := (hdecides.answered hkt).2
    rw [haccept] at hanswer
    exact ⟨_, .answer hopens hanswer⟩

/-- A request that is to be confirmed puts one question, and its job is computed exactly if that is
accepted. -/
theorem confirms (hmove : run.move n = .call (.generate request origin))
    (hjob : (run.wallet n).assembled? request origin = some job)
    (hshown : (run.wallet n).canSkipApprove origin = false) : run.Confirms n request job := by
  have hkind := Wallet.kind_of_assembled hjob
  -- The question settles what the call may be told, and every part is one of `heard`.
  have hq : (run.wallet n).question? (.generate request origin) =
      some (confirmation request job) := by
    rw [Wallet.question?, Wallet.proofQuestion?, hshown, if_neg Bool.false_ne_true, hjob,
      Option.map_some, hkind]
    rfl
  have hasks : run.Asks n (confirmation request job) := ⟨_, hmove, hq⟩
  exact {
    put := by
      rw [wallet_call hmove, Wallet.perform_question hq, Op.mapError_state]
      exact Wallet.ask_state _ _ _ _
    begins := by
      rw [outcome_call hmove, queue, wallet_call hmove]
      rcases Wallet.perform_asks hq with ⟨on, v, popup, listener, hperform, _, hqueue, _⟩ |
        ⟨cause, v, hperform, hqueue⟩
      · have hwaits := waits_of_call hmove hperform
        rw [hperform]
        exact .inl ⟨on, popup, listener, rfl, hwaits, hqueue⟩
      · rw [hperform]
        exact .inr ⟨_, by rw [← hkind]; rfl, hqueue⟩
    once := fun t on hgoes => by
      rw [queue, wallet_goOn hgoes,
        Wallet.resume_confirmation (asked_of_waits hasks hgoes.waits), Wallet.heard_queue]
      exact (Wallet.settled_quiet on _).2
    waits := fun t on hgoes hhears => by
      have hrun := resume_heard hasks hgoes hhears
      have hwaits := waits_of_goesOn hgoes hrun
      rw [outcome_goOn hgoes, wallet_goOn hgoes, hrun]
      exact ⟨rfl, ⟨_, hwaits⟩, rfl⟩
    denied := fun t on e hgoes hhears => by
      rw [outcome_goOn hgoes, wallet_goOn hgoes, resume_heard hasks hgoes hhears, ← hkind]
      exact ⟨rfl, rfl⟩
    computed := fun t on data hgoes hhears => by
      have hrun := resume_heard hasks hgoes hhears
      exact ⟨by rw [wallet_goOn hgoes, hrun, Wallet.heard, Op.mapError_state],
        by rw [outcome_goOn hgoes, hrun, Wallet.heard]⟩
    accepted := fun t on hgoes => hears_accepted hasks hgoes
    only := fun t on use hgoes huse => by
      rcases agreedBefore_of_use hgoes huse with ⟨q, hasks', huse', _, hagreed⟩
      rcases asks_unique hasks hasks'
      exact ⟨(Option.some.inj huse').symm, hagreed⟩ }

/-- A proof request fails with the first objection to it. Without an objection its job is computed
at once, or if the user accepts it. -/
theorem screened (hmove : run.move n = .call (.generate request origin)) :
    run.Screened n request origin where
  objected e h := by
    rw [outcome_call hmove, wallet_call hmove, Wallet.perform_generate_objected h]
    exact ⟨rfl, rfl⟩
  unobjected h := by
    rcases Option.isSome_iff_exists.1 (Wallet.unobjected_iff.1 h) with ⟨job, hjob⟩
    -- With leave to skip the question it is computed at once, otherwise it is confirmed first.
    refine ⟨job, Wallet.makes_of_assembled hjob, fun hskip => ?_,
      fun hshown => confirms hmove hjob hshown⟩
    have hrun := Wallet.perform_generate_skips hjob hskip
    rw [← Wallet.kind_of_assembled hjob] at hrun
    refine ⟨⟨?_, ?_⟩, ?_⟩
    · rw [wallet_call hmove, hrun, Op.mapError_state]
    · rw [outcome_call hmove, hrun]
    · rw [queue, wallet_call hmove, hrun, Op.mapError_state, Wallet.dispatch_core]
      rfl

/-- A request that has everything it needs. -/
def membershipRequest : ProofRequest :=
  .semaphore {
    externalNullifier := "1"
    signal := "hi"
    merkle := { storageUrl := some "https://m.test/proof" } }

/-- An origin is approved, and may skip the confirmation, and it is connected. Then the identity
store may fail, and the origin requests a proof. The user confirms what there is to confirm. -/
def proofRequested (skips fails : Bool) : Run where
  config := { artifacts := {
    semaphore := some { circuit := "circuit", zkey := "key", verificationKey := "verifier" } } }
  move
    | 0 => .host (.insertIdentity
        { commitment := "111", name := "Account", serialized := "secret" })
    | 1 => .call (.setupPassword "password")
    | 2 => .call (.approve { origin := "https://a.test", canSkipApprove := skips })
    | 3 => .call (.connectIdentity "111" "https://a.test")
    | 4 => .host (.setFault .identities fails)
    | 5 => .call (.generate membershipRequest "https://a.test")
    | 6 => .call (.finalize { id := 0, status := .accept, data := none })
    | _ => .goOn 5

/-- While the identity store answers, there is nothing to object, and what is to be confirmed is
confirmed. -/
theorem screened_proofRequested :
    Unobjected (((proofRequested false false).wallet 5).objections membershipRequest
      "https://a.test") ∧
    ((proofRequested false false).wallet 5).canSkipApprove "https://a.test" = false ∧
    (proofRequested false false).Screened 5 membershipRequest "https://a.test" := by
  refine ⟨?_, ?_, screened rfl⟩
  · rw [Wallet.unobjected_iff, wallet,
      system_adopts_add (t := 1) (d := 3) rfl (by decide) rfl rfl rfl]
    decide +kernel
  · rw [wallet, system_adopts_add (t := 1) (d := 3) rfl (by decide) rfl rfl rfl]
    decide +kernel

/-- The prover of the process is given every job. -/
theorem proofStarted_of_dispatch {prover : Prover} {w : Wallet} (job : ProofJob)
    (h : w.host.strategy = .inProcess prover) : (Wallet.dispatch job w).2.host.desktop.log =
      w.host.desktop.log ++ [.proofStarted job] := by
  have hproves : Wallet.onDesktop (w.host.strategy.dispatch job) w = (prover.prove job,
      { w with host := { w.host with
          desktop := w.host.desktop.record (.proofStarted job) } }) := by
    rw [h]
    rfl
  rw [Wallet.dispatch, Op.bind_ok (x := Op.get) rfl, Op.bind_apply, hproves]
  -- Whatever the prover makes of it, it has been started.
  cases prover.prove job with
  | error e => rfl
  | ok output =>
      dsimp only
      rw [Op.bind_pure_state]
      rfl

theorem storeLost_facts :
    ((proofRequested true true).wallet 5).connection? "https://a.test" =
      some { origin := "https://a.test", commitment := "111", name := "Account" } ∧
    ((proofRequested true true).wallet 5).canSkipApprove "https://a.test" = true ∧
    ((proofRequested true true).wallet 5).host.identities = {
      identities := [{ commitment := "111", name := "Account", serialized := "secret" }]
      available := false } ∧
    ((proofRequested true true).wallet 5).host.strategy = default ∧
    ((proofRequested true true).wallet 5).config = (proofRequested true true).config := by
  rw [wallet, system_adopts_add (t := 1) (d := 3) rfl (by decide) rfl rfl rfl]
  exact ⟨by decide +kernel, by decide +kernel, by decide +kernel, rfl, rfl⟩

/-- If the identity store fails, no job is computed although all that the wallet asks of a request
is there. So it is not true that whatever has no other objection to it is computed. -/
theorem storeLost_refused : ¬ ∀ (run : Run) (n : Nat) (request : ProofRequest) (origin : String),
    run.move n = .call (.generate request origin) →
    Unobjected (((run.wallet n).objections request origin).eraseIdx 1) →
    (run.wallet n).canSkipApprove origin = true →
    ∃ job, run.ComputesAt n (run.wallet n) job := by
  intro hall
  rcases storeLost_facts with ⟨hconnection, hskip, hidentities, hstrategy, hconfig⟩
  have hmove : (proofRequested true true).move 5 =
      .call (.generate membershipRequest "https://a.test") := rfl
  have horigin : "https://a.test" ≠ "" := by decide
  have hholds : ((proofRequested true true).wallet 5).Holds "https://a.test"
      { commitment := "111", name := "Account", serialized := "secret" } :=
    ⟨_, hconnection, by rw [hidentities]; rfl⟩
  have hartifacts : ∃ paths,
      ((proofRequested true true).wallet 5).config.artifacts.Has membershipRequest.kind paths := by
    rw [hconfig]
    exact ⟨_, rfl, by decide, by decide⟩
  have hnone : Unobjected ((((proofRequested true true).wallet 5).objections membershipRequest
      "https://a.test").eraseIdx 1) := by
    intro objection hmem e he
    rw [Wallet.objections, List.eraseIdx_cons_succ, List.eraseIdx_cons_zero] at hmem
    rcases List.mem_cons.1 hmem with rfl | hmem
    · exact he.1 horigin
    rcases List.mem_cons.1 hmem with rfl | hmem
    · exact he.1 ⟨_, hholds⟩
    rcases List.mem_cons.1 hmem with rfl | hmem
    · cases he
    · rcases List.mem_singleton.1 hmem
      exact he.1 hartifacts
  have hfirst : FirstOf (((proofRequested true true).wallet 5).objections membershipRequest
      "https://a.test") (.internal "identity store unavailable") :=
    .later (fun _ h => h.1 horigin) (.here ⟨_, hconnection, by rw [hidentities]; rfl⟩)
  rcases hall _ 5 _ _ hmove hnone hskip with ⟨job, hcomputes⟩
  have hlog := proofStarted_of_dispatch job hstrategy
  -- The call has failed and left everything as it was, and a job would have left a trace.
  rw [← hcomputes.wallet, wallet_call hmove, Wallet.perform_generate_objected hfirst] at hlog
  cases List.self_eq_append_right.1 hlog

end Run

end WalletTrust

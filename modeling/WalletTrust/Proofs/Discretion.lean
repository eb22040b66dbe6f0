import WalletTrust.Proofs.Blind
import WalletTrust.Proofs.Contexts

/-!
# Calls Behind the Veil

The calls go on behind the veil as before it, whatever they wait for.

Three kinds of calls have an answer in which the secret is, or may be: those that look an identity
up, the one that prepares a job, and those that end with a proof. The first two answer behind the
veil what is left of their answer. For the last there is no telling, since the prover has the secret
and the outcome is its own. But it has the last word only: nothing that the wallet does depends on
it.

In between, a proof request waits with its job, and the job has the secret. What the user is shown
in the meantime is made of the job, and that is where a secret could get out. It does not, since the
payload is that of the job without its identity, and so the same behind the veil.

How exposed an outcome is belongs to the call and is kept while the call waits, so that it is known
which calls end in what way.

## Main definitions

* `Exposure`: How much of the secret an outcome may have.
* `Wallet.Discreet`: A part of a call that goes on behind the veil as before it.

## Theorems

* `Wallet.requestProof_discreet`: A proof request.
* `Wallet.perform_discreet`, `Wallet.resume_discreet`: Every part of every call.
* `Wallet.Discreet.bind`, `Wallet.Discreet.of_blind`: After an operation that does not notice the
  veil, what follows is given the same on both sides.
* `Wallet.ask_discreet`: A question is put with the same payload, since the secret is no part of
  any.
* `Wallet.dispatch_discreet`: The prover has the last word, and it is lost on the wallet.
* `Wallet.fulfil_discreet`, `Wallet.goOn_discreet`: Every further part of a call.
-/

namespace WalletTrust

open Op (Blind Covers)

/-! ## Exposure -/

/-- How much of the secret an outcome may have. -/
inductive Exposure where
  | nothing
  /-- The answer is an identity or a job, with its secret. -/
  | secret
  /-- The outcome is up to a prover that was given the secret. -/
  | prover

/-- What may be the outcome behind the veil, given what it is before it. -/
def Exposure.Permits : Exposure → Outcome → Outcome → Prop
  | .nothing, o, p => p = o
  | .secret, o, p => p = o.map Answer.veil
  | .prover, _, _ => True

/-- A failure is the same behind the veil, whatever the outcome may have. -/
theorem Exposure.permits_error (exposure : Exposure) (e : Error) :
    exposure.Permits (.error e) (.error e) := by
  cases exposure with
  | nothing => rfl
  | secret => rfl
  | prover => trivial

/-- Renaming the failures on both sides changes nothing about what is permitted. -/
theorem Exposure.permits_mapError {exposure : Exposure} {o p : Outcome} (h : exposure.Permits o p)
    (f : Error → Error) : exposure.Permits (o.mapError f) (p.mapError f) := by
  cases exposure with
  | nothing => exact congrArg (Except.mapError f) h
  | secret =>
      rw [Permits] at h ⊢
      rw [h]
      cases o with
      | error e => rfl
      | ok answer => rfl
  | prover => trivial

/-- The outcome of a proof request: a job, or a proof if that is computed. -/
def Exposure.ofProof (compute : Bool) : Exposure :=
  if compute then .prover else .secret

def Errand.exposure : Errand → Exposure
  | .proof _ compute => .ofProof compute
  | _ => .nothing

def Waiting.exposure : Waiting → Exposure
  | .window _ _ _ errand => errand.exposure
  | .answer _ _ errand => errand.exposure
  | _ => .nothing

/-- The core hands a secret out when the connected identity is asked for and when a job is prepared.
The other two lookups are the identity book's own, which is the host's. -/
def Call.exposure : Call → Exposure
  | .connectedIdentity _ => .secret
  | .identity _ => .secret
  | .selectedIdentity => .secret
  | .prepare _ _ => .secret
  | .generate _ _ => .prover
  | .dispatch _ => .prover
  | _ => .nothing

/-- How far a part of a call got before the veil, and how far behind it. -/
inductive Progress.Follows (exposure : Exposure) :
    Except Error Progress → Except Error Progress → Prop
  | waits (on : Waiting) (h : on.exposure = exposure) :
    Follows exposure (.ok (.waiting on)) (.ok (.waiting on.veil))
  | ends {a b : Except Error Progress} {o p : Outcome} (ha : Progress.outcome? a = some o)
    (hb : Progress.outcome? b = some p) (h : exposure.Permits o p) : Follows exposure a b

namespace Progress

theorem outcome?_mapError (a : Except Error Progress) (f : Error → Error) :
    outcome? (a.mapError f) = (outcome? a).map (Except.mapError f) := by
  rcases a with e | answer | on
  · rfl
  · rfl
  · rfl

/-- A call that waits stays as exposed as it is. -/
theorem Follows.exposure {exposure : Exposure} {on : Waiting} {b : Except Error Progress}
    (h : Follows exposure (.ok (.waiting on)) b) : on.exposure = exposure := by
  cases h with
  | waits on h => exact h
  | ends ha _ _ => cases ha

theorem Follows.error (exposure : Exposure) (e : Error) :
    Follows exposure (.error e) (.error e) :=
  .ends rfl rfl (exposure.permits_error e)

/-- Whoever is told of a failure is told the same. -/
theorem Follows.mapError {exposure : Exposure} {a b : Except Error Progress}
    (h : Follows exposure a b) (f : Error → Error) :
    Follows exposure (a.mapError f) (b.mapError f) := by
  cases h with
  | waits on h => exact .waits on h
  | ends ha hb h =>
      exact .ends (by rw [outcome?_mapError, ha]; rfl) (by rw [outcome?_mapError, hb]; rfl)
        (Exposure.permits_mapError h f)

end Progress

namespace Wallet

variable {α : Type} {exposure : Exposure}

/-- Behind the veil `y` goes on as `x` does before it. -/
def Discreet (exposure : Exposure) (x y : Op Wallet Progress) : Prop :=
  ∀ w, Progress.Follows exposure (x w).1 (y w.veil).1 ∧ (y w.veil).2 = (x w).2.veil

namespace Discreet

/-- Who fails does so before the veil and behind it. -/
theorem fail (e : Error) : Discreet exposure (Op.fail e) (Op.fail e) :=
  fun _ => ⟨.error _ e, rfl⟩

/-- A call that ends with an answer. -/
theorem finished {a b : Answer} (h : exposure.Permits (.ok a) (.ok b)) :
    Discreet exposure (pure (.finished a)) (pure (.finished b)) :=
  fun _ => ⟨.ends rfl rfl h, rfl⟩

/-- Who waits waits for the same behind the veil, with the job that it may wait for covered. -/
theorem waiting (on : Waiting) (h : on.exposure = exposure) :
    Discreet exposure (pure (.waiting on)) (pure (.waiting on.veil)) :=
  fun _ => ⟨.waits on h, rfl⟩

/-- A choice that is the same on both sides. -/
theorem ite {c : Prop} [Decidable c] {x y u v : Op Wallet Progress} (hx : Discreet exposure x u)
    (hy : Discreet exposure y v) : Discreet exposure (if c then x else y) (if c then u else v) := by
  split
  · exact hx
  · exact hy

/-- After an operation whose answer has a secret, what follows is given the covered answer behind
the veil. -/
theorem covers_bind {hide : α → α} {x y : Op Wallet α} {f g : α → Op Wallet Progress}
    (hx : Covers Cover.secrets.wallet hide x y) (h : ∀ a, Discreet exposure (f a) (g (hide a))) :
    Discreet exposure (x >>= f) (y >>= g) := by
  have hveil : Covers veil hide x y := hx
  intro w
  rcases hrun : x w with ⟨e | a, v⟩
  · rw [Op.bind_error hrun, Op.bind_error (hveil.apply_error hrun)]
    exact ⟨.error _ e, rfl⟩
  · rw [Op.bind_ok hrun, Op.bind_ok (hveil.apply_ok hrun)]
    exact h a v

/-- After an operation that does not notice the veil, what follows is given the same on both
sides. -/
theorem bind {x : Op Wallet α} {f g : α → Op Wallet Progress}
    (hx : Blind Cover.secrets.wallet x) (h : ∀ a, Discreet exposure (f a) (g a)) :
    Discreet exposure (x >>= f) (x >>= g) :=
  covers_bind (.of_blind hx) h

/-- Whoever looks at the wallet sees the veiled one behind the veil. -/
theorem get_bind {f g : Wallet → Op Wallet Progress}
    (h : ∀ w, Discreet exposure (f w) (g w.veil)) :
    Discreet exposure (Op.get >>= f) (Op.get >>= g) :=
  fun w => h w w

/-- The same renaming of failures on both sides. -/
theorem mapError {x y : Op Wallet Progress} (f : Error → Error) (h : Discreet exposure x y) :
    Discreet exposure (x.mapError f) (y.mapError f) := by
  have hanswer (x : Op Wallet Progress) (w : Wallet) :
      (x.mapError f w).1 = (x w).1.mapError f := by
    rw [Op.mapError]
    rcases x w with ⟨e | p, v⟩
    · rfl
    · rfl
  intro w
  rcases h w with ⟨hfollows, hstate⟩
  refine ⟨?_, by rw [Op.mapError_state, Op.mapError_state, hstate]⟩
  rw [hanswer, hanswer]
  exact hfollows.mapError f

/-- A blind operation, at the end of a call. -/
theorem of_blind {x : Op Wallet α} (hx : Blind Cover.secrets.wallet x) (answer : α → Answer) :
    Discreet .nothing (finish answer x) (finish answer x) := by
  unfold finish
  refine .bind hx fun _ => ?_
  exact .finished rfl

end Discreet

/-! ## Questions -/

/-- Behind the veil a question is put with the same payload, since the secret is no part of any. -/
theorem ask_discreet (kind : RequestKind) (payload : Json) (errand : Errand) :
    Discreet errand.exposure (ask kind payload errand) (ask kind payload errand.veil) := by
  unfold ask
  refine .bind (onDesk_blind (Desk.submit_blind kind payload)) fun submission => ?_
  cases submission with
  | queued id channel => exact .waiting (.answer id channel errand) rfl
  | opening id channel ticket => exact .waiting (.window id channel ticket errand) rfl

/-! ## Connecting -/

/-- A choice of an identity is asked for with the origin alone. -/
theorem chooseIdentity_discreet (origin : String) (changeIdentity : Bool) :
    Discreet .nothing (chooseIdentity origin changeIdentity)
      (chooseIdentity origin changeIdentity) := by
  unfold chooseIdentity
  refine .get_bind fun w => ?_
  have hsame : w.veil.connection? origin = w.connection? origin := rfl
  rw [hsame]
  split
  · exact .finished rfl
  · exact ask_discreet _ _ (.identityChoice origin)

/-- So is an approval. -/
theorem seekApproval_discreet (origin : String) (changeIdentity : Bool) :
    Discreet .nothing (seekApproval origin changeIdentity)
      (seekApproval origin changeIdentity) := by
  unfold seekApproval
  refine .get_bind fun _ => ?_
  refine .ite ?_ ?_
  · refine .bind (approve_blind _) fun _ => ?_
    exact chooseIdentity_discreet origin changeIdentity
  · exact ask_discreet _ _ (.approval origin changeIdentity)

theorem enterUnlocked_discreet (window : Nat) (origin : String) (changeIdentity : Bool) :
    Discreet .nothing (enterUnlocked window origin changeIdentity)
      (enterUnlocked window origin changeIdentity) := by
  unfold enterUnlocked
  refine .bind loadRegistries_blind fun _ => ?_
  refine .bind (.ignore (onDesk_blind (Desk.closeWindow_blind _))) fun _ => ?_
  refine .bind loadRegistries_blind fun _ => ?_
  exact seekApproval_discreet origin changeIdentity

theorem awaitUnlock_discreet (window : Nat) (origin : String) (changeIdentity : Bool) :
    Discreet .nothing (awaitUnlock window origin changeIdentity)
      (awaitUnlock window origin changeIdentity) := by
  unfold awaitUnlock
  refine .get_bind fun _ => ?_
  refine .ite ?_ ?_
  · exact enterUnlocked_discreet window origin changeIdentity
  · exact .waiting (.unlock window origin changeIdentity) rfl

theorem openUnlockWindow_discreet (origin : String) (changeIdentity : Bool) :
    Discreet .nothing (openUnlockWindow origin changeIdentity)
      (openUnlockWindow origin changeIdentity) := by
  unfold openUnlockWindow
  refine .bind (onDesktop_blind Desktop.openWindow_blind) fun window => ?_
  exact awaitUnlock_discreet window origin changeIdentity

/-- Nothing in the first part of a connect request has to do with a secret. -/
theorem startConnect_discreet (origin : String) (changeIdentity : Bool) :
    Discreet .nothing (startConnect origin changeIdentity)
      (startConnect origin changeIdentity) := by
  unfold startConnect
  refine .ite ?_ ?_
  · exact .fail _
  · refine .get_bind fun w => ?_
    refine .ite ?_ ?_
    · refine .bind loadRegistries_blind fun _ => ?_
      exact seekApproval_discreet origin changeIdentity
    · refine .bind (onDesktop_blind Desktop.requestWindow_blind) fun ticket => ?_
      cases ticket with
      | some ticket => exact .waiting (.unlockWindow ticket origin changeIdentity) rfl
      | none => exact openUnlockWindow_discreet origin changeIdentity

theorem connect_discreet (origin : String) (changeIdentity : Bool) :
    Discreet .nothing (connect origin changeIdentity) (connect origin changeIdentity) :=
  .mapError _ (startConnect_discreet origin changeIdentity)

/-- Nor is there anything in what follows an approval. -/
theorem approvalAnswered_discreet (origin : String) (changeIdentity : Bool)
    (outcome : Except Error Json) :
    Discreet .nothing (approvalAnswered origin changeIdentity outcome)
      (approvalAnswered origin changeIdentity outcome) := by
  unfold approvalAnswered
  refine .bind (.ofExcept _) fun _ => ?_
  refine .bind (.ofExcept _) fun _ => ?_
  refine .bind (approve_blind _) fun _ => ?_
  exact chooseIdentity_discreet origin changeIdentity

/-- An identity is connected by its commitment and its name, which are public. -/
theorem choiceAnswered_discreet (origin : String) (outcome : Except Error Json) :
    Discreet .nothing (choiceAnswered origin outcome) (choiceAnswered origin outcome) := by
  unfold choiceAnswered
  refine .bind (.ofExcept _) fun _ => ?_
  refine .bind (.ofExcept _) fun choice => ?_
  refine .bind (chosenCommitment_blind choice) fun _ => ?_
  refine .bind (connectIdentity_blind _ _) fun _ => ?_
  exact .finished rfl

/-! ## Revealing -/

/-- A commitment is revealed as the registry has it. -/
theorem reveal_discreet (origin : String) :
    Discreet .nothing (reveal origin) (reveal origin) := by
  unfold reveal
  refine .get_bind fun _ => ?_
  refine .bind (.ofOption _ _) fun connection => ?_
  exact ask_discreet _ _ (.reveal origin connection.commitment)

theorem revealAnswered_discreet (origin commitment : String) (outcome : Except Error Json) :
    Discreet .nothing (revealAnswered origin commitment outcome)
      (revealAnswered origin commitment outcome) := by
  unfold revealAnswered
  refine .bind (.ofExcept _) fun _ => ?_
  refine .bind (onDesktop_blind (Desktop.pushEvent_blind _ _)) fun _ => ?_
  exact .finished rfl

/-! ## Proofs -/

/-- Of what a strategy leaves, as much is left as what is left of the strategy leaves. -/
theorem trace_veil (strategy : Strategy) (job : ProofJob) :
    (strategy.trace job).filterMap HostEvent.veil? = strategy.veil.trace job.veil := by
  cases strategy with
  | inProcess prover => rfl
  | isolated sandbox =>
      rw [Strategy.trace]
      rcases sandbox.create with e | _
      · rfl
      · rcases sandbox.post job with e | _
        · rfl
        · rfl

/-- What a dispatch leaves behind is covered with the job that is dispatched. -/
theorem dispatch_veil (job : ProofJob) (w : Wallet) :
    (dispatch job.veil w.veil).2 = (dispatch job w).2.veil := by
  rw [dispatch_apply, dispatch_apply]
  simp only [veil, Host.veil, Desktop.veil, List.filterMap_append, trace_veil]

/-- Who does not wait has an outcome. -/
theorem outcome_of_over {x : Op Wallet Progress} (h : Op.Yields Progress.Over x) (w : Wallet) :
    ∃ o, Progress.outcome? (x w).1 = some o := by
  rcases hrun : x w with ⟨e | answer | on, v⟩
  · exact ⟨_, rfl⟩
  · exact ⟨_, rfl⟩
  · exact (h w _ v hrun).elim

/-- The prover has the last word, and it is lost on the wallet. -/
theorem dispatch_discreet (job : ProofJob) :
    Discreet .prover (dispatch job) (dispatch job.veil) := by
  intro w
  rcases outcome_of_over (dispatch_over job) w with ⟨o, ho⟩
  rcases outcome_of_over (dispatch_over job.veil) w.veil with ⟨p, hp⟩
  exact ⟨.ends ho hp trivial, dispatch_veil job w⟩

theorem confirmed_discreet (job : ProofJob) (compute : Bool) :
    Discreet (.ofProof compute) (confirmed job compute) (confirmed job.veil compute) := by
  cases compute with
  | true => exact dispatch_discreet job
  | false => exact .finished rfl

/-- The secret goes into the job, and nothing else of it depends on the secret. -/
theorem assemble_covers (request : ProofRequest) (origin : String) :
    Covers Cover.secrets.wallet ProofJob.veil (assemble request origin)
      (assemble request origin) := by
  unfold assemble
  refine .ite ?_ ?_
  · exact .fail _
  · refine .bind (connectedIdentity_covers origin) fun _ => ?_
    refine .bind (.ofOption _ _) fun identity => ?_
    refine .bind (.of_blind (.ofExcept _)) fun _ => ?_
    refine .bind (.of_blind (.ofExcept _)) fun _ => ?_
    refine .get_bind fun _ => ?_
    refine .bind (.of_blind (.ofExcept _)) fun _ => ?_
    intro w
    rw [Op.pure_apply, Op.pure_apply, Except.map, ProofRequest.job_veil]
    rfl

/-- The payload is made without the identity, and so it is the same behind the veil. The job that
waits with the question is covered. -/
theorem requestProof_discreet (request : ProofRequest) (origin : String) (compute : Bool) :
    Discreet (.ofProof compute) (requestProof request origin compute)
      (requestProof request origin compute) := by
  refine .covers_bind (assemble_covers request origin) fun job => .get_bind fun _ =>
    .ite (confirmed_discreet job compute) ?_
  -- The window shows the job without its identity, so it shows the same for a covered job.
  rw [job.kind_veil, job.withoutIdentity_veil]
  exact ask_discreet _ _ (.proof job compute)

theorem prepare_discreet (request : ProofRequest) (origin : String) :
    Discreet .secret (prepare request origin) (prepare request origin) :=
  requestProof_discreet request origin false

theorem generate_discreet (request : ProofRequest) (origin : String) :
    Discreet .prover (generate request origin) (generate request origin) :=
  .mapError _ (requestProof_discreet request origin true)

/-! ## Going on -/

/-- Whatever an answer was wanted for, it is done behind the veil with what is left of the errand.
-/
theorem fulfil_discreet (id : UInt64) (errand : Errand) (outcome : Except Error Json) :
    Discreet errand.exposure (fulfil id errand outcome) (fulfil id errand.veil outcome) := by
  cases errand with
  | asked withId =>
      cases withId with
      | true => exact .finished rfl
      | false =>
          refine .bind (.ofExcept _) fun _ => ?_
          exact .finished rfl
  | approval origin changeIdentity => exact approvalAnswered_discreet _ _ _
  | identityChoice origin => exact choiceAnswered_discreet _ _
  | reveal origin commitment => exact revealAnswered_discreet _ _ _
  | proof job compute =>
      refine .bind (.ofExcept _) fun _ => ?_
      exact confirmed_discreet job compute

theorem awaitAnswer_discreet (id : UInt64) (channel : Nat) (errand : Errand) :
    Discreet errand.exposure (awaitAnswer id channel errand)
      (awaitAnswer id channel errand.veil) := by
  unfold awaitAnswer
  refine .get_bind fun w => ?_
  have hsame : w.veil.core.queue.answer? channel = w.core.queue.answer? channel := rfl
  rw [hsame]
  cases w.core.queue.answer? channel with
  | some outcome => exact fulfil_discreet id errand outcome
  | none => exact .waiting (.answer id channel errand) rfl

/-- And so is every further part of a call. -/
theorem goOn_discreet (on : Waiting) : Discreet on.exposure (goOn on) (goOn on.veil) := by
  cases on with
  | unlockWindow ticket origin changeIdentity => exact openUnlockWindow_discreet _ _
  | unlock window origin changeIdentity => exact awaitUnlock_discreet _ _ _
  | unlockSignal =>
      refine .get_bind fun _ => ?_
      refine .ite ?_ ?_
      · exact .finished rfl
      · exact .waiting .unlockSignal rfl
  | window id channel ticket errand =>
      refine .bind (onDesk_blind (Desk.completeOpening_blind id)) fun _ => ?_
      exact awaitAnswer_discreet id channel errand
  | answer id channel errand => exact awaitAnswer_discreet id channel errand
  | lastWord id outcome => exact .finished rfl

/-- Whatever a call waits for, it goes on behind the veil as before it. -/
theorem resume_discreet (on : Waiting) : Discreet on.exposure (resume on) (resume on.veil) := by
  rw [resume, resume, on.wrap_veil]
  exact .mapError _ (goOn_discreet on)

/-! ## Calls -/

/-- A question about what the veil does not cover. -/
theorem inspect_discreet {answer : Wallet → Answer} (h : ∀ w, answer w.veil = answer w) :
    Discreet .nothing (inspect answer) (inspect answer) := by
  unfold inspect
  refine .get_bind fun w => ?_
  rw [h]
  exact .finished rfl

/-- An identity that was looked up is answered with. -/
theorem lookup_discreet {x : Op Wallet (Option Identity)}
    (hx : Covers Cover.secrets.wallet (·.map Identity.veil) x x) :
    Discreet .secret (finish .identity x) (finish .identity x) :=
  .covers_bind hx fun _ => .finished rfl

/-- Every call begins behind the veil as before it. -/
theorem perform_discreet (call : Call) :
    Discreet call.exposure (perform call) (perform call.veil) := by
  -- A call that changes something is blind to what is covered, one that looks sees nothing of it,
  -- and of the few that do see it the outcome is exposed.
  cases call with
  | setupPassword password => exact .of_blind (setupPassword_blind password) _
  | unlock password => exact .of_blind (unlock_blind password) _
  | logout => exact .of_blind logout_blind _
  | status => exact .of_blind (onLock_blind SessionLock.status_blind) _
  | setupLock password => exact .of_blind (onLock_blind (SessionLock.setupPassword_blind _)) _
  | openLock password => exact .of_blind (onLock_blind (SessionLock.unlock_blind _)) _
  | sessionState => exact .of_blind (onLock_blind SessionLock.state_blind) _
  | isAuthentic password => exact .of_blind (onLock_blind (SessionLock.isAuthentic_blind _)) _
  | awaitUnlock => exact resume_discreet .unlockSignal
  | isUnlocked => exact inspect_discreet fun _ => rfl
  | ensureUnlocked => exact .of_blind (onLock_blind SessionLock.ensureUnlocked_blind) _
  | sealText plain purpose => exact .of_blind (onLock_blind (SessionLock.sealText_blind _ _)) _
  | openText sealed purpose => exact .of_blind (onLock_blind (SessionLock.openText_blind _ _)) _
  | loadApprovals => exact .of_blind loadApprovals_blind _
  | approve entry => exact .of_blind (approve_blind entry) _
  | setPermission origin flag => exact .of_blind (setPermission_blind origin flag) _
  | unapprove origin => exact .of_blind (unapprove_blind origin) _
  | clearApprovals => exact .of_blind clearApprovals_blind _
  | isApproved origin => exact inspect_discreet fun _ => rfl
  | canSkipApprove origin => exact inspect_discreet fun _ => rfl
  | permission origin => exact inspect_discreet fun _ => rfl
  | approvedOrigins => exact inspect_discreet fun _ => rfl
  | loadConnections => exact .of_blind loadConnections_blind _
  | connectIdentity commitment origin => exact .of_blind (connectIdentity_blind _ _) _
  | disconnect target => exact .of_blind (disconnect_blind target) _
  | clearConnections => exact .of_blind clearConnections_blind _
  | connections => exact inspect_discreet fun _ => rfl
  | connection origin => exact inspect_discreet fun _ => rfl
  | isConnected origin => exact inspect_discreet fun _ => rfl
  | connectedIdentity origin => exact lookup_discreet (connectedIdentity_covers origin)
  | identity commitment => exact lookup_discreet (identity_covers commitment)
  | selectedIdentity => exact lookup_discreet selectedIdentity_covers
  | submit kind payload => exact ask_discreet kind payload (.asked true)
  | ask kind payload => exact ask_discreet kind payload (.asked false)
  | finalize request => exact .of_blind (onDesk_blind (Desk.finalize_blind request)) _
  | pendingRequests => exact inspect_discreet fun _ => rfl
  | connect origin changeIdentity => exact connect_discreet origin changeIdentity
  | reveal origin => exact reveal_discreet origin
  | revoke origin => exact .of_blind (revoke_blind origin) _
  | passIfConnected origin payload => exact inspect_discreet fun _ => rfl
  | prepare request origin => exact prepare_discreet request origin
  | generate request origin => exact generate_discreet request origin
  | dispatch job => exact dispatch_discreet job
  | backupKeys => exact inspect_discreet fun _ => rfl
  | removeComponent key => exact .of_blind (removeComponent_blind key) _
  | registerComponent component => exact .of_blind (registerComponent_blind component) _
  | downloadBackup password => exact .of_blind (downloadBackup_blind password) _
  | uploadBackup upload => exact .of_blind (uploadBackup_blind upload) _
  | downloadComponent component password => exact .of_blind (downloadComponent_blind _ _) _
  | uploadComponent component blob password => exact .of_blind (uploadComponent_blind _ _ _) _
  -- The configuration tells which strategy there is, but not what is in it.
  | config =>
      refine inspect_discreet fun w => ?_
      rcases w with ⟨config, ⟨storage, desktop, identities, strategy, entropy⟩, core⟩
      cases strategy with
      | inProcess prover => rfl
      | isolated sandbox => rfl

end Wallet

end WalletTrust

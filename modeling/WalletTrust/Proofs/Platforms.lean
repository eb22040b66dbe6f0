import WalletTrust.Proofs.Blind
import WalletTrust.Proofs.Dispatching

/-!
# Platforms

It makes no difference where proofs are computed.

The same run on two platforms, one with a prover in the process and one with isolated contexts: at
all times the two wallets are counterparts. They have the same in memory and in their slots, the
same calls wait in both, and their records agree but for what is about proofs. That needs no
assumption on what the prover and the contexts do. Their outputs are told to whoever asked, and the
wallet itself makes no further use of them, so that even platforms that disagree do not drift apart.

The reason is that a stage either has a proof computed, for the same job on both platforms, or does
not notice the platform at all. So a call ends on both platforms in the same stage. If a proof was
computed, it ends alike if the contexts answer the job with the output that the prover gives for it,
and if none was, it ends alike in any case.

## Main definitions

* `Cover.platform`: The cover of where proofs are computed.
* `Wallet.Counterpart`: Wallets that differ in that at most.
* `Run.provedBy`: The run on another platform.
* `Run.Portable`, `Run.Isolation`: What two platforms have in common, and what holds on each.

## Theorems

* `Wallet.perform_platform`, `Wallet.resume_platform`: Parts of calls that compute no proof.
* `Move.step_together`: What one stage does on two platforms.
* `Run.together`: The wallets of two platforms at all times.
* `Run.portable`, `Run.isolation`: All together.
* `Wallet.dispatched?_platform`, `Wallet.confirmed?_platform`: The same jobs are dispatched on every
  platform.
* `Wallet.perform_together`, `Wallet.resume_together`: A part of a call leaves counterparts, whether
  or not it has a proof computed.
* `Run.goesOn_provedBy`, `Run.Dispatches.provedBy`, `Run.Ends.provedBy`: The same calls go on,
  dispatch and end in the same stages.
* `Run.Ends.unproved`, `Run.Ends.agrees`: A call ends alike if no proof is computed for it, or the
  same one.
-/

namespace WalletTrust

open Op (Blind Covers)

/-- The cover of where proofs are computed, and of nothing else. -/
def Cover.platform : Cover where
  identity := id
  event := Option.guard HostEvent.isPublic
  strategy _ := default
  publicPart _ := rfl
  event_public h := if_pos h

/-- Of events that are covered nothing is left in the record. -/
theorem Cover.platform_desktop (d : Desktop) {events : List HostEvent}
    (h : events.filterMap Cover.platform.event = []) :
    Cover.platform.desktop { d with log := d.log ++ events } = Cover.platform.desktop d := by
  rw [Cover.desktop, Cover.desktop, List.filterMap_append, h, List.append_nil]

/-- Wallets that differ at most in where proofs are computed, and in what the record has of it. -/
structure Wallet.Counterpart (w w' : Wallet) : Prop where
  config : w'.config = w.config
  core : w'.core = w.core
  storage : w'.host.storage = w.host.storage
  identities : w'.host.identities = w.host.identities
  entropy : w'.host.entropy = w.host.entropy
  desktop : { w'.host.desktop with log := [] } = { w.host.desktop with log := [] }
  events : w'.host.desktop.log.filter HostEvent.isPublic =
    w.host.desktop.log.filter HostEvent.isPublic

namespace Wallet

variable {w w' : Wallet} {job : ProofJob} {on : Waiting}

/-- Wallets that are the same under the cover are counterparts. -/
theorem counterpart_of_platform (h : Cover.platform.wallet w' = Cover.platform.wallet w) :
    w.Counterpart w' := by
  have hconfig : (Cover.platform.wallet w').config = (Cover.platform.wallet w).config :=
    congrArg Wallet.config h
  have hcore : (Cover.platform.wallet w').core = (Cover.platform.wallet w).core :=
    congrArg Wallet.core h
  have hhost : Cover.platform.host w'.host = Cover.platform.host w.host := congrArg Wallet.host h
  have hstorage : (Cover.platform.host w'.host).storage = (Cover.platform.host w.host).storage :=
    congrArg Host.storage hhost
  have hentropy : (Cover.platform.host w'.host).entropy = (Cover.platform.host w.host).entropy :=
    congrArg Host.entropy hhost
  have hdesktop : Cover.platform.desktop w'.host.desktop =
      Cover.platform.desktop w.host.desktop := congrArg Host.desktop hhost
  -- Identities are not covered, so those that are kept are really the same.
  have hbook (b : IdentityBook) : Cover.platform.book b = b := by
    rw [Cover.book, Cover.platform, List.map_id]
  exact {
    config := hconfig
    core := hcore
    storage := hstorage
    identities := by
      rw [← hbook w'.host.identities, ← hbook w.host.identities]
      exact congrArg Host.identities hhost
    entropy := hentropy
    desktop := congrArg (fun d : Desktop => { d with log := [] }) hdesktop
    events := by
      rw [← List.filterMap_eq_filter]
      exact congrArg Desktop.log hdesktop }

/-! ## Parts of calls -/

/-- An identity that is looked up is the same on every platform. -/
theorem identity_platform {x : Op Wallet (Option Identity)}
    (hx : Covers Cover.platform.wallet (·.map Cover.platform.identity) x x) :
    Blind Cover.platform.wallet x :=
  hx.blind fun found => congrFun Option.map_id found

/-- So is the job of a request. -/
theorem assemble_platform (request : ProofRequest) (origin : String) :
    Blind Cover.platform.wallet (assemble request origin) := by
  unfold assemble
  refine .ite ?_ ?_
  · exact .fail _
  · refine .bind (identity_platform (connectedIdentity_covers origin)) fun _ => ?_
    refine .bind (.ofOption _ _) fun _ => ?_
    refine .bind (.ofExcept _) fun _ => ?_
    refine .bind (.ofExcept _) fun _ => ?_
    refine .get_bind (fun _ => rfl) fun _ => ?_
    refine .bind (.ofExcept _) fun _ => ?_
    exact .pure _

/-- A request has the same job on every platform. -/
theorem assembled?_platform (request : ProofRequest) (origin : String) (w : Wallet) :
    (Cover.platform.wallet w).assembled? request origin = w.assembled? request origin := by
  rw [assembled?, assembled?, assemble_platform request origin w]

/-- So a call dispatches the same job, if it dispatches one. -/
theorem dispatched?_platform (call : Call) (w : Wallet) :
    (Cover.platform.wallet w).dispatched? call = w.dispatched? call := by
  have hskip (origin : String) :
      (Cover.platform.wallet w).canSkipApprove origin = w.canSkipApprove origin := rfl
  cases call with
  | generate request origin => rw [dispatched?, dispatched?, hskip, assembled?_platform]
  | _ => rfl

/-- A proof request that dispatches no job does not notice the platform. -/
theorem requestProof_platform {request : ProofRequest} {origin : String} {compute : Bool}
    (h : compute = true → w.canSkipApprove origin = true → w.assembled? request origin = none) :
    requestProof request origin compute (Cover.platform.wallet w) =
      ((requestProof request origin compute w).1,
        Cover.platform.wallet (requestProof request origin compute w).2) := by
  have hsame : (Cover.platform.wallet w).canSkipApprove origin = w.canSkipApprove origin := rfl
  have hassemble := assemble_platform request origin w
  -- What a job is assembled from is the same on both platforms.
  rcases hjob : w.assembled? request origin with _ | job
  · rcases assembled?_eq_none hjob with ⟨e, hrun⟩
    rw [hrun] at hassemble
    rw [requestProof, Op.bind_error hrun, Op.bind_error hassemble]
  · rw [requestProof_assembled ((assembled?_platform request origin w).trans hjob),
      requestProof_assembled hjob, hsame]
    rcases hskip : w.canSkipApprove origin with _ | _
    · exact ask_blind _ _ _ w
    · -- The job itself is handed back, unless it is to be computed.
      cases compute with
      | true => cases hjob.symm.trans (h rfl hskip)
      | false => rfl

/-- A call that dispatches no job does not notice the platform, unless it asks for it. -/
theorem perform_platform {call : Call} (h : w.dispatched? call = none) (hconfig : call ≠ .config) :
    perform call (Cover.platform.wallet w) =
      ((perform call w).1, Cover.platform.wallet (perform call w).2) := by
  have hblind {α : Type} {x : Op Wallet α} (hx : Blind Cover.platform.wallet x)
      (answer : α → Answer) : finish answer x (Cover.platform.wallet w) =
        ((finish answer x w).1, Cover.platform.wallet (finish answer x w).2) :=
    Blind.bind hx (fun _ => .pure _) w
  have hresume : Blind Cover.platform.wallet (resume .unlockSignal) :=
    resume_blind fun _ _ _ => nofun
  -- Whatever does not prove is blind to the platform; only what proves looks at the strategy.
  cases call with
  | setupPassword password => exact hblind (setupPassword_blind password) _
  | unlock password => exact hblind (unlock_blind password) _
  | logout => exact hblind logout_blind _
  | status => exact hblind (onLock_blind SessionLock.status_blind) _
  | setupLock password => exact hblind (onLock_blind (SessionLock.setupPassword_blind _)) _
  | openLock password => exact hblind (onLock_blind (SessionLock.unlock_blind _)) _
  | sessionState => exact hblind (onLock_blind SessionLock.state_blind) _
  | isAuthentic password => exact hblind (onLock_blind (SessionLock.isAuthentic_blind _)) _
  | awaitUnlock => exact hresume w
  | ensureUnlocked => exact hblind (onLock_blind SessionLock.ensureUnlocked_blind) _
  | sealText plain purpose => exact hblind (onLock_blind (SessionLock.sealText_blind _ _)) _
  | openText sealed purpose => exact hblind (onLock_blind (SessionLock.openText_blind _ _)) _
  | loadApprovals => exact hblind loadApprovals_blind _
  | approve entry => exact hblind (approve_blind entry) _
  | setPermission origin flag => exact hblind (setPermission_blind origin flag) _
  | unapprove origin => exact hblind (unapprove_blind origin) _
  | clearApprovals => exact hblind clearApprovals_blind _
  | loadConnections => exact hblind loadConnections_blind _
  | connectIdentity commitment origin => exact hblind (connectIdentity_blind _ _) _
  | disconnect target => exact hblind (disconnect_blind target) _
  | clearConnections => exact hblind clearConnections_blind _
  | connectedIdentity origin =>
      exact hblind (identity_platform (connectedIdentity_covers origin)) _
  | identity commitment => exact hblind (identity_platform (identity_covers commitment)) _
  | selectedIdentity => exact hblind (identity_platform selectedIdentity_covers) _
  | submit kind payload => exact ask_blind _ _ _ w
  | ask kind payload => exact ask_blind _ _ _ w
  | finalize request => exact hblind (onDesk_blind (Desk.finalize_blind request)) _
  | connect origin changeIdentity => exact connect_blind _ _ w
  | reveal origin => exact reveal_blind origin w
  | revoke origin => exact hblind (revoke_blind origin) _
  | prepare request origin => exact requestProof_platform fun hcompute => nomatch hcompute
  | generate request origin =>
      have hrun : requestProof request origin true (Cover.platform.wallet w) = _ :=
        requestProof_platform fun _ hskip => by rwa [dispatched?, if_pos hskip] at h
      rw [perform, generate, Op.mapError, Op.mapError, hrun]
      rcases requestProof request origin true w with ⟨e | p, v⟩
      · rfl
      · rfl
  | dispatch job => cases h
  | removeComponent key => exact hblind (removeComponent_blind key) _
  | registerComponent component => exact hblind (registerComponent_blind component) _
  | downloadBackup password => exact hblind (downloadBackup_blind password) _
  | uploadBackup upload => exact hblind (uploadBackup_blind upload) _
  | downloadComponent component password => exact hblind (downloadComponent_blind _ _) _
  | uploadComponent component blob password => exact hblind (uploadComponent_blind _ _ _) _
  | config => exact absurd rfl hconfig
  | _ => rfl

/-! ## Going on -/

/-- Whether a wait is over has nothing to do with where proofs are computed. -/
theorem isReady_platform (on : Waiting) (w : Wallet) :
    on.isReady (Cover.platform.wallet w) = on.isReady w := by
  cases on with
  | _ => rfl

theorem failure?_platform (on : Waiting) (w : Wallet) :
    on.failure? (Cover.platform.wallet w) = on.failure? w := by
  have hopened : (Cover.platform.wallet w).host.desktop.opened = w.host.desktop.opened := by
    change (Cover.platform.desktop w.host.desktop).opened = w.host.desktop.opened
    rw [Desktop.opened, Desktop.opened, Desktop.openWindow_blind]
  cases on with
  | window id channel ticket errand => rw [Waiting.failure?, Waiting.failure?, hopened]
  | _ => rfl

/-- A window that comes while a call waits comes on every platform. -/
theorem settled_platform (on : Waiting) (w : Wallet) :
    on.settled (Cover.platform.wallet w) = Cover.platform.wallet (on.settled w) := by
  cases on with
  | window id channel ticket errand =>
      exact congrArg Prod.snd (onDesk_blind (Desk.completeOpening_blind id) w)
  | _ => rfl

/-- A confirmed request dispatches the same job as well. -/
theorem confirmed?_platform (on : Waiting) (w : Wallet) :
    on.dispatched? (Cover.platform.wallet w) = on.dispatched? w := by
  have hqueue : (Cover.platform.wallet w).core.queue = w.core.queue := rfl
  rw [Waiting.dispatched?, Waiting.dispatched?, failure?_platform, hqueue]

/-- A call that goes on without dispatching a job does not notice the platform. -/
theorem resume_platform (h : on.dispatched? w = none) :
    resume on (Cover.platform.wallet w) =
      ((resume on w).1, Cover.platform.wallet (resume on w).2) := by
  by_cases hproof : ∃ id channel job, on.asked? = some (id, channel, .proof job true)
  · rcases hproof with ⟨id, channel, job, hasked⟩
    have hqueue : (Cover.platform.wallet w).core.queue = w.core.queue := rfl
    rw [Waiting.dispatched?, hasked] at h
    dsimp only at h
    rw [resume_confirmation hasked, resume_confirmation hasked, failure?_platform,
      settled_platform, hqueue]
    -- Whatever the call hears, it is no acceptance.
    generalize ((on.failure? w).map .error).or (w.core.queue.answer? channel) = heard at h ⊢
    rcases heard with _ | e | data
    · rfl
    · rfl
    · cases h
  · exact resume_blind (fun id channel job hasked => hproof ⟨id, channel, job, hasked⟩) w

/-! ## Two platforms -/

/-- Of a proof, nothing is left once it is covered where it was computed. -/
theorem dispatch_platform (job : ProofJob) (w : Wallet) :
    Cover.platform.wallet (dispatch job w).2 = Cover.platform.wallet w := by
  have htrace : (w.host.strategy.trace job).filterMap Cover.platform.event = [] := by
    cases w.host.strategy with
    | inProcess prover => rfl
    | isolated sandbox =>
        rw [Strategy.trace]
        rcases sandbox.create with e | _
        · rfl
        · rcases sandbox.post job with e | _
          · rfl
          · rfl
  rw [dispatch_apply, Cover.wallet, Cover.wallet, Cover.host, Cover.host,
    Cover.platform_desktop _ htrace]

end Wallet

/-- A part of a call comes to the same on two platforms, or it ends the call on both. -/
def Progress.Together (a b : Except Error Progress) : Prop :=
  b = a ∨ (outcome? a).isSome = true ∧ (outcome? b).isSome = true

namespace Wallet

variable {w w' : Wallet}

/-- What a call dispatches is the same on both platforms. -/
theorem dispatched?_together (h : Cover.platform.wallet w' = Cover.platform.wallet w)
    (call : Call) : w'.dispatched? call = w.dispatched? call := by
  rw [← dispatched?_platform, h, dispatched?_platform]

/-- And so when it goes on. -/
theorem confirmed?_together (h : Cover.platform.wallet w' = Cover.platform.wallet w)
    (on : Waiting) : on.dispatched? w' = on.dispatched? w := by
  rw [← confirmed?_platform, h, confirmed?_platform]

/-- A call that dispatches no job does the same on both platforms, unless it asks for them. -/
theorem perform_unproved {call : Call} (h : Cover.platform.wallet w' = Cover.platform.wallet w)
    (hnone : w.dispatched? call = none) (hconfig : call ≠ .config) :
    (perform call w').1 = (perform call w).1 ∧
      Cover.platform.wallet (perform call w').2 = Cover.platform.wallet (perform call w).2 := by
  have hrun := perform_platform hnone hconfig
  have hrun' := perform_platform ((dispatched?_together h call).trans hnone) hconfig
  rw [h, hrun] at hrun'
  exact ⟨(congrArg Prod.fst hrun').symm, (congrArg Prod.snd hrun').symm⟩

/-- A call that goes on without a proof does the same on both platforms. -/
theorem resume_unproved {on : Waiting} (h : Cover.platform.wallet w' = Cover.platform.wallet w)
    (hnone : on.dispatched? w = none) : (resume on w').1 = (resume on w).1 ∧
      Cover.platform.wallet (resume on w').2 = Cover.platform.wallet (resume on w).2 := by
  have hrun := resume_platform hnone
  have hrun' := resume_platform ((confirmed?_together h on).trans hnone)
  rw [h, hrun] at hrun'
  exact ⟨(congrArg Prod.fst hrun').symm, (congrArg Prod.snd hrun').symm⟩

/-- Whether or not it has a proof computed, a call leaves counterparts. -/
theorem perform_together (call : Call)
    (h : Cover.platform.wallet w' = Cover.platform.wallet w) :
    Progress.Together (perform call w).1 (perform call w').1 ∧
      Cover.platform.wallet (perform call w').2 = Cover.platform.wallet (perform call w).2 := by
  by_cases hconfig : call = .config
  · rw [hconfig]
    exact ⟨.inr ⟨rfl, rfl⟩, h⟩
  rcases hdispatched : w.dispatched? call with _ | job
  · exact (perform_unproved h hdispatched hconfig).imp_left .inl
  · -- The proofs may differ. The call ends with them on both platforms, and the wallets do not.
    rw [perform_dispatches hdispatched,
      perform_dispatches ((dispatched?_together h call).trans hdispatched), Progress.Together,
      dispatch_outcome, dispatch_outcome, Op.mapError_state, Op.mapError_state, dispatch_platform,
      dispatch_platform]
    exact ⟨.inr ⟨rfl, rfl⟩, h⟩

/-- And so does every further part of it. -/
theorem resume_together (on : Waiting)
    (h : Cover.platform.wallet w' = Cover.platform.wallet w) :
    Progress.Together (resume on w).1 (resume on w').1 ∧
      Cover.platform.wallet (resume on w').2 = Cover.platform.wallet (resume on w).2 := by
  rcases hdispatched : on.dispatched? w with _ | job
  · exact (resume_unproved h hdispatched).imp_left .inl
  · rw [resume_dispatches hdispatched,
      resume_dispatches ((confirmed?_together h on).trans hdispatched), Progress.Together,
      dispatch_outcome, dispatch_outcome, Op.mapError_state, Op.mapError_state, dispatch_platform,
      dispatch_platform, ← settled_platform, ← settled_platform, h]
    exact ⟨.inr ⟨rfl, rfl⟩, rfl⟩

/-- What comes from outside makes the same of both; that it replaces a prover or the contexts is
covered. -/
theorem undergo_together (action : HostAction)
    (h : Cover.platform.wallet w' = Cover.platform.wallet w) :
    Cover.platform.wallet (undergo action w').2 = Cover.platform.wallet (undergo action w).2 := by
  have hprover (prover : Prover) (w : Wallet) :
      Cover.platform.wallet (undergo (.useProver prover) w).2 = Cover.platform.wallet w := by
    rcases w with ⟨config, ⟨storage, desktop, identities, strategy, entropy⟩, core⟩
    cases strategy with
    | inProcess _ => rfl
    | isolated _ => rfl
  have hsandbox (sandbox : Sandbox) (w : Wallet) :
      Cover.platform.wallet (undergo (.useSandbox sandbox) w).2 = Cover.platform.wallet w := by
    rcases w with ⟨config, ⟨storage, desktop, identities, strategy, entropy⟩, core⟩
    cases strategy with
    | inProcess _ => rfl
    | isolated _ => rfl
  have hrest (hprover : ∀ prover, action ≠ .useProver prover)
      (hsandbox : ∀ sandbox, action ≠ .useSandbox sandbox) :
      Cover.platform.wallet (undergo action w').2 =
        Cover.platform.wallet (undergo action w).2 := by
    rw [← undergo_cover _ hprover hsandbox, ← undergo_cover _ hprover hsandbox, h]
  -- A prover or a sandbox that is put in is covered; anything else looks past it.
  cases action with
  | useProver prover => rw [hprover, hprover, h]
  | useSandbox sandbox => rw [hsandbox, hsandbox, h]
  | _ => exact hrest (fun _ h => by cases h) fun _ h => by cases h

end Wallet

namespace System

variable {s s' : System} {x y : Op Wallet Progress}

/-- The same calls wait, for the same, and the wallets are counterparts. -/
structure Together (s s' : System) : Prop where
  waiting : s'.waiting = s.waiting
  wallet : Cover.platform.wallet s'.wallet = Cover.platform.wallet s.wallet

theorem Together.waiting? (h : s.Together s') (n : Nat) : s'.waiting? n = s.waiting? n := by
  rw [System.waiting?, System.waiting?, h.waiting]

theorem Together.forget (h : s.Together s') (n : Nat) : (forget n s).Together (forget n s') where
  waiting := congrArg (List.filter fun t : Nat × Waiting => t.1 ≠ n) h.waiting
  wallet := h.wallet

/-- A part of a call leaves the same calls waiting on both platforms. -/
theorem run_together (h : s.Together s') (n : Nat)
    (hparts : Progress.Together (x s.wallet).1 (y s'.wallet).1 ∧
      Cover.platform.wallet (y s'.wallet).2 = Cover.platform.wallet (x s.wallet).2) :
    (run n x s).2.Together (run n y s').2 := by
  rcases hparts with ⟨hpart, hwallet⟩
  have hafter :
      Together { s with wallet := (x s.wallet).2 } { s' with wallet := (y s'.wallet).2 } :=
    ⟨h.waiting, hwallet⟩
  have hended {o o' : Outcome} (ho : Progress.outcome? (x s.wallet).1 = some o)
      (ho' : Progress.outcome? (y s'.wallet).1 = some o') :
      (run n x s).2.Together (run n y s').2 := by
    rw [run_ended ho, run_ended ho']
    exact hafter.forget n
  -- The parts are the same, or both calls are over, if not with the same outcome.
  rcases hpart with hsame | ⟨hover, hover'⟩
  · rcases hx : (x s.wallet).1 with e | answer | on
    · have hover : Progress.outcome? (x s.wallet).1 = some (.error e) := by rw [hx]; rfl
      exact hended hover (hsame ▸ hover)
    · have hover : Progress.outcome? (x s.wallet).1 = some (.ok answer) := by rw [hx]; rfl
      exact hended hover (hsame ▸ hover)
    · rw [run_waits hx, run_waits (hsame.trans hx)]
      exact ⟨congrArg (put n on) h.waiting, hwallet⟩
  · rcases Option.isSome_iff_exists.1 hover with ⟨o, ho⟩
    rcases Option.isSome_iff_exists.1 hover' with ⟨o', ho'⟩
    exact hended ho ho'

/-- A call that is given up is given up on both platforms. -/
theorem cancel_together (h : s.Together s') (n : Nat) :
    (cancel n s).2.Together (cancel n s').2 := by
  rw [cancel, cancel, h.waiting?]
  rcases s.waiting? n with _ | on
  · exact h
  · rcases hticket : on.ticket? with _ | ticket
    · simp only [hticket]
      exact h.forget n
    · simp only [hticket]
      have hwallet := congrArg (fun w : Wallet => { w with host := { w.host with
        desktop := w.host.desktop.abandonTicket ticket } }) h.wallet
      exact ⟨congrArg (List.filter fun t : Nat × Waiting => t.1 ≠ n) h.waiting, hwallet⟩

end System

/-- Whatever happens, it does not lead the two platforms apart. -/
theorem Move.step_together {s s' : System} (h : s.Together s') (m : Move) (t : Nat) :
    (m.step t s).2.Together (m.step t s').2 := by
  -- Whoever waits does so on both platforms, and is ready on both.
  cases m with
  | call call => exact System.run_together h t (Wallet.perform_together call h.wallet)
  | goOn n =>
      rw [step, step, System.resume, System.resume, h.waiting?]
      rcases s.waiting? n with _ | on
      · exact h
      · have hready : on.isReady s'.wallet = on.isReady s.wallet := by
          rw [← Wallet.isReady_platform, h.wallet, Wallet.isReady_platform]
        dsimp only
        rw [hready]
        split
        · exact System.run_together h n (Wallet.resume_together on h.wallet)
        · exact h
  | host action => exact ⟨h.waiting, Wallet.undergo_together action h.wallet⟩
  | cancel n => exact System.cancel_together h n

namespace Run

variable {run : Run} {strategy strategy' : Strategy} {t n : Nat} {job : ProofJob}

/-- The run on another platform. -/
def provedBy (run : Run) (strategy : Strategy) : Run :=
  { run with host := { run.host with strategy } }

/-- By induction on the stages: the two runs do not drift apart. -/
theorem together (run : Run) (strategy strategy' : Strategy) (t : Nat) :
    ((run.provedBy strategy).system t).Together ((run.provedBy strategy').system t) := by
  induction t with
  | zero => exact ⟨rfl, rfl⟩
  | succ t ih => exact Move.step_together ih (run.move t) t

/-- A call goes on in the same stages on both platforms. -/
theorem goesOn_provedBy {on : Waiting} (h : (run.provedBy strategy).GoesOn t n on)
    (strategy' : Strategy) : (run.provedBy strategy').GoesOn t n on := by
  have htogether := run.together strategy strategy' t
  refine ⟨h.move, (htogether.waiting? n).trans h.waits, ?_⟩
  rw [wallet, ← Wallet.isReady_platform, htogether.wallet, Wallet.isReady_platform]
  exact h.ready

/-- The same jobs are dispatched, in the same stages and for the same calls. -/
theorem Dispatches.provedBy (h : (run.provedBy strategy).Dispatches t n job)
    (strategy' : Strategy) : (run.provedBy strategy').Dispatches t n job := by
  have hwallet := (run.together strategy strategy' t).wallet
  cases h with
  | call hmove hdispatched =>
      exact .call hmove ((Wallet.dispatched?_together hwallet _).trans hdispatched)
  | goOn hgoes hdispatched =>
      exact .goOn (goesOn_provedBy hgoes strategy')
        ((Wallet.confirmed?_together hwallet _).trans hdispatched)

/-- The same calls end in the same stages. -/
theorem Ends.provedBy {o : Outcome} (h : (run.provedBy strategy).Ends t n o)
    (strategy' : Strategy) : ∃ o', (run.provedBy strategy').Ends t n o' := by
  have hwallet := (run.together strategy strategy' t).wallet
  have hover {a b : Except Error Progress} (htogether : Progress.Together a b)
      (ha : Progress.outcome? a = some o) : ∃ o', Progress.outcome? b = some o' := by
    rcases htogether with rfl | ⟨_, hb⟩
    · exact ⟨o, ha⟩
    · exact Option.isSome_iff_exists.1 hb
  rcases ends_cases h with ⟨rfl, call, hmove, hends⟩ | ⟨on, hgoes, hends⟩
  · rcases hover (Wallet.perform_together call hwallet).1 hends with ⟨o', ho'⟩
    exact ⟨o', ends_of_call hmove ho'⟩
  · rcases hover (Wallet.resume_together on hwallet).1 hends with ⟨o', ho'⟩
    exact ⟨o', ends_of_goesOn (goesOn_provedBy hgoes strategy') ho'⟩

/-- A call for which no proof is computed ends alike. -/
theorem Ends.unproved {o : Outcome} (h : (run.provedBy strategy).Ends t n o)
    (hconfig : run.move n ≠ .call .config)
    (hnone : ∀ job, ¬ (run.provedBy strategy).Dispatches t n job) (strategy' : Strategy) :
    (run.provedBy strategy').Ends t n o := by
  have hwallet := (run.together strategy strategy' t).wallet
  rcases ends_cases h with ⟨rfl, call, hmove, hends⟩ | ⟨on, hgoes, hends⟩
  · rcases hdispatched : ((run.provedBy strategy).wallet n).dispatched? call with _ | job
    · have hsame := (Wallet.perform_unproved hwallet hdispatched fun hcall =>
        hconfig (hcall ▸ hmove)).1
      exact ends_of_call hmove ((congrArg Progress.outcome? hsame).trans hends)
    · exact (hnone job (.call hmove hdispatched)).elim
  · rcases hdispatched : on.dispatched? ((run.provedBy strategy).wallet t) with _ | job
    · have hsame := (Wallet.resume_unproved hwallet hdispatched).1
      exact ends_of_goesOn (goesOn_provedBy hgoes strategy')
        ((congrArg Progress.outcome? hsame).trans hends)
    · exact (hnone job (.goOn hgoes hdispatched)).elim

/-- A call for which a proof is computed ends alike if both platforms give the same output. -/
theorem Ends.agrees {o : Outcome} {output : ProofOutput}
    (h : (run.provedBy strategy).Ends t n o)
    (hdispatches : (run.provedBy strategy).Dispatches t n job)
    (hgives : ((run.provedBy strategy).strategy t).Gives job output)
    (hgives' : ((run.provedBy strategy').strategy t).Gives job output) :
    (run.provedBy strategy').Ends t n o := by
  have hsame : ((run.provedBy strategy).strategy t).delivers job =
      ((run.provedBy strategy').strategy t).delivers job := by
    rw [Strategy.delivers, Strategy.delivers, Strategy.gives_iff.1 hgives,
      Strategy.gives_iff.1 hgives']
  -- What is delivered decides the outcome, once it is known which call it is for.
  have hcall : ∃ call, run.move n = .call call := by
    rcases hdispatches.caller with ⟨request, origin, hmove, _⟩ | hmove
    · exact ⟨_, hmove⟩
    · exact ⟨_, hmove⟩
  rcases hcall with ⟨call, hmove⟩
  rw [(ends_once h (hdispatches.ends hmove)).2, hsame]
  exact (hdispatches.provedBy strategy').ends hmove

/-- What a run on one platform has in common with the same run on another. -/
structure Portable (run : Run) (strategy strategy' : Strategy) : Prop where
  counterpart : ∀ t,
    ((run.provedBy strategy).wallet t).Counterpart ((run.provedBy strategy').wallet t)
  waiting : ∀ t,
    ((run.provedBy strategy').system t).waiting = ((run.provedBy strategy).system t).waiting
  dispatches : ∀ t n job, (run.provedBy strategy).Dispatches t n job ↔
    (run.provedBy strategy').Dispatches t n job
  ends : ∀ t n, (∃ o, (run.provedBy strategy).Ends t n o) ↔
    ∃ o, (run.provedBy strategy').Ends t n o
  /-- A call for which no proof is computed ends alike, unless it asks for the platform. -/
  unproved : ∀ t n o, run.move n ≠ .call .config →
    (∀ job, ¬ (run.provedBy strategy).Dispatches t n job) →
    ((run.provedBy strategy).Ends t n o ↔ (run.provedBy strategy').Ends t n o)
  /-- A call for which a proof is computed ends alike if both platforms give the same output. -/
  agrees : ∀ t n job output, (run.provedBy strategy).Dispatches t n job →
    ((run.provedBy strategy).strategy t).Gives job output →
    ((run.provedBy strategy').strategy t).Gives job output →
    ∀ o, (run.provedBy strategy).Ends t n o ↔ (run.provedBy strategy').Ends t n o

theorem portable (run : Run) (strategy strategy' : Strategy) : run.Portable strategy strategy' where
  counterpart t := Wallet.counterpart_of_platform (run.together strategy strategy' t).wallet
  waiting t := (run.together strategy strategy' t).waiting
  dispatches _ _ _ := ⟨fun h => h.provedBy strategy', fun h => h.provedBy strategy⟩
  ends _ _ := ⟨fun ⟨_, h⟩ => h.provedBy strategy', fun ⟨_, h⟩ => h.provedBy strategy⟩
  unproved _ _ _ hconfig hnone :=
    ⟨fun h => h.unproved hconfig hnone strategy', fun h => h.unproved hconfig
      (fun job hdispatches => hnone job (hdispatches.provedBy strategy)) strategy⟩
  agrees _ _ _ _ hdispatches hgives hgives' _ :=
    ⟨fun h => h.agrees hdispatches hgives hgives', fun h =>
      h.agrees (hdispatches.provedBy strategy') hgives' hgives⟩

/-- What isolation comes to: nothing but that what is made is torn down. -/
structure Isolation (run : Run) : Prop where
  /-- Whatever the contexts do, the one that is made for a job is torn down. -/
  uses : ∀ (sandbox : Sandbox) (job : ProofJob) (d : Desktop), ∃ events,
    ((Strategy.isolated sandbox).dispatch job d).2 = { d with log := d.log ++ events } ∧
    sandbox.Uses job events
  /-- At all times, as many contexts were torn down as were made. -/
  tornDown : ∀ t, (run.wallet t).host.desktop.contextsTornDown =
    run.host.desktop.contextsTornDown + run.contextsMade t
  portable : ∀ prover sandbox, run.Portable (.inProcess prover) (.isolated sandbox)
  /-- A proof request is answered with a proof of the system that was requested, or not at all. -/
  answers : ∀ t n request origin answer, run.move n = .call (.generate request origin) →
    run.Ends t n (.ok answer) → ∃ output, answer = .proof output ∧ output.kind = request.kind
  proves : ∀ t n request origin job output, run.move n = .call (.generate request origin) →
    run.Dispatches t n job → (run.strategy t).Gives job output → output.kind = request.kind →
    run.Ends t n (.ok (.proof output))
  /-- A proof of the other system is not passed on. -/
  refuses : ∀ t n request origin job output, run.move n = .call (.generate request origin) →
    run.Dispatches t n job → (run.strategy t).Gives job output → output.kind ≠ request.kind →
    run.Ends t n (.error (.ofProof request.kind request.kind.unexpected))

/-- It makes no difference where proofs are computed, and no context is left behind. -/
theorem isolation (run : Run) : run.Isolation where
  uses sandbox job d := by
    rw [Strategy.dispatch_apply]
    exact ⟨_, rfl, sandbox.trace_uses job⟩
  tornDown := run.contextsTornDown_eq
  portable prover sandbox := run.portable _ _
  answers _ _ _ _ _ hmove hends := hends.kind hmove
  proves _ _ _ _ _ _ hmove hdispatches hgives hkind := by
    have hends := hdispatches.ends hmove
    rw [Strategy.delivers_of_gives hgives, hdispatches.kind hmove, if_pos hkind] at hends
    exact hends
  refuses _ _ _ _ _ _ hmove hdispatches hgives hkind := by
    have hends := hdispatches.ends hmove
    rw [Strategy.delivers_of_gives hgives, hdispatches.kind hmove, if_neg hkind] at hends
    exact hends

/-- A prover that gives the same for every job. -/
def steadyProver (proof : FullProof) (rln : RlnProof) : Prover where
  semaphore _ := .ok proof
  rln _ := .ok rln

/-- Contexts that answer every job alike. -/
def steadySandbox (output : ProofOutput) : Sandbox where
  create := .ok ()
  post _ := .ok ()
  answer _ := some (.result output)

/-- A proof request that skips the confirmation has its proof computed at once. -/
theorem proofRequested_dispatches (strategy : Strategy) : ∃ job,
    ((proofRequested true false).provedBy strategy).Dispatches 5 5 job ∧ job.kind = .semaphore := by
  have hmove : (proofRequested true false).move 5 =
      .call (.generate membershipRequest "https://a.test") := rfl
  have hjob : (((proofRequested true false).wallet 5).dispatched?
      (.generate membershipRequest "https://a.test")).isSome = true := by
    rw [wallet, system_adopts_add (t := 1) (d := 3) rfl (by decide) rfl rfl rfl]
    decide +kernel
  rcases Option.isSome_iff_exists.1 hjob with ⟨job, hjob⟩
  have hdispatches : ((proofRequested true false).provedBy default).Dispatches 5 5 job :=
    .call hmove hjob
  exact ⟨job, hdispatches.provedBy strategy, hdispatches.kind hmove⟩

theorem proofRequested_strategy (strategy : Strategy) :
    ((proofRequested true false).provedBy strategy).strategy 5 = strategy := by
  rw [Run.strategy, wallet, system_adopts_add (t := 1) (d := 3) rfl (by decide) rfl rfl rfl]
  rfl

/-- A proof request gets the same proof from a prover and from contexts that answer with it, and
none from contexts that answer with a proof of the other system. -/
theorem isolation_proofRequested :
    ((proofRequested true false).provedBy (.inProcess (steadyProver default default))).Ends 5 5
      (.ok (.proof (.semaphore default))) ∧
    ((proofRequested true false).provedBy
      (.isolated (steadySandbox (.semaphore default)))).Ends 5 5
      (.ok (.proof (.semaphore default))) ∧
    ((proofRequested true false).provedBy (.isolated (steadySandbox (.rln default)))).Ends 5 5
      (.error (.ofProof .semaphore (.transport "expected a Semaphore proof"))) := by
  have hmove (strategy : Strategy) : ((proofRequested true false).provedBy strategy).move 5 =
      .call (.generate membershipRequest "https://a.test") := rfl
  rcases proofRequested_dispatches (.inProcess (steadyProver default default)) with
    ⟨job, hdispatches, hkind⟩
  -- The prover gives the right kind of proof, and the second sandbox the wrong kind.
  have hgives : (Strategy.inProcess (steadyProver default default)).Gives job
      (.semaphore default) := by
    cases job with
    | semaphore prepared => rfl
    | rln prepared => cases hkind
  have hanswers (output : ProofOutput) :
      (Strategy.isolated (steadySandbox output)).Gives job output := ⟨rfl, rfl, rfl⟩
  have hends : ((proofRequested true false).provedBy
      (.inProcess (steadyProver default default))).Ends 5 5
      (.ok (.proof (.semaphore default))) := by
    refine (isolation _).proves 5 5 _ _ job _ (hmove _) hdispatches ?_ rfl
    rw [proofRequested_strategy]
    exact hgives
  refine ⟨hends, ?_, ?_⟩
  · refine (((isolation (proofRequested true false)).portable _ _).agrees 5 5 job
      (.semaphore default) hdispatches ?_ ?_ _).1 hends
    · rw [proofRequested_strategy]
      exact hgives
    · rw [proofRequested_strategy]
      exact hanswers _
  · refine (isolation _).refuses 5 5 _ _ job (.rln default) (hmove _) (hdispatches.provedBy _) ?_
      nofun
    rw [proofRequested_strategy]
    exact hanswers _

end Run

end WalletTrust

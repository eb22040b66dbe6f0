import WalletTrust.Proofs.Adopting
import WalletTrust.Proofs.Discretion

/-!
# Secrecy

The secrets of identities are seen by provers and by those who ask for them, and by nobody else.

Two runs are alike if the same happens in both and their identities differ in the secrets only. What
provers and isolated contexts do may differ as it likes, since they are given the secrets. Both runs
are, behind the veil, one and the same run: a run goes on behind the veil as before it, move by
move. So whatever the veil leaves is the same in both at all times. It leaves what is in memory and
in the slots, the questions with their payloads, and the record of the host but for what is about
proofs.

Nor do the calls end in different ways, but for the few that are there to hand a secret out, and
for proofs.

That is proved by one simulation. Covering a system and taking a step is taking the step and
covering the result, and the step that is taken behind the veil is that of the covered move. Two
alike runs have the same moves behind the veil, so they have the same states there. The outcomes
need a word more, since those that a prover gives are not the same behind the veil: each call is
exposed to a degree that is known when it is made, and outcomes of alike runs agree as far as that
goes.

## Main definitions

* `Move.Alike`, `Run.Alike`: Runs that differ in secrets only.
* `System.Alike`, `Exposure.Alike`: States and outcomes that cannot be told apart.

## Theorems

* `Run.veil_system`: A run goes on behind the veil as before it.
* `Run.unseen`: Runs that differ in secrets only cannot be told apart.
* `Move.step_veil`, `Run.veil_outcome`: A stage behind the veil, and the calls that it ends.
* `Run.exposed`: While a call waits, its outcome stays as exposed as it was to be.
* `Run.Alike.veil`: Behind the veil alike runs are one and the same.
* `Run.unseen_proving`: The provers are given different secrets, and that is all.
-/

namespace WalletTrust

/-! ## What comes from outside -/

/-- What comes from outside comes behind the veil without its secrets. -/
theorem Wallet.undergo_veil (action : HostAction) (w : Wallet) :
    (undergo action.veil w.veil).2 = (undergo action w).2.veil := by
  have hstrategy {f g : Host → Host} (h : ∀ host : Host, g host.veil = (f host).veil) :
      (onHost g w.veil).2 = (onHost f w).2.veil :=
    congrArg (fun host => { w with host }) (h w.host)
  have hcovered (hprover : ∀ prover, action ≠ .useProver prover)
      (hsandbox : ∀ sandbox, action ≠ .useSandbox sandbox) :
      (undergo (Cover.secrets.action action) w.veil).2 = (undergo action w).2.veil :=
    undergo_cover .secrets hprover hsandbox w
  -- Putting in a prover is the one thing that covering looks into.
  cases action with
  | useProver prover =>
      refine hstrategy fun host => ?_
      rcases host with ⟨storage, desktop, identities, strategy, entropy⟩
      cases strategy with
      | inProcess _ => rfl
      | isolated _ => rfl
  | useSandbox sandbox =>
      refine hstrategy fun host => ?_
      rcases host with ⟨storage, desktop, identities, strategy, entropy⟩
      cases strategy with
      | inProcess _ => rfl
      | isolated _ => rfl
  | _ =>
      exact hcovered (fun _ h => by cases h) fun _ h => by cases h

/-! ## Calls that wait -/

namespace System

variable {exposure : Exposure} {n : Nat} {x y : Op Wallet Progress}

/-- Putting a call among those that wait can be done before the veil or behind it. -/
theorem put_veil (n : Nat) (on : Waiting) (waiting : List (Nat × Waiting)) :
    put n on.veil (waiting.map fun t => (t.1, t.2.veil)) =
      (put n on waiting).map fun t => (t.1, t.2.veil) := by
  induction waiting with
  | nil => rfl
  | cons head rest ih =>
      rw [List.map_cons, put, put, ih]
      split
      · rfl
      · split
        · rfl
        · rfl

/-- The same calls wait behind the veil, with what they wait for covered. -/
theorem waiting?_veil (s : System) (n : Nat) :
    s.veil.waiting? n = (s.waiting? n).map Waiting.veil := by
  rw [waiting?, waiting?, veil, List.find?_map, Option.map_map, Option.map_map]
  rfl

theorem forget_veil (n : Nat) (s : System) : forget n s.veil = (forget n s).veil := by
  simp only [forget, veil, List.filter_map]
  rfl

/-- A part of a call leaves the same behind the veil as before it. -/
theorem run_veil (h : Wallet.Discreet exposure x y) (n : Nat) (s : System) :
    (run n y s.veil).2 = (run n x s).2.veil ∧
      Option.Rel exposure.Permits (run n x s).1 (run n y s.veil).1 := by
  rcases h s.wallet with ⟨hfollows, hstate⟩
  -- A part of a call leaves it waiting or ends it, and its counterpart does the same.
  generalize ha : (x s.wallet).1 = a at hfollows
  generalize hb : (y s.wallet.veil).1 = b at hfollows
  cases hfollows with
  | waits on hexposure =>
      rw [run_waits (s := s) ha, run_waits (s := s.veil) hb]
      refine ⟨?_, .none⟩
      simp only [veil, put_veil, hstate]
  | ends ho hp hpermits =>
      rw [← ha] at ho
      rw [← hb] at hp
      rw [run_ended (s := s) ho, run_ended (s := s.veil) hp]
      refine ⟨?_, .some hpermits⟩
      rw [← forget_veil]
      simp only [veil, hstate]

/-- A call that waits is ready behind the veil if it is ready before it. -/
theorem resume_cases (n : Nat) (s : System) : (s.resume n = none ∧ s.veil.resume n = none) ∨
    ∃ on, s.waiting? n = some on ∧ s.resume n = some (run n (Wallet.resume on) s) ∧
      s.veil.resume n = some (run n (Wallet.resume on.veil) s.veil) := by
  -- The counterpart is known if the call is, and ready if the call is.
  have hveiled := waiting?_veil s n
  cases hwaits : s.waiting? n with
  | none =>
      rw [hwaits] at hveiled
      refine .inl ⟨by rw [resume, hwaits], ?_⟩
      rw [resume, hveiled]
      rfl
  | some on =>
      rw [hwaits] at hveiled
      have hsame : on.veil.isReady s.veil.wallet = on.isReady s.wallet := on.isReady_veil s.wallet
      cases hready : on.isReady s.wallet with
      | false =>
          refine .inl ⟨?_, ?_⟩
          · simp only [resume, hwaits, hready, Bool.false_eq_true, if_false]
          · simp only [resume, hveiled, Option.map_some, hsame, hready, Bool.false_eq_true,
              if_false]
      | true =>
          refine .inr ⟨on, rfl, ?_, ?_⟩
          · simp only [resume, hwaits, hready, if_true]
          · simp only [resume, hveiled, Option.map_some, hsame, hready, if_true]

/-- A call is given up behind the veil as before it. -/
theorem cancel_veil (n : Nat) (s : System) : (cancel n s.veil).2 = (cancel n s).2.veil := by
  rw [cancel, cancel, waiting?_veil]
  cases hwaits : s.waiting? n with
  | none => rfl
  | some on =>
      simp only [Option.map_some, on.ticket?_veil]
      cases on.ticket? with
      | none => exact forget_veil n s
      | some ticket =>
          let desktop := s.wallet.host.desktop.abandonTicket ticket
          exact forget_veil n
            { s with wallet := { s.wallet with host := { s.wallet.host with desktop } } }

end System

/-! ## Behind the veil -/

theorem Call.exposure_veil (call : Call) : call.veil.exposure = call.exposure := by
  cases call with
  | _ => rfl

theorem Waiting.exposure_veil (on : Waiting) : on.veil.exposure = on.exposure := by
  have herrand (errand : Errand) : errand.veil.exposure = errand.exposure := by
    cases errand with
    | _ => rfl
  cases on with
  | window id channel ticket errand => exact herrand errand
  | answer id channel errand => exact herrand errand
  | _ => rfl

namespace Move

/-- How much of the secret the outcome of a stage may have. -/
def exposure (s : System) : Move → Exposure
  | .call c => c.exposure
  | .goOn n => ((s.waiting? n).map Waiting.exposure).getD .nothing
  | _ => .nothing

/-- How exposed an outcome is does not depend on a secret. -/
theorem exposure_veil (m : Move) (s : System) : m.veil.exposure s.veil = m.exposure s := by
  cases m with
  | call c => exact c.exposure_veil
  | goOn n =>
      rw [veil, exposure, exposure, s.waiting?_veil, Option.map_map]
      exact congrArg (fun f => ((s.waiting? n).map f).getD .nothing) (funext Waiting.exposure_veil)
  | host action => rfl
  | cancel n => rfl

/-- A stage leaves the same behind the veil as before it. -/
theorem step_veil (m : Move) (t : Nat) (s : System) :
    (m.veil.step t s.veil).2 = (m.step t s).2.veil ∧
      Option.Rel (m.exposure s).Permits (m.step t s).1 (m.veil.step t s.veil).1 := by
  cases m with
  | call c => exact System.run_veil (Wallet.perform_discreet c) t s
  | goOn n =>
      rcases System.resume_cases n s with ⟨hnone, hveiled⟩ | ⟨on, hwaits, hresume, hveiled⟩
      · rw [veil, step, step, hnone, hveiled]
        exact ⟨rfl, .none⟩
      · rw [veil, step, step, hresume, hveiled, exposure, hwaits]
        exact System.run_veil (Wallet.resume_discreet on) n s
  | host action =>
      have hwallet := Wallet.undergo_veil action s.wallet
      refine ⟨?_, .none⟩
      exact congrArg (fun wallet => { s.veil with wallet }) hwallet
  | cancel n => exact ⟨System.cancel_veil n s, .none⟩

end Move

namespace Run

variable {run run' : Run} {t n : Nat} {on : Waiting}

/-- A run goes on behind the veil as before it. -/
theorem veil_system (run : Run) (t : Nat) : run.veil.system t = (run.system t).veil := by
  induction t with
  | zero => rfl
  | succ t ih =>
      rw [system, system, ih]
      exact ((run.move t).step_veil t (run.system t)).1

/-- The stages of a run and of what it is behind the veil end the same calls. -/
theorem veil_outcome (run : Run) (t : Nat) :
    Option.Rel ((run.move t).exposure (run.system t)).Permits (run.outcome t)
      (run.veil.outcome t) := by
  rw [outcome, outcome, run.veil_system t]
  exact ((run.move t).step_veil t (run.system t)).2

/-- While a call waits, its outcome stays as exposed as it was to be. -/
theorem exposed (h : run.Waits t n on) :
    ∃ call, run.move n = .call call ∧ on.exposure = call.exposure := by
  induction t generalizing on with
  | zero => cases h
  | succ t ih =>
      rcases waits_stage h with hbefore | ⟨call, hmove, rfl, hpart⟩ | ⟨old, hgoes, hpart⟩
      · exact ih hbefore
      · have hfollows := (Wallet.perform_discreet call (run.wallet n)).1
        rw [hpart] at hfollows
        exact ⟨call, hmove, hfollows.exposure⟩
      · have hfollows := (Wallet.resume_discreet old (run.wallet t)).1
        rw [hpart] at hfollows
        rcases ih hgoes.waits with ⟨call, hmove, hexposure⟩
        exact ⟨call, hmove, hfollows.exposure.trans hexposure⟩

theorem Ends.exposed {o : Outcome} (h : run.Ends t n o) :
    ∃ call, run.move n = .call call ∧ (run.move t).exposure (run.system t) = call.exposure := by
  rcases h.own with ⟨⟨call, hmove⟩, rfl⟩ | hmove
  · exact ⟨call, hmove, by rw [hmove]; rfl⟩
  · rcases System.resume_cases n (run.system t) with ⟨hnone, _⟩ | ⟨on, hwaits, _⟩
    · have hout := h.outcome
      rw [Run.outcome, hmove, Move.step, hnone] at hout
      cases hout
    · rcases Run.exposed hwaits with ⟨call, hcall, hexposure⟩
      refine ⟨call, hcall, ?_⟩
      rw [hmove, Move.exposure, hwaits]
      exact hexposure

end Run

/-! ## Telling runs apart -/

/-- The secret that is used. -/
def Use.secret? : Use → Option String
  | .job j => j.identity
  | .reveal _ _ => none

namespace Errand

/-- What a log is told of the job on an errand. -/
def diagnosis? : Errand → Option String
  | .proof job _ => some job.diagnosis
  | _ => none

theorem diagnosis?_veil (errand : Errand) : errand.veil.diagnosis? = errand.diagnosis? := by
  cases errand with
  | proof job compute => exact congrArg some job.diagnosis_veil
  | _ => rfl

end Errand

namespace Waiting

def diagnosis? : Waiting → Option String
  | .window _ _ _ errand => errand.diagnosis?
  | .answer _ _ errand => errand.diagnosis?
  | _ => none

theorem diagnosis?_veil (on : Waiting) : on.veil.diagnosis? = on.diagnosis? := by
  cases on with
  | window id channel ticket errand => exact errand.diagnosis?_veil
  | answer id channel errand => exact errand.diagnosis?_veil
  | _ => rfl

end Waiting

namespace HostEvent

theorem isPublic_veil? {e f : HostEvent} (h : e.veil? = some f) : f.isPublic = e.isPublic := by
  cases e with
  | proofStarted job =>
      rcases Option.some.inj h
      rfl
  | jobPosted job => cases h
  | answerAwaited => cases h
  | contextTornDown => cases h
  | _ =>
      rcases Option.some.inj h
      rfl

/-- The veil leaves all that has nothing to do with proofs as it is. -/
theorem filter_veil (log : List HostEvent) :
    (log.filterMap veil?).filter isPublic = log.filter isPublic := by
  induction log with
  | nil => rfl
  | cons e rest ih =>
      rcases hpublic : e.isPublic with _ | _
      · rw [List.filter_cons_of_neg (ne_true_of_eq_false hpublic), List.filterMap_cons]
        rcases hveil : e.veil? with _ | f
        · exact ih
        · rw [← isPublic_veil? hveil] at hpublic
          exact (List.filter_cons_of_neg (ne_true_of_eq_false hpublic)).trans ih
      · rw [List.filterMap_cons_some (veil?_public hpublic), List.filter_cons_of_pos hpublic,
          List.filter_cons_of_pos hpublic, ih]

end HostEvent

namespace System

/-- What a log can be told of the identities, and of the jobs that wait. -/
def diagnoses (s : System) : List String :=
  s.wallet.host.identities.identities.map diagnose ++ s.waiting.filterMap (·.2.diagnosis?)

theorem diagnoses_veil (s : System) : s.veil.diagnoses = s.diagnoses := by
  have hidentities : (s.wallet.host.identities.identities.map Identity.veil).map diagnose =
      s.wallet.host.identities.identities.map diagnose := List.map_map
  have hwaiting : (s.waiting.map fun t => (t.1, t.2.veil)).filterMap (·.2.diagnosis?) =
      s.waiting.filterMap (·.2.diagnosis?) := by
    rw [List.filterMap_map]
    exact congrArg (s.waiting.filterMap ·) (funext fun t => t.2.diagnosis?_veil)
  exact congrArg₂ (· ++ ·) hidentities hwaiting

/-- States that cannot be told apart by anyone but a prover. -/
structure Alike (s s' : System) : Prop where
  /-- The session, the registries, and the questions with their payloads. -/
  core : s'.wallet.core = s.wallet.core
  storage : s'.wallet.host.storage = s.wallet.host.storage
  desktop : { s'.wallet.host.desktop with log := [] } = { s.wallet.host.desktop with log := [] }
  /-- What was announced, what pages were told, which windows were opened and closed. -/
  events : s'.wallet.host.desktop.log.filter HostEvent.isPublic =
    s.wallet.host.desktop.log.filter HostEvent.isPublic
  diagnoses : s'.diagnoses = s.diagnoses
  /-- Whatever else there is differs in secrets only. -/
  veil : s'.veil = s.veil

/-- What is the same behind the veil cannot be told apart. -/
theorem alike_of_veil {s s' : System} (h : s'.veil = s.veil) : s.Alike s' := by
  have hwallet : s'.wallet.veil = s.wallet.veil := congrArg System.wallet h
  have hdesktop : s'.wallet.host.desktop.veil = s.wallet.host.desktop.veil :=
    congrArg (·.host.desktop) hwallet
  have hcore : s'.wallet.veil.core = s.wallet.veil.core := congrArg Wallet.core hwallet
  have hstorage : s'.wallet.veil.host.storage = s.wallet.veil.host.storage :=
    congrArg (·.host.storage) hwallet
  refine ⟨hcore, hstorage, congrArg (fun d : Desktop => { d with log := [] }) hdesktop, ?_, ?_, h⟩
  · rw [← HostEvent.filter_veil, ← HostEvent.filter_veil s.wallet.host.desktop.log]
    exact congrArg (fun d : Desktop => d.log.filter HostEvent.isPublic) hdesktop
  · rw [← diagnoses_veil, ← diagnoses_veil s, h]

end System

namespace Exposure

/-- Outcomes that cannot be told apart, but for what is exposed. -/
def Alike : Exposure → Outcome → Outcome → Prop
  | .nothing, o, o' => o' = o
  | .secret, o, o' => o'.map Answer.veil = o.map Answer.veil ∧
      o'.map Answer.diagnosis = o.map Answer.diagnosis
  | .prover, _, _ => True

/-- Two outcomes that are permitted by one agree as far as their exposure goes. -/
theorem alike_of_permits {exposure : Exposure} {o o' p : Outcome} (h : exposure.Permits o p)
    (h' : exposure.Permits o' p) : exposure.Alike o o' := by
  cases exposure with
  | nothing => exact h'.symm.trans h
  | secret =>
      have hveil : o'.map Answer.veil = o.map Answer.veil := h'.symm.trans h
      have hdiagnosis (o : Outcome) :
          (o.map Answer.veil).map Answer.diagnosis = o.map Answer.diagnosis := by
        cases o with
        | error e => rfl
        | ok answer => exact congrArg Except.ok answer.diagnosis_veil
      exact ⟨hveil, by rw [← hdiagnosis o', ← hdiagnosis o, hveil]⟩
  | prover => trivial

end Exposure

/-- Moves that differ in secrets only, or in what provers do. -/
inductive Move.Alike : Move → Move → Prop
  | same (m : Move) : Alike m m
  | insertIdentity {i j : Identity} (h : j.publicPart = i.publicPart) :
    Alike (.host (.insertIdentity i)) (.host (.insertIdentity j))
  | useProver (p q : Prover) : Alike (.host (.useProver p)) (.host (.useProver q))
  | useSandbox (p q : Sandbox) : Alike (.host (.useSandbox p)) (.host (.useSandbox q))
  | dispatch {i j : ProofJob} (h : j.veil = i.veil) :
    Alike (.call (.dispatch i)) (.call (.dispatch j))

theorem Move.Alike.veil {m m' : Move} (h : m.Alike m') : m'.veil = m.veil := by
  cases h with
  | same m => rfl
  | insertIdentity h =>
      exact congrArg (fun i => Move.host (.insertIdentity i)) (Identity.veil_eq_iff.2 h)
  | useProver p q => rfl
  | useSandbox p q => rfl
  | dispatch h => exact congrArg (fun job => Move.call (.dispatch job)) h

/-- Alike moves have to do with the same call. -/
theorem Move.Alike.own {m m' : Move} (h : m.Alike m') (t n : Nat) :
    (((∃ call, m = .call call) ∧ n = t) ∨ m = .goOn n) ↔
      ((∃ call, m' = .call call) ∧ n = t) ∨ m' = .goOn n := by
  cases h with
  | same m => exact Iff.rfl
  | insertIdentity h => simp only [reduceCtorEq, exists_false, false_and, or_false]
  | useProver p q => simp only [reduceCtorEq, exists_false, false_and, or_false]
  | useSandbox p q => simp only [reduceCtorEq, exists_false, false_and, or_false]
  | dispatch h => simp only [Move.call.injEq, exists_eq', true_and, reduceCtorEq, or_false]

namespace Run

/-- Runs in which the same happens, with the same identities but for their secrets, and with any
provers of the same kind. -/
structure Alike (run run' : Run) : Prop where
  config : run'.config = run.config
  storage : run'.host.storage = run.host.storage
  desktop : run'.host.desktop = run.host.desktop
  entropy : run'.host.entropy = run.host.entropy
  identities : run'.host.identities.identities.map (·.publicPart) =
    run.host.identities.identities.map (·.publicPart)
  selected : run'.host.identities.selected = run.host.identities.selected
  available : run'.host.identities.available = run.host.identities.available
  isolated : run'.host.strategy.isIsolated = run.host.strategy.isIsolated
  moves : ∀ t, (run.move t).Alike (run'.move t)

variable {run run' : Run}

/-- Behind the veil they are one and the same run. -/
theorem Alike.veil (h : run.Alike run') : run'.veil = run.veil := by
  have hstrategy : run'.host.strategy.veil = run.host.strategy.veil := by
    have hisolated := h.isolated
    cases hrun : run.host.strategy with
    | _ =>
        rw [hrun] at hisolated
        cases hrun' : run'.host.strategy with
        | _ =>
            rw [hrun'] at hisolated
            first | rfl | cases hisolated
  have hhost : run'.host.veil = run.host.veil := by
    simp only [Host.veil, h.storage, h.desktop, h.entropy, hstrategy,
      IdentityBook.veil_congr h.identities h.selected h.available]
  simp only [Run.veil, h.config, hhost, Run.mk.injEq, true_and]
  exact funext fun t => (h.moves t).veil

/-- Runs that differ in secrets only cannot be told apart: not by their states, not by which calls
end, and not by the outcomes of calls that have no secret to tell. -/
theorem unseen (h : run.Alike run') (t : Nat) : (run.system t).Alike (run'.system t) ∧
    (∀ n, (∃ o, run.Ends t n o) ↔ ∃ o, run'.Ends t n o) ∧
    ∀ n call o o', run.move n = .call call → run.Ends t n o → run'.Ends t n o' →
      call.exposure.Alike o o' := by
  -- Both runs are the same run under the veil.
  have hsystem : (run'.system t).veil = (run.system t).veil := by
    rw [← run'.veil_system, ← run.veil_system, h.veil]
  have hexposure : (run'.move t).exposure (run'.system t) =
      (run.move t).exposure (run.system t) := by
    rw [← Move.exposure_veil, ← (run.move t).exposure_veil, hsystem, (h.moves t).veil]
  have hrun := run.veil_outcome t
  have hrun' := run'.veil_outcome t
  rw [h.veil, hexposure] at hrun'
  refine ⟨System.alike_of_veil hsystem, fun n => ?_, fun n call o o' hmove hends hends' => ?_⟩
  -- Whether a call ends is to be seen under the veil.
  · have hover : (∃ o, run.outcome t = some o) ↔ ∃ o, run'.outcome t = some o := by
      generalize run.outcome t = a at hrun ⊢
      generalize run'.outcome t = b at hrun' ⊢
      generalize run.veil.outcome t = p at hrun hrun'
      cases hrun with
      | none =>
          cases hrun' with
          | none => simp only [reduceCtorEq, exists_false]
      | some h =>
          cases hrun' with
          | some h' => simp only [Option.some.injEq, exists_eq']
    constructor
    · rintro ⟨o, houtcome, hown⟩
      rcases hover.1 ⟨o, houtcome⟩ with ⟨o', houtcome'⟩
      exact ⟨o', houtcome', ((h.moves t).own t n).1 hown⟩
    · rintro ⟨o', houtcome', hown⟩
      rcases hover.2 ⟨o', houtcome'⟩ with ⟨o, houtcome⟩
      exact ⟨o, houtcome, ((h.moves t).own t n).2 hown⟩
  -- Either outcome is permitted by the one under the veil.
  · rcases hends.exposed with ⟨c, hc, hsame⟩
    rcases Move.call.inj (hc.symm.trans hmove)
    rw [hends.outcome] at hrun
    rw [hends'.outcome] at hrun'
    rw [← hsame]
    generalize run.veil.outcome t = p at hrun hrun'
    cases hrun with
    | some hpermits =>
        cases hrun' with
        | some hpermits' => exact Exposure.alike_of_permits hpermits hpermits'

/-- A proof is asked for with an identity of some secret, confirmed and computed. -/
def proving (secret : String) : Run where
  config :=
    { artifacts := { semaphore := some { circuit := "c", zkey := "z", verificationKey := "v" } } }
  move
    | 0 => .host (.insertIdentity { commitment := "111", name := "Account", serialized := secret })
    | 1 => .call (.setupPassword "password")
    | 2 => .call (.connectIdentity "111" "https://a.test")
    | 3 => .call (.generate (.semaphore {
        externalNullifier := "1"
        signal := "2"
        merkle := { storageUrl := some "https://m.test" } }) "https://a.test")
    | 4 => .call (.finalize { id := 0, status := .accept })
    | _ => .goOn 3

theorem proving_adopts (secret : String) : (proving secret).system 6 =
    (proving secret).after 2 (System.run 1 (Wallet.finish .flag (Wallet.adopt "password"))
      ((proving secret).system 1)).2 4 :=
  system_adopts_add rfl (by decide) rfl rfl rfl 4

/-- The provers are given different secrets, and that is all. -/
theorem unseen_proving : (proving "one").Alike (proving "two") ∧
    ((proving "one").wallet 6).uses.map Use.secret? = [some "one"] ∧
    ((proving "two").wallet 6).uses.map Use.secret? = [some "two"] ∧
    ((proving "one").system 6).Alike ((proving "two").system 6) := by
  -- Only the first move, which puts in the identity, is not the same in both.
  have halike : (proving "one").Alike (proving "two") := by
    refine ⟨rfl, rfl, rfl, rfl, rfl, rfl, rfl, rfl, fun t => ?_⟩
    rcases t with _ | _ | _ | _ | _ | t
    · exact .insertIdentity rfl
    · exact .same _
    · exact .same _
    · exact .same _
    · exact .same _
    · exact .same _
  refine ⟨halike, ?_, ?_, (unseen halike 6).1⟩
  · rw [wallet, proving_adopts]
    decide +kernel
  · rw [wallet, proving_adopts]
    decide +kernel

end Run

end WalletTrust

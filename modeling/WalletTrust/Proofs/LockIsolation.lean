import WalletTrust.Proofs.Answers
import WalletTrust.Proofs.Gate
import WalletTrust.Proofs.Sealing

/-!
# Isolation by the Lock

What the lock of a session isolates, throughout a run.

A stage either leaves the secret alone or does nothing to the registries but load them: no call both
unlocks and edits. So a text of a registry that changes in a stage changes with the secret held from
before the stage until after it.

There is one exception, and it is none of the lock. The slots are named by whoever sets up the
wallet, and nothing keeps the slot of the verifier from having the name of a registry's. The
verifier is written before there is a secret, and then it is written there. The run `sharedSlot`
does that.

The proof does not follow the calls. It looks at the deeds of a stage: if they are deeds on the
session then no registry is edited, and if they are edits then the session is the same before and
after, and has the secret. A connect request that begins while the session is locked is followed
from wait to wait, and every one of its waits is either at the gate or beyond it.

## Main definitions

* `Run.PassesGate`: A connect request comes past the gate.
* `Run.LockIsolated`: What there is to say about a run and its lock.

## Theorems

* `Run.lockfast`: Nothing is ever loaded without the secret.
* `Run.lock_isolated`: The lock isolates, in every run.
* `Run.sharedSlot_written`: A registry's slot is written to without the secret.
* `Call.deeds_ofSession`: A call has deeds on the session or deeds on the registries, and never
  both.
* `Run.holdsSecret_of_acts`: A stage that leaves the secret alone changes what is kept only with the
  secret.
* `Run.gated_or_passed`, `Run.passed_of_ends`: A connect request comes to its end by the gate.
-/

namespace WalletTrust

/-- A call has deeds on the session or deeds on the registries, and never both. -/
theorem Call.deeds_ofSession {w : Wallet} {call : Call} {d e : Deed} (hd : call.Deeds w d)
    (he : call.Deeds w e) (h : d.OfSession) : e.OfSession := by
  -- A deed on the session says which call it is, and those calls edit no registry.
  have hcall : (∃ p, call = .unlock p ∨ call = .openLock p) ∨
      (∃ p, call = .setupPassword p ∨ call = .setupLock p) ∨ call = .logout := by
    cases d with
    | approvals => exact h.elim
    | connections => exact h.elim
    | unlock p => exact .inl ⟨p, hd.1⟩
    | setUp p => exact .inr (.inl ⟨p, hd.1⟩)
    | lock => exact .inr (.inr hd)
  cases e with
  | approvals =>
      rcases hcall with ⟨p, rfl | rfl⟩ | ⟨p, rfl | rfl⟩ | rfl
      all_goals exact he.elim
  | connections =>
      rcases hcall with ⟨p, rfl | rfl⟩ | ⟨p, rfl | rfl⟩ | rfl
      all_goals exact he.elim
  | _ => trivial

namespace Run

variable {run : Run} {t u n : Nat} {on : Waiting} {name origin : String} {changeIdentity : Bool}

/-- Before a stage, the session is locked. -/
def LockedAt (run : Run) (t : Nat) : Prop :=
  (run.wallet t).core.session.secret = none

/-- Before and after a stage, the secret is held. -/
def HoldsSecret (run : Run) (t : Nat) : Prop :=
  ∃ key, (run.wallet t).core.session.secret = some key ∧
    (run.wallet (t + 1)).core.session.secret = some key

/-- A connect request comes past the gate in a stage, where it finds the wallet as `v`. -/
def PassesGate (run : Run) (t n : Nat) (v : Wallet) : Prop :=
  ∃ on, run.GoesOn t n on ∧ on.gated?.isSome ∧ Wallet.gate on (run.wallet t) = (.ok none, v)

/-- A stage ends a call with a failure and leaves the storage as it is. -/
def RefusedAt (run : Run) (t n : Nat) : Prop :=
  (∃ e, run.Ends t n (.error e)) ∧
    (run.wallet (t + 1)).host.storage = (run.wallet t).host.storage

/-- What there is to say about a run and its lock. -/
structure LockIsolated (run : Run) : Prop where
  /-- While the session is locked nothing is loaded, and nobody is trusted. -/
  unloaded : ∀ t, run.LockedAt t → (run.wallet t).Locked ∧ (run.wallet t).TrustsNobody
  /-- What is kept of a registry changes with the secret held, or from outside, or where its slot
  is that of the verifier and the password is set up. -/
  kept : ∀ t name, name = run.config.storageKeys.approvals ∨
    name = run.config.storageKeys.connections →
    (run.wallet (t + 1)).kept name ≠ (run.wallet t).kept name →
    run.HoldsSecret t ∨ run.WrittenAt t name ∨
      (name = run.config.storageKeys.password ∧ ∃ password, run.SetsUp t password)
  /-- A call that mutates a registry is refused while the session is locked. -/
  calls : ∀ t call, run.move t = .call call → call.Mutates (run.wallet t) → run.LockedAt t →
    run.RefusedAt t t
  /-- So is the part of a flow that does. -/
  flows : ∀ t n on, run.GoesOn t n on → on.Mutates (run.wallet t) → run.LockedAt t →
    run.RefusedAt t n
  /-- A connect request that found the session locked ends well or waits for an answer only once
  it has come past the gate. -/
  gated : ∀ n origin changeIdentity, run.move n = .call (.connect origin changeIdentity) →
    run.LockedAt n →
    (∀ t on, run.Waits t n on → on.gated?.isSome ∨ ∃ u < t, ∃ v, run.PassesGate u n v) ∧
    ∀ t answer, run.Ends t n (.ok answer) → ∃ u ≤ t, ∃ v, run.PassesGate u n v
  /-- Where it comes past the gate the session is unlocked and the registries are loaded. -/
  passed : ∀ t n v, run.PassesGate t n v → v.core.session.isUnlocked = true ∧
    v.core.approvals.isSome ∧ v.core.connections.isSome

/-! ## What is loaded and what is kept -/

/-- Nothing is ever loaded without the secret. -/
theorem lockfast (run : Run) (t : Nat) : (run.wallet t).Lockfast :=
  always ⟨rfl, fun _ => ⟨rfl, rfl, rfl⟩⟩ (fun _ _ => Wallet.Acts.lockfast)
    (fun _ => Wallet.Outside.lockfast) t

/-- A stage that leaves the secret alone changes what is kept only with the secret. -/
theorem holdsSecret_of_acts {deeds : Deed → Prop} (hdeeds : ∀ d, deeds d → ¬ d.OfSession)
    (hacts : Wallet.Acts deeds (run.wallet t) (run.wallet (t + 1)))
    (hchanged : (run.wallet (t + 1)).kept name ≠ (run.wallet t).kept name) : run.HoldsSecret t := by
  rcases hsecret : (run.wallet t).core.session.secret with _ | key
  · exact absurd (hacts.kept_of_locked hdeeds hsecret name) hchanged
  · refine ⟨key, hsecret, ?_⟩
    rw [Wallet.Acts.session hacts hdeeds, hsecret]

theorem kept_changes (hchanged : (run.wallet (t + 1)).kept name ≠ (run.wallet t).kept name) :
    run.HoldsSecret t ∨ run.WrittenAt t name ∨
      (name = run.config.storageKeys.password ∧ ∃ password, run.SetsUp t password) := by
  -- A text changes because a call writes it, an answer does, or somebody from outside.
  rcases run.deeds_stage t with ⟨call, hmove, hacts⟩ | ⟨n, on, hgoes, hacts⟩ | hout
  · by_cases hsession : ∃ d, call.Deeds (run.wallet t) d ∧ d.OfSession
    · -- A call on the session writes nothing but a verifier.
      rcases hsession with ⟨d, hd, hof⟩
      rcases hacts.kept_of_session (fun e he => call.deeds_ofSession hd he hof) name with
        hsame | ⟨hname, password, hsets⟩
      · exact absurd hsame hchanged
      · rw [run.config_eq t] at hname
        exact .inr (.inr ⟨hname, password, setsUp_of_deeds hmove hsets⟩)
    · exact .inl (holdsSecret_of_acts (fun d hd hof => hsession ⟨d, hd, hof⟩) hacts hchanged)
  · exact .inl (holdsSecret_of_acts (fun d => Waiting.deeds_apart) hacts hchanged)
  · refine .inr (.inl ?_)
    by_contra hwritten
    exact hchanged (hout.kept name hwritten)

/-! ## Refusals -/

theorem refusedAt_of_call {call : Call} (hmove : run.move t = .call call)
    (h : Wallet.Refused (Wallet.perform call) (run.wallet t)) : run.RefusedAt t t := by
  rcases h with ⟨e, v, hrun, hstorage⟩
  refine ⟨⟨e, ends_of_call hmove (by rw [hrun]; rfl)⟩, ?_⟩
  rw [wallet_call hmove, hrun]
  exact hstorage

theorem refusedAt_of_goesOn (hgoes : run.GoesOn t n on)
    (h : Wallet.Refused (Wallet.resume on) (run.wallet t)) : run.RefusedAt t n := by
  rcases h with ⟨e, v, hrun, hstorage⟩
  refine ⟨⟨e, ends_of_goesOn hgoes (by rw [hrun]; rfl)⟩, ?_⟩
  rw [wallet_goOn hgoes, hrun]
  exact hstorage

/-! ## The gate -/

/-- A connect request that found the session locked waits at the gate or has come past it. -/
theorem gated_or_passed (hmove : run.move n = .call (.connect origin changeIdentity))
    (hlocked : run.LockedAt n) (h : run.Waits t n on) :
    on.gated?.isSome ∨ ∃ u < t, ∃ v, run.PassesGate u n v := by
  -- A wait is left over from before, or begins with the call, or follows another wait.
  induction t generalizing on with
  | zero => cases h
  | succ t ih =>
      rcases waits_stage h with hbefore | ⟨call, hcall, rfl, hpart⟩ | ⟨old, hgoes, hpart⟩
      · rcases ih hbefore with hgated | ⟨u, hut, hpassed⟩
        · exact .inl hgated
        · exact .inr ⟨u, Nat.lt_succ_of_lt hut, hpassed⟩
      · rcases Move.call.inj (hcall.symm.trans hmove)
        rcases Wallet.connect_locked (run.lockfast n) ((run.lockfast n).locked hlocked) origin
          changeIdentity with ⟨e, herror⟩ | ⟨next, hwaits, hgated⟩
        · cases hpart.symm.trans herror
        · rcases Progress.waiting.inj (Except.ok.inj (hpart.symm.trans hwaits))
          exact .inl hgated
      · rcases ih hgoes.waits with hgated | ⟨u, hut, hpassed⟩
        · -- Whoever goes on at the gate waits there again or comes past it now.
          rcases Option.isSome_iff_exists.1 hgated with ⟨⟨o, c⟩, ho⟩
          rcases Wallet.resume_gated ho (run.wallet t) with
            ⟨e, herror⟩ | ⟨next, hwaits, hnext⟩ | ⟨v, hgate, _⟩
          · cases hpart.symm.trans herror
          · rcases Progress.waiting.inj (Except.ok.inj (hpart.symm.trans hwaits))
            exact .inl hnext
          · exact .inr ⟨t, Nat.lt_succ_self t, v, old, hgoes, hgated, hgate⟩
        · exact .inr ⟨u, Nat.lt_succ_of_lt hut, hpassed⟩

/-- A connect request that found the session locked ends well only past the gate. -/
theorem passed_of_ends (hmove : run.move n = .call (.connect origin changeIdentity))
    (hlocked : run.LockedAt n) {answer : Answer} (h : run.Ends t n (.ok answer)) :
    ∃ u ≤ t, ∃ v, run.PassesGate u n v := by
  -- It ends in a stage in which it passes the gate, or has passed it before.
  rcases ends_cases h with ⟨rfl, call, hcall, hover⟩ | ⟨on, hgoes, hover⟩
  · -- The call itself cannot end well, as it has to wait.
    rcases Move.call.inj (hcall.symm.trans hmove)
    rcases Wallet.connect_locked (run.lockfast n) ((run.lockfast n).locked hlocked) origin
      changeIdentity with ⟨e, herror⟩ | ⟨next, hwaits, _⟩
    · rw [Wallet.perform, herror] at hover
      cases hover
    · rw [Wallet.perform, hwaits] at hover
      cases hover
  · rcases gated_or_passed hmove hlocked hgoes.waits with hgated | ⟨u, hut, hpassed⟩
    · rcases Option.isSome_iff_exists.1 hgated with ⟨⟨o, c⟩, ho⟩
      rcases Wallet.resume_gated ho (run.wallet t) with
        ⟨e, herror⟩ | ⟨next, hwaits, _⟩ | ⟨v, hgate, _⟩
      · rw [herror] at hover
        cases hover
      · rw [hwaits] at hover
        cases hover
      · exact ⟨t, Nat.le_refl t, v, on, hgoes, hgated, hgate⟩
    · exact ⟨u, Nat.le_of_lt hut, hpassed⟩

/-! ## The whole run -/

/-- The lock isolates, in every run. -/
theorem lock_isolated (run : Run) : run.LockIsolated where
  unloaded t hlocked :=
    ⟨(run.lockfast t).locked hlocked, ((run.lockfast t).locked hlocked).trustsNobody⟩
  kept _ _ _ hchanged := kept_changes hchanged
  calls t _ hmove hmutates hlocked :=
    refusedAt_of_call hmove (Wallet.perform_locked hmutates ((run.lockfast t).locked hlocked))
  flows t _ _ hgoes hmutates hlocked :=
    refusedAt_of_goesOn hgoes (Wallet.resume_locked hmutates ((run.lockfast t).locked hlocked))
  gated _ _ _ hmove hlocked :=
    ⟨fun _ _ => gated_or_passed hmove hlocked, fun _ _ => passed_of_ends hmove hlocked⟩
  passed t _ _ := fun ⟨_, _, hgated, hgate⟩ => Wallet.gate_passed hgated (run.lockfast t) hgate

/-- The verifier and the approvals have one slot, and the password is set up. -/
def sharedSlot : Run where
  config := { storageKeys := { password := "x", approvals := "x", connections := "y" } }
  move _ := .call (.setupPassword "password")

theorem sharedSlot_kept : ((sharedSlot.wallet 1).kept "x").isSome = true := by
  have hwallet : sharedSlot.wallet 1 =
      (Wallet.finish .flag (Wallet.adopt "password") (sharedSlot.wallet 0)).2 := by
    rw [wallet_call (t := 0) rfl, Wallet.perform_adopts (by decide) rfl rfl rfl]
  have hloads : Wallet.Acts Wallet.Harmless
      (Wallet.onLock (SessionLock.adopt "password") (sharedSlot.wallet 0)).2
      (Wallet.adopt "password" (sharedSlot.wallet 0)).2 :=
    Op.Within.after (x := Wallet.onLock (SessionLock.adopt "password"))
      (fun _ => .bind Wallet.loadRegistries_acts fun _ => .pure _) _
  -- Loading the registries would open what was written, but it writes nothing.
  rw [hwallet, Wallet.finish, Op.bind_pure_state, hloads.kept_of_harmless]
  decide +kernel

/-- So it is not so that what is kept of a registry changes only with the secret held. -/
theorem sharedSlot_written : ¬ ∀ (run : Run) (t : Nat) (name : String),
    (name = run.config.storageKeys.approvals ∨ name = run.config.storageKeys.connections) →
    ¬ run.WrittenAt t name → (run.wallet (t + 1)).kept name ≠ (run.wallet t).kept name →
    run.HoldsSecret t := by
  intro h
  have hlocked : ¬ sharedSlot.HoldsSecret 0 := by
    rintro ⟨key, hsecret, _⟩
    cases hsecret
  refine hlocked (h sharedSlot 0 "x" (.inl rfl) ?_ fun hsame => ?_)
  · rintro ⟨action, hmove, _⟩
    cases hmove
  · have hkept := sharedSlot_kept
    rw [hsame] at hkept
    cases hkept

end Run

end WalletTrust

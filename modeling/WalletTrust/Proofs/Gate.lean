import WalletTrust.Proofs.Locked

/-!
# The Gate

How a connect request waits for the session to be unlocked.

A connect request may begin while the session is locked. It then waits at a gate, for a window and
for the signal, and comes past it in the one part that finds the signal set. That part loads the
registries before it goes on, so where the request comes past the gate the session is unlocked and
both registries are there, however often it was locked while the request waited.

The part does not stop at the gate: it goes on to the first question or to the end. So it is taken
apart here into what comes before that moment and what comes after it, and `goOn_gate` says that the
two make up the whole.

A request may come to the gate in two ways. The window in which the session is to be unlocked is
opened in the first part of the call, or it is held back and comes later; in both cases what follows
is the same wait for the signal. A window that is late is looked at first, and if the session is
unlocked by then the request goes on at once.

## Main definitions

* `Waiting.gated?`: The connect request of a flow that waits at the gate.
* `Wallet.gate`, `Wallet.beyond`: A part of a connect request up to the gate, and beyond it.

## Theorems

* `Wallet.goOn_gate`: Going on from the gate is coming to it and going on beyond.
* `Wallet.gate_passed`: Where a request comes past the gate the session is unlocked and both
  registries are loaded.
* `Wallet.connect_locked`, `Wallet.resume_gated`: There is no other way.
* `Wallet.loadRegistries_loaded`: Loading the registries, if it succeeds, leaves both loaded.
* `Wallet.gate_waits`: Who does not come past the gate goes on waiting there, for the same request.
-/

namespace WalletTrust

open Op (Within)

/-- The connect request of a flow that waits for the session to be unlocked. -/
def Waiting.gated? : Waiting → Option (String × Bool)
  | .unlockWindow _ origin changeIdentity => some (origin, changeIdentity)
  | .unlock _ origin changeIdentity => some (origin, changeIdentity)
  | _ => none

namespace Wallet

variable {w v : Wallet} {on next : Waiting} {origin : String} {changeIdentity : Bool}

/-- Come past the gate: load the registries and close the window. -/
def enter (window : Nat) : Op Wallet Unit := do
  loadRegistries
  (onDesk (Desk.closeWindow (some window))).ignore
  loadRegistries

/-- Come past the gate if the session is unlocked. If not, the answer is what to wait for. -/
def knock (window : Nat) (origin : String) (changeIdentity : Bool) :
    Op Wallet (Option Waiting) := do
  if (← Op.get).core.session.signal then
    enter window
    return none
  else return some (.unlock window origin changeIdentity)

/-- What a connect request does up to the gate. -/
def gate : Waiting → Op Wallet (Option Waiting)
  | .unlockWindow _ origin changeIdentity => do
    knock (← onDesktop Desktop.openWindow) origin changeIdentity
  | .unlock window origin changeIdentity => knock window origin changeIdentity
  | on => return some on

/-- What it does beyond. -/
def beyond (origin : String) (changeIdentity : Bool) : Option Waiting → Op Wallet Progress
  | none => seekApproval origin changeIdentity
  | some on => return .waiting on

theorem awaitUnlock_eq (window : Nat) (origin : String) (changeIdentity : Bool) :
    awaitUnlock window origin changeIdentity =
      knock window origin changeIdentity >>= beyond origin changeIdentity := by
  -- The two are put together the same way if the signal is set. If not, neither goes any further.
  funext w
  rcases hsignal : w.core.session.signal with _ | _
  · simp only [awaitUnlock, knock, Op.bind_apply, Op.get, hsignal, Bool.false_eq_true, if_false,
      Op.pure_apply, beyond]
  · have hleft : awaitUnlock window origin changeIdentity w =
        enterUnlocked window origin changeIdentity w := by
      rw [awaitUnlock, Op.bind_ok (x := Op.get) rfl, if_pos hsignal]
    have hknock : knock window origin changeIdentity w =
        (enter window >>= fun _ => (pure none : Op Wallet (Option Waiting))) w := by
      rw [knock, Op.bind_ok (x := Op.get) rfl, if_pos hsignal]
    have hright : (knock window origin changeIdentity >>= beyond origin changeIdentity) w =
        ((enter window >>= fun _ => (pure none : Op Wallet (Option Waiting))) >>=
          beyond origin changeIdentity) w := by
      rw [Op.bind_apply, hknock, ← Op.bind_apply]
    rw [hleft, hright, enter, enterUnlocked]
    simp only [Op.bind_assoc]
    rfl

/-- A connect request that waits at the gate goes on through it. -/
theorem goOn_gate (h : on.gated? = some (origin, changeIdentity)) :
    goOn on = gate on >>= beyond origin changeIdentity := by
  cases on with
  | unlockWindow ticket o c =>
      rcases Option.some.inj h
      rw [goOn, gate, openUnlockWindow, Op.bind_assoc]
      simp only [awaitUnlock_eq]
  | unlock window o c =>
      rcases Option.some.inj h
      rw [goOn, gate, awaitUnlock_eq]
  | _ => cases h

/-- Loading the registries, if it succeeds, leaves both loaded. -/
theorem loadRegistries_loaded {u : Unit} (h : loadRegistries w = (.ok u, v)) :
    v.core.approvals.isSome ∧ v.core.connections.isSome := by
  rcases Op.bind_cases h with ⟨_, t, happrovals, hconnections⟩
  have ha : t.core.approvals.isSome := by
    rcases Prod.mk.inj happrovals with ⟨hok, rfl⟩
    rcases Shelf.load_ok (Prod.ext hok rfl) with ⟨a, ha, _⟩
    exact Option.isSome_iff_exists.2 ⟨a, ha⟩
  rcases Prod.mk.inj hconnections with ⟨hok, rfl⟩
  rcases Shelf.load_ok (Prod.ext hok rfl) with ⟨c, hc, _⟩
  exact ⟨ha, Option.isSome_iff_exists.2 ⟨c, hc⟩⟩

theorem enter_acts {deeds : Deed → Prop} (window : Nat) : Within (Acts deeds) (enter window) := by
  unfold enter
  refine .bind loadRegistries_acts fun _ => ?_
  refine .bind (.ignore (onDesk_acts _)) fun _ => ?_
  exact loadRegistries_acts

theorem knock_passed {window : Nat} (hw : w.Lockfast)
    (h : knock window origin changeIdentity w = (.ok none, v)) :
    v.core.session.isUnlocked = true ∧ v.core.approvals.isSome ∧ v.core.connections.isSome := by
  rw [knock, Op.bind_ok (x := Op.get) rfl] at h
  split at h
  · next hsignal =>
    rcases Op.bind_cases h with ⟨_, t, henter, hnone⟩
    rcases Prod.mk.inj hnone with ⟨_, rfl⟩
    -- No deed is done on the way in, so the session is still what it was with the signal.
    have hacts : Acts Harmless w (enter window w).2 := enter_acts window w
    rw [henter] at hacts
    rcases Op.bind_cases henter with ⟨_, _, _, hclose⟩
    rcases Op.bind_cases hclose with ⟨_, _, _, hload⟩
    refine ⟨?_, loadRegistries_loaded hload⟩
    rw [hacts.session_of_harmless, ← hw.signal, hsignal]
  · cases congrArg Prod.fst h

/-- Where a connect request comes past the gate the session is unlocked and both registries are
loaded. -/
theorem gate_passed (hgated : on.gated?.isSome) (hw : w.Lockfast) (h : gate on w = (.ok none, v)) :
    v.core.session.isUnlocked = true ∧ v.core.approvals.isSome ∧ v.core.connections.isSome := by
  cases on with
  | unlockWindow ticket o c =>
      rcases Op.bind_cases h with ⟨window, t, hopen, hknock⟩
      have ht : t.Lockfast := by
        rw [← (Prod.mk.inj hopen).2]
        exact hw.congr rfl (fun hnone _ => hnone) fun hnone _ => hnone
      exact knock_passed ht hknock
  | unlock window o c => exact knock_passed hw h
  | _ => cases hgated

theorem knock_waits {window : Nat}
    (h : knock window origin changeIdentity w = (.ok (some next), v)) :
    next.gated? = some (origin, changeIdentity) := by
  rw [knock, Op.bind_ok (x := Op.get) rfl] at h
  split at h
  · rcases Op.bind_cases h with ⟨_, t, _, hnone⟩
    cases congrArg Prod.fst hnone
  · rcases Option.some.inj (Except.ok.inj (congrArg Prod.fst h))
    rfl

/-- Who does not come past the gate goes on waiting there, for the same request. -/
theorem gate_waits (hgated : on.gated? = some (origin, changeIdentity))
    (h : gate on w = (.ok (some next), v)) : next.gated? = some (origin, changeIdentity) := by
  cases on with
  | unlockWindow ticket o c =>
      rcases Option.some.inj hgated
      rcases Op.bind_cases h with ⟨window, t, _, hknock⟩
      exact knock_waits hknock
  | unlock window o c =>
      rcases Option.some.inj hgated
      exact knock_waits h
  | _ => cases hgated

/-- A connect request that finds the session locked fails or waits at the gate. -/
theorem connect_locked (hw : w.Lockfast) (h : w.Locked) (origin : String) (changeIdentity : Bool) :
    (∃ e, (connect origin changeIdentity w).1 = .error e) ∨
    ∃ on, (connect origin changeIdentity w).1 = .ok (.waiting on) ∧ on.gated?.isSome := by
  rcases hrun : connect origin changeIdentity w with ⟨outcome, v⟩
  rcases outcome with e | progress
  · exact .inl ⟨e, rfl⟩
  refine .inr ?_
  have hstart := Op.mapError_ok hrun
  rw [startConnect] at hstart
  split at hstart
  · cases congrArg Prod.fst hstart
  rw [Op.bind_ok (x := Op.get) rfl,
    if_neg (by rw [h.isUnlocked]; exact Bool.false_ne_true)] at hstart
  rcases Op.bind_cases hstart with ⟨ticket, t, hrequest, hnext⟩
  cases ticket with
  | some ticket =>
      rcases Except.ok.inj (congrArg Prod.fst hnext)
      exact ⟨_, rfl, rfl⟩
  | none =>
      -- The window is there at once, but the signal is not.
      rcases Op.bind_cases hnext with ⟨window, u, hopen, hawait⟩
      have hcore : u.core = w.core := by
        rw [← (Prod.mk.inj hopen).2, ← (Prod.mk.inj hrequest).2]
      have hsignal : ¬ u.core.session.signal = true := by
        rw [hcore, hw.signal, h.isUnlocked]
        exact Bool.false_ne_true
      rw [awaitUnlock, Op.bind_ok (x := Op.get) rfl, if_neg hsignal] at hawait
      rcases Except.ok.inj (congrArg Prod.fst hawait)
      exact ⟨_, rfl, rfl⟩

/-- Going on at the gate is going on waiting there, or coming past it, or failing. -/
theorem resume_gated (hgated : on.gated? = some (origin, changeIdentity)) (w : Wallet) :
    (∃ e, (resume on w).1 = .error e) ∨
    (∃ next, (resume on w).1 = .ok (.waiting next) ∧ next.gated?.isSome) ∨
    ∃ v, gate on w = (.ok none, v) ∧
      (resume on w).2 = (seekApproval origin changeIdentity v).2 := by
  -- What became of the part follows from what became of it at the gate.
  rcases hrun : gate on w with ⟨outcome, v⟩
  have hgo : goOn on w = (gate on >>= beyond origin changeIdentity) w := by rw [goOn_gate hgated]
  rcases outcome with e | next
  · rw [Op.bind_error hrun] at hgo
    exact .inl ⟨_, congrArg Prod.fst (Op.mapError_of_error hgo on.wrap)⟩
  · rw [Op.bind_ok hrun] at hgo
    cases next with
    | none => exact .inr (.inr ⟨v, rfl, by rw [resume_state, hgo]; rfl⟩)
    | some next =>
        refine .inr (.inl ⟨next, congrArg Prod.fst (Op.mapError_of_ok hgo on.wrap), ?_⟩)
        rw [gate_waits hgated hrun]
        rfl

end Wallet

end WalletTrust

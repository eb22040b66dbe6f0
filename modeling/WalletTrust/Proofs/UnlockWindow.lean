import WalletTrust.Proofs.Knocking
import WalletTrust.Proofs.Relocking

/-!
# The Window to Unlock In

What becomes of the window in which the session is to be unlocked, until its call ends and after.

A connect request that finds the session locked has a window opened. When the session is unlocked
the registries are loaded, and then the window is closed. So the window is closed exactly once,
unless a registry fails to load: then the request fails before it comes to close the window, and
nobody else ever does.

Nobody else does because the window is the call's own. Windows are numbered as they come, so nobody
has waited in this one before, and the queue, which is shown in another, never comes to be shown in
it. For the same reason nobody in the queue is rejected when it is closed, whoever closes it.

The induction is over stages: before each of them the call waits in its window, or it has come past
the gate and will not return there, or it is gone. Whoever comes to the gate with a window is
admitted, refused or has to wait, and that is the only way from one to another.

## Main definitions

* `Run.closings`: How often a window was to be closed.
* `Run.OpensToUnlock`: A connect request has a window opened in which the session is to be unlocked.
* `Run.TurnedAway`: The session is unlocked, and a registry fails to load.
* `Run.WindowSettled`: What becomes of the window.
* `Run.Owns`, `Run.Standing`: Whose the window is, and whether it has been closed.

## Theorems

* `Run.numbered`: All windows that are in use have come before.
* `Run.KnocksAt.knocked`: What comes of going on at the gate.
* `Run.OpensToUnlock.standing`: Where the call stands before each stage.
* `Run.window_settled`: The window is closed once, unless the call is turned away.
* `Run.spoiltApprovals_unclosed`: It is not always closed.
-/

namespace WalletTrust

namespace Run

variable {run : Run} {s t u n m window : Nat} {on : Waiting} {outcome : Outcome}

/-- How often a window was named as the one to be closed, before a stage. -/
def closings (run : Run) (t window : Nat) : Nat :=
  (run.wallet t).host.desktop.closings window

/-- A connect request finds the session locked and has a window opened in which it is to be
unlocked, at once or after its request for a window was held. -/
inductive OpensToUnlock (run : Run) (s n window : Nat) : Prop
  | atOnce {origin : String} {changeIdentity : Bool} (hown : n = s)
      (hmove : run.move s = .call (.connect origin changeIdentity)) (horigin : origin ≠ "")
      (hlocked : (run.wallet s).core.session.isUnlocked = false)
      (hfree : (run.wallet s).host.desktop.holdsNext = false)
      (hopened : (run.wallet s).host.desktop.opened = .ok window)
  | late {ticket : Nat} {origin : String} {changeIdentity : Bool}
      (hgoes : run.GoesOn s n (.unlockWindow ticket origin changeIdentity))
      (hopened : (run.wallet s).host.desktop.opened = .ok window)

/-- A connect request that has waited at the gate finds the session unlocked, and the registries
fail to load. -/
structure TurnedAway (run : Run) (t n : Nat) (e : Error) : Prop where
  gated : ∃ on, run.GoesOn t n on ∧ on.gated?.isSome
  signal : (run.wallet t).core.session.signal = true
  fails : (Wallet.loadRegistries (run.wallet t)).1 = .error e

/-- What becomes of the window that was opened for call `n` in stage `s`, where the call ends in
stage `t`. -/
structure WindowSettled (run : Run) (s n window t : Nat) (outcome : Outcome) : Prop where
  /-- It has been closed once, unless the call was turned away. -/
  closed : (∀ e, ¬ run.TurnedAway t n e) → run.closings (t + 1) window = run.closings s window + 1
  /-- If it was, the call has failed and the window has not been closed. -/
  forgotten : ∀ e, run.TurnedAway t n e → outcome = .error (.ofConnect e) ∧
    run.closings (t + 1) window = run.closings s window
  /-- It is never closed after that. -/
  lasts : ∀ u, t < u → run.closings u window = run.closings (t + 1) window
  /-- The call closes it as it comes past the gate, and the queue is as it was. -/
  spared : ∀ u v, s ≤ u → run.PassesGate u n v → v.core.queue = run.queue u ∧
    v.host.desktop.closings window = run.closings u window + 1
  /-- Nor does it concern the queue if the window is closed by anybody else. -/
  apart : ∀ u, s < u →
    Desk.windowClosed window (run.wallet u).desk = (.ok (), (run.wallet u).desk)

/-! ## The numbers of windows -/

/-- A call that comes to wait in a window has it opened in this stage. -/
theorem unlocksIn_stage (hwaits : run.Waits (t + 1) m on) (hon : on.unlocksIn? = some window) :
    (∃ old, run.Waits t m old ∧ old.unlocksIn? = some window) ∨
    (run.wallet t).host.desktop.nextWindow = window ∧
      window < (run.wallet (t + 1)).host.desktop.nextWindow := by
  rcases waits_stage hwaits with hbefore | ⟨call, hmove, rfl, hpart⟩ | ⟨old, hgoes, hpart⟩
  · exact .inl ⟨on, hbefore, hon⟩
  · rw [wallet_call hmove]
    exact .inr (Wallet.perform_unlocksIn (Prod.ext hpart rfl) hon)
  · rw [wallet_goOn hgoes]
    rcases Wallet.resume_unlocksIn (Prod.ext hpart rfl) hon with hsame | hnew
    · exact .inl ⟨old, hgoes.waits, hsame⟩
    · exact .inr hnew

/-- All windows that the queue is shown in or that are waited in have come before. -/
structure Numbered (run : Run) (t : Nat) : Prop where
  held : ∀ window, (run.queue t).popup = some window →
    window < (run.wallet t).host.desktop.nextWindow
  waited : ∀ m on window, run.Waits t m on → on.unlocksIn? = some window →
    window < (run.wallet t).host.desktop.nextWindow

/-- By induction on the stages. A window that comes gets the next number. -/
theorem numbered (run : Run) (t : Nat) : run.Numbered t := by
  -- Windows are numbered upwards, so one that is held or waited in is behind the next number.
  induction t with
  | zero =>
      constructor
      · intro window hpopup
        cases hpopup
      · intro m on window hwaits
        cases hwaits
  | succ t ih =>
      have hown := run.stage_closesOwn t
      constructor
      · intro window hpopup
        rcases hown.holds with hsame | hnone | ⟨popup, hheld, _, hlt⟩
        · exact Nat.lt_of_lt_of_le (ih.held window (hsame.symm.trans hpopup)) hown.numbers
        · cases hnone.symm.trans hpopup
        · exact Option.some.inj (hheld.symm.trans hpopup) ▸ hlt
      · intro m on window hwaits hon
        rcases unlocksIn_stage hwaits hon with ⟨old, hbefore, hold⟩ | ⟨_, hnew⟩
        · exact Nat.lt_of_lt_of_le (ih.waited m old window hbefore hold) hown.numbers
        · exact hnew

/-- A window has come, the queue is not shown in it, and only one call may wait in it. -/
structure Owns (run : Run) (n window t : Nat) : Prop where
  old : window < (run.wallet t).host.desktop.nextWindow
  apart : (run.queue t).popup ≠ some window
  alone : ∀ m on, run.Waits t m on → on.unlocksIn? = some window → m = n

/-- A window that belongs to a call goes on belonging to it, since every other window is newer. -/
theorem Owns.succ (h : run.Owns n window t) : run.Owns n window (t + 1) where
  old := Nat.lt_of_lt_of_le h.old (run.stage_closesOwn t).numbers
  apart := Desk.ClosesOwn.apart (run.stage_closesOwn t) h.old h.apart
  alone m on hwaits hon := by
    rcases unlocksIn_stage hwaits hon with ⟨old, hbefore, hold⟩ | ⟨hsame, _⟩
    · exact h.alone m old hbefore hold
    · exact absurd h.old (hsame ▸ Nat.lt_irrefl _)

/-- A stage that does not go on with the call in its window does not close the window. -/
theorem Owns.closings (h : run.Owns n window t)
    (hrests : ∀ on, run.GoesOn t n on → on.unlocksIn? ≠ some window) :
    run.closings (t + 1) window = run.closings t window := by
  refine Desk.ClosesOwn.closings (run.stage_closesOwn t) h.old h.apart fun e he hcloses => ?_
  rcases he with hproof | ⟨m, on, hgoes, closed, hon, rfl⟩
  · cases e with
    | closeRequested => cases hproof
    | _ => cases hcloses
  · rcases Option.some.inj hcloses
    have hsame := h.alone m on hgoes.waits hon
    exact hrests on (hsame ▸ hgoes) hon

/-! ## A connect request with its window -/

/-- A call that is gone on with waits after that for what it came to. -/
theorem part_of_waits {next : Waiting} (hgoes : run.GoesOn t n on)
    (hwaits : run.Waits (t + 1) n next) :
    (Wallet.resume on (run.wallet t)).1 = .ok (.waiting next) := by
  rw [Waits, system, system_goOn hgoes] at hwaits
  rcases (System.run_cases n (Wallet.resume on) (run.system t)).2.2 with
    ⟨other, hpart, hwaiting⟩ | ⟨_, hwaiting⟩
  · rw [hwaiting, if_pos rfl] at hwaits
    rcases Option.some.inj hwaits
    exact hpart
  · rw [hwaiting, if_pos rfl] at hwaits
    cases hwaits

theorem goesOn_of_signal {origin : String} {changeIdentity : Bool} (hmove : run.move t = .goOn n)
    (hwaits : run.Waits t n (.unlock window origin changeIdentity))
    (hsignal : (run.wallet t).core.session.signal = true) :
    run.GoesOn t n (.unlock window origin changeIdentity) :=
  ⟨hmove, hwaits, hsignal⟩

/-- A call that waits goes on, or it waits on or is given up. -/
theorem waits_cases (hwaits : run.Waits t n on) : run.GoesOn t n on ∨
    (∀ other, ¬ run.GoesOn t n other) ∧
      (run.Waits (t + 1) n on ∨ ∀ next, ¬ run.Waits (t + 1) n next) := by
  -- It goes on now, or it rests; and one that rests is there afterwards unless it is given up.
  by_cases hready : on.isReady (run.wallet t) = true ∧ run.move t = .goOn n
  · exact .inl ⟨hready.2, hwaits, hready.1⟩
  have hrests : ∀ other, ¬ run.GoesOn t n other := by
    intro other hgoes
    rcases Option.some.inj (hwaits.symm.trans hgoes.waits)
    exact hready ⟨hgoes.ready, hgoes.move⟩
  refine .inr ⟨hrests, ?_⟩
  by_cases hgo : run.move t = .goOn n
  · rw [Waits, system_unready hgo hrests]
    exact .inl hwaits
  · by_cases hcancel : run.move t = .cancel n
    · refine .inr fun next hnext => ?_
      rw [Waits, system, hcancel] at hnext
      cases (System.cancel_cases n (run.system t)).2.1.symm.trans hnext
    · exact .inl (waits_stays hwaits hcancel hgo)

/-- In a stage, a call comes to the gate with a window that the queue is not shown in. -/
def KnocksAt (run : Run) (t n window : Nat) : Prop :=
  (run.queue t).popup ≠ some window ∧ ∃ on origin changeIdentity x, run.GoesOn t n on ∧
    Wallet.Knocks on window origin changeIdentity (run.wallet t) x

/-- What comes of that. -/
inductive Knocked (run : Run) (t n window : Nat) : Prop
  /-- The session is locked, and the call waits in the window. -/
  | waits {origin : String} {changeIdentity : Bool}
      (hsignal : (run.wallet t).core.session.signal = false)
      (hwaits : run.Waits (t + 1) n (.unlock window origin changeIdentity))
      (hcount : run.closings (t + 1) window = run.closings t window)
  /-- The registries fail to load, and the call fails. -/
  | refused {e : Error} (haway : run.TurnedAway t n e)
      (hends : run.Ends t n (.error (.ofConnect e)))
      (hcount : run.closings (t + 1) window = run.closings t window)
  /-- The window is closed, and the call does not come back to the gate. -/
  | admitted (hstays : ∀ e, ¬ run.TurnedAway t n e)
      (hinside : ∀ on, run.Waits (t + 1) n on → on.gated? = none)
      (hcount : run.closings (t + 1) window = run.closings t window + 1)

/-- What comes of knocking is read off the signal, and then off the registries. -/
theorem KnocksAt.knocked (h : run.KnocksAt t n window) : run.Knocked t n window := by
  rcases h with ⟨hapart, on, origin, changeIdentity, x, hgoes, hx⟩
  have hgated : on.gated?.isSome := by
    rw [hx.gated]
    rfl
  have hwrap : on.wrap = .ofConnect := by
    cases on with
    | unlockWindow => rfl
    | unlock => rfl
    | _ => cases hgated
  -- As long as nobody has unlocked it waits on, and the window stays.
  rcases hsignal : (run.wallet t).core.session.signal with _ | _
  · have hrun := Op.mapError_of_ok (hx.goOn_locked hsignal) on.wrap
    refine .waits hsignal (waits_of_goesOn hgoes hrun) ?_
    rw [closings, wallet_goOn hgoes, Wallet.resume, hrun]
    exact hx.closings
  · rcases hx.goOn_unlocked hsignal hapart with
      ⟨e, v, hload, hfails, hcount⟩ | ⟨u, v, hload, hgate, hseeks, hcount⟩
    -- The registries fail to load: the call leaves before it comes to close the window.
    · have hrun := Op.mapError_of_error hfails on.wrap
      refine .refused ⟨⟨on, hgoes, hgated⟩, hsignal, hload⟩ (ends_of_goesOn hgoes ?_) ?_
      · rw [Wallet.resume, hrun, hwrap]
        rfl
      · rw [closings, wallet_goOn hgoes, Wallet.resume, hrun]
        exact hcount
    · -- The registries have loaded, so it is not turned away, and it asks for approval from now on.
      refine .admitted (fun e haway => ?_) (fun next hnext => ?_) ?_
      · cases hload.symm.trans haway.fails
      · rcases hpart : Wallet.resume on (run.wallet t) with ⟨part, v'⟩
        have hwaits := part_of_waits hgoes hnext
        rw [hpart] at hwaits
        rcases hwaits
        exact Wallet.seekApproval_inside origin changeIdentity v _ v'
          (hseeks.symm.trans (Op.mapError_ok hpart))
      · rw [closings, wallet_goOn hgoes, Wallet.resume_state]
        exact hcount

/-- Whoever is turned away at the gate has failed. -/
theorem KnocksAt.turnedAway {e : Error} (h : run.KnocksAt t n window)
    (haway : run.TurnedAway t n e) : run.Ends t n (.error (.ofConnect e)) ∧
      run.closings (t + 1) window = run.closings t window := by
  cases h.knocked with
  | waits hsignal => cases hsignal.symm.trans haway.signal
  | refused haway' hends hcount =>
      rw [Except.error.inj (haway.fails.symm.trans haway'.fails)]
      exact ⟨hends, hcount⟩
  | admitted hstays => exact absurd haway (hstays e)

/-- A call that does not go on waits for what it has waited for, if it waits at all. -/
theorem waits_of_rests {next : Waiting} (hnt : n < t) (hrests : ∀ on, ¬ run.GoesOn t n on)
    (hnext : run.Waits (t + 1) n next) : run.Waits t n next := by
  rcases waits_stage hnext with hbefore | ⟨_, _, rfl, _⟩ | ⟨old, hgoes, _⟩
  · exact hbefore
  · exact absurd hnt (Nat.lt_irrefl _)
  · exact absurd hgoes (hrests old)

/-- Nor does it end. -/
theorem not_ends_of_rests (hnt : n < t) (hrests : ∀ on, ¬ run.GoesOn t n on) :
    ¬ run.Ends t n outcome := by
  intro hends
  rcases ends_cases hends with ⟨rfl, _⟩ | ⟨on, hgoes, _⟩
  · exact Nat.lt_irrefl _ hnt
  · exact hrests on hgoes

/-- Whether the window of a call has been closed, before a stage. -/
inductive Standing (run : Run) (s n window t : Nat) : Prop
  | waits {origin : String} {changeIdentity : Bool}
      (hwaits : run.Waits t n (.unlock window origin changeIdentity))
      (hcount : run.closings t window = run.closings s window)
  /-- The call has come past the gate. -/
  | inside (hinside : ∀ on, run.Waits t n on → on.gated? = none)
      (hcount : run.closings t window = run.closings s window + 1)
  /-- The call was turned away or given up. -/
  | gone (hgone : ∀ on, ¬ run.Waits t n on)
      (haway : ∀ u < t, ∀ outcome, run.Ends u n outcome → ∃ e, run.TurnedAway u n e)
      (hcount : run.closings t window = run.closings s window)

/-- A call that waits has not ended. -/
theorem le_of_waits (hwaits : run.Waits t n on) (hends : run.Ends u n outcome) : t ≤ u :=
  Nat.le_of_not_lt fun hlt => idle_of_ends hends hlt on hwaits

theorem Standing.of_refused {e : Error} (hgoes : run.GoesOn t n on) (haway : run.TurnedAway t n e)
    (hends : run.Ends t n (.error (.ofConnect e)))
    (hcount : run.closings (t + 1) window = run.closings s window) :
    run.Standing s n window (t + 1) := by
  refine .gone (idle_of_ends hends (Nat.lt_succ_self t)) (fun u hu outcome hended => ?_) hcount
  rcases Nat.le_antisymm (Nat.le_of_lt_succ hu) (le_of_waits hgoes.waits hended)
  exact ⟨e, haway⟩

/-- One stage further, whatever the stage does. -/
theorem Standing.succ (h : run.Standing s n window t) (howns : run.Owns n window t) (hnt : n < t) :
    run.Standing s n window (t + 1) := by
  cases h with
  | @waits origin changeIdentity hwaits hcount =>
      rcases waits_cases hwaits with hgoes | ⟨hrests, hnext⟩
      · have hknocks : run.KnocksAt t n window := ⟨howns.apart, _, origin, changeIdentity, _, hgoes,
          Wallet.knocks_waited howns.old origin changeIdentity⟩
        cases hknocks.knocked with
        | waits _ hwaits hsame => exact .waits hwaits (hsame.trans hcount)
        | refused haway hends hsame => exact .of_refused hgoes haway hends (hsame.trans hcount)
        | admitted _ hinside honce => exact .inside hinside (by rw [honce, hcount])
      · have hsame := howns.closings fun on hgoes => absurd hgoes (hrests on)
        rcases hnext with hnext | hgone
        · exact .waits hnext (hsame.trans hcount)
        · -- It has been given up, so it has not ended and never will.
          refine .gone hgone (fun u hu outcome hends => ?_) (hsame.trans hcount)
          rcases Nat.le_antisymm (Nat.le_of_lt_succ hu) (le_of_waits hwaits hends)
          exact absurd hends (not_ends_of_rests hnt hrests)
  -- Past the gate it never waits in the window again, so nobody closes it a second time.
  | inside hinside hcount =>
      have hsame := howns.closings fun on hgoes hon => by
        rw [Waiting.unlocksIn?_eq_none (hinside on hgoes.waits)] at hon
        cases hon
      refine .inside (fun on hwaits => ?_) (hsame.trans hcount)
      by_cases hgoes : ∃ old, run.GoesOn t n old
      · rcases hgoes with ⟨old, hgoes⟩
        exact Wallet.resume_inside (hinside old hgoes.waits)
          (Prod.ext (part_of_waits hgoes hwaits) rfl)
      · exact hinside on (waits_of_rests hnt (fun old h => hgoes ⟨old, h⟩) hwaits)
  -- What is over stays over.
  | gone hgone haway hcount =>
      have hrests : ∀ on, ¬ run.GoesOn t n on := fun on hgoes => hgone on hgoes.waits
      have hsame := howns.closings fun on hgoes => absurd hgoes (hrests on)
      refine .gone (fun on hwaits => hgone on (waits_of_rests hnt hrests hwaits))
        (fun u hu outcome hends => ?_) (hsame.trans hcount)
      rcases Nat.lt_or_eq_of_le (Nat.le_of_lt_succ hu) with hlt | rfl
      · exact haway u hlt outcome hends
      · exact absurd hends (not_ends_of_rests hnt hrests)

/-- Right after it has been opened, the window is that of the call, and the queue is not shown in
it. -/
theorem owns_of_opened {x : Wallet} (hown : ((∃ call, run.move s = .call call) ∧ n = s) ∨
      run.move s = .goOn n) (hopened : (run.wallet s).host.desktop.opened = .ok window)
    (hcore : x.core = (run.wallet s).core) (hold : window < x.host.desktop.nextWindow)
    (hrest : Wallet.ClosesOwn (fun _ => True) x (run.wallet (s + 1))) :
    run.Owns n window (s + 1) := by
  -- The window has the next number, and every window of before has a smaller one.
  have hnumber := Desktop.eq_nextWindow hopened
  refine ⟨Nat.lt_of_lt_of_le hold hrest.numbers, Desk.ClosesOwn.apart hrest hold ?_, ?_⟩
  · intro hpopup
    have hqueue : x.desk.queue = run.queue s := congrArg Core.queue hcore
    rw [hqueue] at hpopup
    exact absurd ((run.numbered s).held window hpopup) (hnumber ▸ Nat.lt_irrefl _)
  · -- Nobody has waited in this window before, and only one call goes on in a stage.
    intro m on hwaits hon
    rcases waits_stage hwaits with hbefore | ⟨call, hmove, rfl, _⟩ | ⟨old, hgoes, _⟩
    · exact absurd ((run.numbered s).waited m on window hbefore hon) (hnumber ▸ Nat.lt_irrefl _)
    · rcases hown with ⟨_, rfl⟩ | hgo
      · rfl
      · cases hmove.symm.trans hgo
    · rcases hown with ⟨⟨call, hcall⟩, _⟩ | hgo
      · cases hcall.symm.trans hgoes.move
      · exact Move.goOn.inj (hgoes.move.symm.trans hgo)

theorem OpensToUnlock.le (h : run.OpensToUnlock s n window) : n ≤ s := by
  cases h with
  | atOnce hown => exact Nat.le_of_eq hown
  | late hgoes => exact Nat.le_of_lt (lt_of_waits hgoes.waits)

/-- Right after its window has come, a call knocks. -/
theorem knocksAt_late {ticket : Nat} {origin : String} {changeIdentity : Bool}
    (hgoes : run.GoesOn s n (.unlockWindow ticket origin changeIdentity))
    (hopened : (run.wallet s).host.desktop.opened = .ok window) : run.KnocksAt s n window := by
  rcases Wallet.knocks_opened hopened ticket origin changeIdentity with ⟨x, hx⟩
  refine ⟨fun hpopup => ?_, _, origin, changeIdentity, x, hgoes, hx⟩
  exact absurd ((run.numbered s).held window hpopup)
    (Desktop.eq_nextWindow hopened ▸ Nat.lt_irrefl _)

/-- Right after the window has come the call owns it, and has its standing. -/
theorem OpensToUnlock.begins (h : run.OpensToUnlock s n window) :
    run.Owns n window (s + 1) ∧ run.Standing s n window (s + 1) := by
  -- The window opens while the call is being made, or later, and then the call knocks in the same
  -- stage.
  cases h with
  | @atOnce origin changeIdentity hown hmove horigin hlocked hfree hopened =>
      subst hown
      have hsignal : (run.wallet n).core.session.signal = false := by
        rw [(run.lockfast n).signal, hlocked]
      rcases Wallet.connect_opens horigin hlocked hsignal hfree hopened changeIdentity with
        ⟨x, hconnect, hcore, hold, hcount⟩
      have hnext : run.wallet (n + 1) = x := by
        rw [wallet_call hmove, Wallet.perform, hconnect]
      refine ⟨owns_of_opened (.inl ⟨⟨_, hmove⟩, rfl⟩) hopened hcore hold ?_,
        .waits (waits_of_call hmove hconnect) ?_⟩
      · rw [hnext]
        exact Std.Refl.refl x
      · rw [closings, hnext]
        exact hcount
  | @late ticket origin changeIdentity hgoes hopened =>
      rcases Wallet.knocks_opened hopened ticket origin changeIdentity with ⟨x, hx⟩
      refine ⟨owns_of_opened (.inr hgoes.move) hopened hx.core hx.old ?_, ?_⟩
      · rw [wallet_goOn hgoes, Wallet.resume_state]
        exact hx.closesOwn trivial
      · cases (knocksAt_late hgoes hopened).knocked with
        | waits _ hwaits hcount => exact .waits hwaits hcount
        | refused haway hends hcount => exact .of_refused hgoes haway hends hcount
        | admitted _ hinside hcount => exact .inside hinside hcount

/-- So it has from then on. -/
theorem OpensToUnlock.standing (h : run.OpensToUnlock s n window) (hst : s < t) :
    run.Owns n window t ∧ run.Standing s n window t := by
  induction hst with
  | refl => exact h.begins
  | step hlt ih => exact ⟨ih.1.succ, ih.2.succ ih.1 (Nat.lt_of_le_of_lt h.le hlt)⟩

/-- At the gate, the call has its window with it. -/
theorem OpensToUnlock.knocksAt (h : run.OpensToUnlock s n window) (hst : s ≤ t)
    (hgoes : run.GoesOn t n on) (hgated : on.gated?.isSome) :
    run.KnocksAt t n window ∧ run.closings t window = run.closings s window := by
  -- In the stage in which the window comes it is new; afterwards the standing of the call tells.
  rcases Nat.eq_or_lt_of_le hst with rfl | hlt
  · refine ⟨?_, rfl⟩
    cases h with
    | atOnce hown => exact absurd (lt_of_waits hgoes.waits) (hown ▸ Nat.lt_irrefl _)
    | late hgoes hopened => exact knocksAt_late hgoes hopened
  · rcases h.standing hlt with ⟨howns, hstanding⟩
    cases hstanding with
    | @waits origin changeIdentity hwaits hcount =>
        rcases Option.some.inj (hwaits.symm.trans hgoes.waits)
        exact ⟨⟨howns.apart, _, origin, changeIdentity, _, hgoes,
          Wallet.knocks_waited howns.old origin changeIdentity⟩, hcount⟩
    | inside hinside =>
        rw [hinside on hgoes.waits] at hgated
        cases hgated
    | gone hgone => exact absurd hgoes.waits (hgone on)

/-- A window is forgotten if its call is turned away. -/
theorem OpensToUnlock.forgotten {e : Error} (h : run.OpensToUnlock s n window) (hst : s ≤ t)
    (haway : run.TurnedAway t n e) : run.Ends t n (.error (.ofConnect e)) ∧
      run.closings (t + 1) window = run.closings s window := by
  rcases haway.gated with ⟨on, hgoes, hgated⟩
  rcases h.knocksAt hst hgoes hgated with ⟨hknocks, hcount⟩
  exact (hknocks.turnedAway haway).imp_right fun hsame => hsame.trans hcount

/-- Who was turned away has not closed its window. -/
theorem OpensToUnlock.unclosed {e : Error} (h : run.OpensToUnlock s n window) (hst : s ≤ t)
    (haway : run.TurnedAway t n e) :
    run.closings (t + 1) window ≠ run.closings s window + 1 := by
  rw [(h.forgotten hst haway).2]
  exact (Nat.succ_ne_self _).symm

/-- Otherwise it has been closed once when the call ends. -/
theorem OpensToUnlock.closed (h : run.OpensToUnlock s n window) (hst : s ≤ t)
    (hends : run.Ends t n outcome) (hstays : ∀ e, ¬ run.TurnedAway t n e) :
    run.closings (t + 1) window = run.closings s window + 1 := by
  cases (h.standing (Nat.lt_succ_of_le hst)).2 with
  | waits hwaits => exact absurd hwaits (idle_of_ends hends (Nat.lt_succ_self t) _)
  | inside _ hcount => exact hcount
  | gone _ haway =>
      rcases haway t (Nat.lt_succ_self t) outcome hends with ⟨e, haway⟩
      exact absurd haway (hstays e)

/-- Whoever opens a window to unlock in closes it once and for all before it ends, unless it is
turned away for a registry that cannot be loaded. The queue is not concerned. -/
theorem window_settled (h : run.OpensToUnlock s n window) (hst : s ≤ t)
    (hends : run.Ends t n outcome) : run.WindowSettled s n window t outcome where
  closed := h.closed hst hends
  forgotten e haway := by
    rcases h.forgotten hst haway with ⟨hfailed, hcount⟩
    exact ⟨(ends_once hends hfailed).2, hcount⟩
  -- The call has ended, so nobody waits in the window any more.
  lasts u htu := by
    induction htu with
    | refl => rfl
    | @step u htu ih =>
        have howns := (h.standing (Nat.lt_of_le_of_lt hst htu)).1
        refine (howns.closings fun on hgoes => ?_).trans ih
        exact absurd hgoes.waits (idle_of_ends hends htu on)
  spared u v hsu hpasses := by
    rcases hpasses with ⟨on, hgoes, hgated, hgate⟩
    rcases (h.knocksAt hsu hgoes hgated).1 with ⟨hapart, other, o, c, x, hother, hx⟩
    rcases goesOn_unique hgoes hother with ⟨_, rfl⟩
    exact hx.passes hapart hgate
  apart u hsu := Desk.callListeners_elsewhere (h.standing hsu).1.apart _

/-- The approvals are overwritten while the wallet is locked. An origin connects, and the session is
unlocked. -/
def spoiltApprovals : Run where
  move
    | 0 => .call (.setupPassword "password")
    | 1 => .call .logout
    | 2 => .host (.write "keeper.approvals" "garbage")
    | 3 => .call (.connect "https://a.test" false)
    | 4 => .call (.openLock "password")
    | _ => .goOn 3

theorem spoiltApprovals_system (d : Nat) : spoiltApprovals.system (1 + d) =
    spoiltApprovals.after 1 (System.run 0 (Wallet.finish .flag (Wallet.adopt "password"))
      (spoiltApprovals.system 0)).2 d :=
  system_adopts_add rfl (by decide) rfl rfl rfl d

/-- The request finds the session locked, and a window for it is opened at once. -/
theorem spoiltApprovals_opens : spoiltApprovals.OpensToUnlock 3 3 1 := by
  refine .atOnce rfl rfl (by decide) ?_ ?_ ?_
  · rw [wallet, spoiltApprovals_system 2]
    decide +kernel
  · rw [wallet, spoiltApprovals_system 2]
    decide +kernel
  · rw [wallet, spoiltApprovals_system 2]
    rfl

theorem spoiltApprovals_unwritten (t : Nat) :
    ¬ spoiltApprovals.WrittenAt t spoiltApprovals.config.storageKeys.password := by
  rintro ⟨action, hmove, hwrites⟩
  rcases t with _ | _ | _ | _ | _ | t
  all_goals
    cases hmove
  have hsame : "keeper.password" = "keeper.approvals" := hwrites
  exact absurd hsame (by decide)

/-- The verifier is still as it was set up. -/
theorem spoiltApprovals_verifier : (spoiltApprovals.wallet 4).lock.Opens "password" := by
  have hsound : (spoiltApprovals.wallet 1).lock.Sound :=
    lock_sound ⟨by decide, by decide, by decide⟩ spoiltApprovals_unwritten 1
  have hopens : (spoiltApprovals.wallet 1).lock.Opens "password" := by
    refine hsound.opens "password" ?_
    rw [wallet, spoiltApprovals_system 0]
    decide +kernel
  have hkept : (spoiltApprovals.wallet 4).lock.verifier.value =
      (spoiltApprovals.wallet 1).lock.verifier.value := by
    rw [wallet, wallet, spoiltApprovals_system 3, spoiltApprovals_system 0]
    rfl
  rw [SessionLock.Opens, hkept]
  exact hopens

/-- The session is locked, the verifier can be read, and what is in the slot of the approvals is no
map. -/
theorem spoiltApprovals_spoilt : (spoiltApprovals.wallet 4).Locked ∧
    (spoiltApprovals.wallet 4).lock.verifier.readable = true ∧
    (spoiltApprovals.wallet 4).approvalShelf.slot.value = some "garbage" := by
  rw [wallet, spoiltApprovals_system 3]
  exact ⟨⟨by decide +kernel, by decide +kernel, by decide +kernel⟩, by decide +kernel,
    by decide +kernel⟩

theorem spoiltApprovals_waits : spoiltApprovals.Waits 4 3 (.unlock 1 "https://a.test" false) := by
  rw [Waits, spoiltApprovals_system 3]
  rfl

/-- Once the session is unlocked, the request is turned away. -/
theorem spoiltApprovals_turnedAway : ∃ e, spoiltApprovals.TurnedAway 5 3 e := by
  rcases spoiltApprovals_spoilt with ⟨hlocked, hreadable, hgarbage⟩
  rcases Wallet.unlockSession_cases "password" hlocked with
    ⟨_, _, v, hopened, hsession, hunloaded, _⟩ | ⟨hno, _⟩
  · have hmove : spoiltApprovals.move 4 = .call (.openLock "password") := rfl
    have hnext : spoiltApprovals.wallet 5 = v := by
      rw [wallet_call hmove, Wallet.perform, Wallet.finish, Op.bind_pure_state, hopened]
    have hsignal : (spoiltApprovals.wallet 5).core.session.signal = true := by
      rw [hnext, hsession]
      rfl
    have hgoes : spoiltApprovals.GoesOn 5 3 (.unlock 1 "https://a.test" false) :=
      goesOn_of_signal rfl (waits_stays spoiltApprovals_waits Move.noConfusion Move.noConfusion)
        hsignal
    -- Unlocking the session by itself loads nothing and leaves the slots alone.
    have hkept := Wallet.unlockSession_unwritten "password" (spoiltApprovals.wallet 4)
    rw [hopened] at hkept
    rcases Prod.mk.inj hkept with ⟨hconfig, hstorage⟩
    have hvalue : v.approvalShelf.slot.value = some "garbage" := by
      rw [← hgarbage, Wallet.approvalShelf, Wallet.approvalShelf, hconfig, hstorage]
    have hnone : v.approvalShelf.entries = none := hunloaded
    have hload := Wallet.loadApprovals_apply (congrArg Session.secret hsession)
    rcases Shelf.load_cases approvalsLabel "password" hnone with ⟨e, hfails⟩ | ⟨m, hholds, _⟩
    · rw [hfails] at hload
      refine ⟨e, ⟨_, hgoes, rfl⟩, hsignal, ?_⟩
      rw [hnext, Wallet.loadRegistries, Op.bind_error hload]
    · rw [hvalue] at hholds
      rcases hholds with ⟨plain, hopen, _⟩
      cases hopen
  · exact absurd ⟨spoiltApprovals_verifier, hreadable⟩ hno

/-- An origin connects before there is a password. One is set up, and with the session unlocked the
request goes on to its question, which the user rejects. -/
def connectsFirst : Run where
  move
    | 0 => .call (.connect "https://a.test" false)
    | 1 => .call (.setupPassword "password")
    | 2 => .goOn 0
    | 3 => .call (.finalize { id := 0, status := .reject, data := none })
    | _ => .goOn 0

theorem connectsFirst_system (d : Nat) : connectsFirst.system (2 + d) =
    connectsFirst.after 2 (System.run 1 (Wallet.finish .flag (Wallet.adopt "password"))
      (connectsFirst.system 1)).2 d :=
  system_adopts_add rfl (by decide) rfl rfl rfl d

/-- The request ends with the rejection of its question. -/
theorem connectsFirst_ends : ∃ e, connectsFirst.Ends 4 0 (.error e) := by
  have hfails : (connectsFirst.outcome 4).any (fun outcome => !outcome.isOk) = true := by
    rw [outcome, show connectsFirst.system 4 = _ from connectsFirst_system 2]
    decide +kernel
  rcases houtcome : connectsFirst.outcome 4 with _ | e | answer
  · rw [houtcome] at hfails
    cases hfails
  · exact ⟨e, houtcome, .inr rfl⟩
  · rw [houtcome] at hfails
    cases hfails

/-- In the stage in which it ends the request is past the gate. -/
theorem connectsFirst_admitted (e : Error) : ¬ connectsFirst.TurnedAway 4 0 e := by
  intro haway
  rcases haway.gated with ⟨on, hgoes, hgated⟩
  have hinside : ((connectsFirst.system 4).waiting? 0).any (·.gated?.isSome) = false := by
    rw [show connectsFirst.system 4 = _ from connectsFirst_system 2]
    decide +kernel
  rw [show (connectsFirst.system 4).waiting? 0 = some on from hgoes.waits, Option.any_some,
    hgated] at hinside
  cases hinside

/-- Both ways out of a window that was opened to unlock in. Where the approvals are spoilt the
request fails, and its window has not been closed and never will be. Where they can be loaded the
window is closed once before the request ends, whatever it ends with. -/
theorem window_settled_turnedAway_and_admitted :
    (∃ e, spoiltApprovals.OpensToUnlock 3 3 1 ∧ 3 ≤ 5 ∧ spoiltApprovals.Ends 5 3 (.error e) ∧
      spoiltApprovals.WindowSettled 3 3 1 5 (.error e) ∧
      spoiltApprovals.closings 6 1 = spoiltApprovals.closings 3 1) ∧
    ∃ e, connectsFirst.OpensToUnlock 0 0 1 ∧ 0 ≤ 4 ∧ connectsFirst.Ends 4 0 (.error e) ∧
      connectsFirst.WindowSettled 0 0 1 4 (.error e) ∧
      connectsFirst.closings 5 1 = connectsFirst.closings 0 1 + 1 := by
  constructor
  -- The approvals cannot be loaded, and the window is forgotten.
  · rcases spoiltApprovals_turnedAway with ⟨cause, haway⟩
    have hends := (spoiltApprovals_opens.forgotten (by decide) haway).1
    have hsettled := window_settled spoiltApprovals_opens (by decide) hends
    exact ⟨_, spoiltApprovals_opens, by decide, hends, hsettled, (hsettled.forgotten _ haway).2⟩
  -- Everything loads, and the window is closed once.
  · rcases connectsFirst_ends with ⟨e, hends⟩
    have hopens : connectsFirst.OpensToUnlock 0 0 1 :=
      .atOnce rfl rfl (by decide) rfl rfl rfl
    have hsettled := window_settled hopens (Nat.zero_le 4) hends
    exact ⟨e, hopens, Nat.zero_le 4, hends, hsettled, hsettled.closed connectsFirst_admitted⟩

/-- So it is not true that a window in which the session is to be unlocked is always closed again.
-/
theorem spoiltApprovals_unclosed : ¬ ∀ (run : Run) (s t n window : Nat) (outcome : Outcome),
    run.OpensToUnlock s n window → s ≤ t → run.Ends t n outcome →
    run.closings (t + 1) window = run.closings s window + 1 := by
  intro hall
  rcases spoiltApprovals_turnedAway with ⟨cause, haway⟩
  have hends := (spoiltApprovals_opens.forgotten (by decide) haway).1
  exact spoiltApprovals_opens.unclosed (by decide) haway
    (hall _ 3 5 3 1 _ spoiltApprovals_opens (by decide) hends)

end Run

end WalletTrust

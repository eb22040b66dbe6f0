import WalletTrust.Proofs.AnyOrder
import WalletTrust.Proofs.LockIsolation
import WalletTrust.Proofs.Windows
import WalletTrust.Proofs.Writes

/-!
# Knocking

What a part of a connect request does at the gate with the window that it has opened there.

A connect request comes to the gate with a window: it has waited in it, or it comes at this moment.
While the session is locked the request waits there. Once it is unlocked the registries are loaded;
if that fails, so does the request, and the window stays open. If not, the window is asked to be
closed, and the request goes on to its questions and does not return to the gate.

The queue is shown in another window. So the listeners that are called when this one is closed do
nothing, and closing it is recorded and no more.

Whether the window came at once or late, from then on the request does the same, and `Wallet.Knocks`
is the point at which the two meet: the wallet has the window, the request is at the gate, and what
it does next depends on the signal alone. A window that comes late is closed in the same part if the
session is unlocked by then.

## Main definitions

* `Desktop.closings`: How often a window was to be closed.
* `Progress.Inside`: Not waiting at the gate.
* `Wallet.Knocks`: A part of a connect request comes to the gate with a window.

## Theorems

* `Desk.ClosesOwn.closings`: A window from before is not closed by whom it does not belong to.
* `Wallet.resume_inside`: Whoever is past the gate does not return to it.
* `Wallet.Knocks.goOn_locked`, `Wallet.Knocks.goOn_unlocked`: What comes of knocking.
* `Wallet.Knocks.passes`: Where the request comes past the gate the window has been closed.
* `Wallet.connect_opens`: A connect request waits in the window that it has opened.
* `Wallet.resume_unlocksIn`, `Wallet.perform_unlocksIn`: Whoever comes to wait in a window has just
  opened it.
* `Wallet.Knocks.goOn_locked`, `Wallet.Knocks.gate_unlocked`, `Wallet.Knocks.goOn_unlocked`: At the
  gate, while the session is locked and when it is not.
* `Desktop.eq_nextWindow`: A window that comes has the next number.
* `Desk.ClosesOwn.apart`: A window from before that the queue is not shown in stays apart.
-/

namespace WalletTrust

/-! ## How often a window is closed -/

/-- How often a window was named as the one to be closed. -/
def Desktop.closings (window : Nat) (d : Desktop) : Nat :=
  d.log.countP fun e => e.closes? = some window

theorem Desktop.requestWindow_nextWindow (d : Desktop) :
    (requestWindow d).2.nextWindow = d.nextWindow := by
  rw [requestWindow]
  split
  · rfl
  · rfl

/-- A window that comes has the next number. -/
theorem Desktop.eq_nextWindow {d : Desktop} {window : Nat} (h : d.opened = .ok window) :
    window = d.nextWindow := by
  rcases openWindow_cases d with ⟨cause, hrefused⟩ | hopened
  · rw [opened, hrefused] at h
    cases h
  · rw [opened, hopened] at h
    exact (Except.ok.inj h).symm

namespace Desk

variable {also : HostEvent → Prop} {d t : Desk} {window : Nat}

/-- A window from before that the queue is not shown in stays apart. -/
theorem ClosesOwn.apart (h : ClosesOwn also d t) (hold : window < d.desktop.nextWindow)
    (hapart : d.queue.popup ≠ some window) : t.queue.popup ≠ some window := by
  rcases h.holds with hsame | hnone | ⟨popup, hpopup, hnew, _⟩
  · rw [hsame]
    exact hapart
  · rw [hnone]
    exact (Option.some_ne_none _).symm
  · rw [hpopup]
    intro hsame
    rw [Option.some.inj hsame] at hnew
    exact absurd hold (Nat.not_lt_of_le hnew)

/-- It is not closed either, unless by what is allowed besides. -/
theorem ClosesOwn.closings (h : ClosesOwn also d t) (hold : window < d.desktop.nextWindow)
    (hapart : d.queue.popup ≠ some window) (halso : ∀ e, also e → e.closes? ≠ some window) :
    t.desktop.closings window = d.desktop.closings window := by
  rcases h.records with ⟨events, hlog, hall⟩
  have hnone : events.countP (fun e => e.closes? = some window) = 0 := by
    refine List.countP_eq_zero.2 fun e he => ?_
    rw [decide_eq_true_eq]
    intro hcloses
    rcases hall e he with howned | hallowed
    · rcases howned.own window hcloses with hheld | hnew
      · exact hapart hheld
      · exact absurd hold (Nat.not_lt_of_le hnew)
    · exact halso e hallowed hcloses
  rw [Desktop.closings, Desktop.closings, hlog, List.countP_append, hnone, Nat.add_zero]

end Desk

/-- Not waiting at the gate. -/
def Progress.Inside : Progress → Prop
  | .finished _ => True
  | .waiting on => on.gated? = none

theorem Progress.inside_of_over {p : Progress} (h : p.Over) : p.Inside := by
  cases p with
  | finished => exact trivial
  | waiting => exact h.elim

/-- Whoever waits in a window to unlock in waits at the gate. -/
theorem Waiting.unlocksIn?_eq_none {on : Waiting} (h : on.gated? = none) :
    on.unlocksIn? = none := by
  cases on with
  | unlock => cases h
  | _ => rfl

theorem Waiting.gated?_of_asked {on : Waiting} {id : UInt64} {channel : Nat} {errand : Errand}
    (h : on.asked? = some (id, channel, errand)) : on.gated? = none := by
  cases on with
  | window => rfl
  | answer => rfl
  | _ => cases h

namespace Wallet

open Op (Within Yields)

variable {w v x : Wallet} {on next : Waiting} {origin : String} {changeIdentity : Bool}
  {window : Nat}

/-! ## Inside the gate -/

theorem ask_inside (kind : RequestKind) (payload : Json) (errand : Errand) :
    Yields Progress.Inside (ask kind payload errand) := by
  unfold ask
  refine .bind fun submission => ?_
  cases submission with
  | queued => exact .pure rfl
  | opening => exact .pure rfl

theorem chooseIdentity_inside (origin : String) (changeIdentity : Bool) :
    Yields Progress.Inside (chooseIdentity origin changeIdentity) := by
  unfold chooseIdentity
  refine .bind fun w => ?_
  split
  · exact .pure trivial
  · exact ask_inside _ _ _

theorem seekApproval_inside (origin : String) (changeIdentity : Bool) :
    Yields Progress.Inside (seekApproval origin changeIdentity) := by
  unfold seekApproval
  refine .bind fun _ => ?_
  refine .ite ?_ ?_
  · refine .bind fun _ => ?_
    exact chooseIdentity_inside _ _
  · exact ask_inside _ _ _

/-- An answer never leads back to the gate. -/
theorem fulfil_inside (id : UInt64) (errand : Errand) (outcome : Except Error Json) :
    Yields Progress.Inside (fulfil id errand outcome) := by
  have hover {x : Op Wallet Progress} (h : Yields Progress.Over x) : Yields Progress.Inside x :=
    fun w p v hp => Progress.inside_of_over (h w p v hp)
  by_cases h : errand.Connects
  · cases errand with
    | approval origin changeIdentity =>
        refine .bind fun _ => ?_
        refine .bind fun _ => ?_
        refine .bind fun _ => ?_
        exact chooseIdentity_inside _ _
    | identityChoice origin => exact hover (choiceAnswered_over origin outcome)
    | _ => exact h.elim
  · exact hover (fulfil_over h id outcome)

/-- Whoever goes on inside the gate stays inside. -/
theorem resume_inside (h : on.gated? = none) (hrun : resume on w = (.ok (.waiting next), v)) :
    next.gated? = none := by
  have hgo := Op.mapError_ok hrun
  -- Inside there are questions only, and none leads back to the gate.
  rcases hasked : on.asked? with _ | ⟨id, channel, errand⟩
  · cases on with
    | unlockSignal => rw [unlockSignal_waits w _ v hgo next rfl]; rfl
    | lastWord => cases congrArg Prod.fst hgo
    | unlockWindow => cases h
    | unlock => cases h
    | _ => cases hasked
  · rcases goOn_looks hasked w with ⟨e, u, hfails, _⟩ | ⟨u, hlooks, _⟩
    · cases congrArg Prod.fst (hfails.symm.trans hgo)
    · rw [hlooks] at hgo
      rcases hanswer : u.core.queue.answer? channel with _ | outcome
      · rw [awaitAnswer_none hanswer] at hgo
        rcases Progress.waiting.inj (Except.ok.inj (congrArg Prod.fst hgo))
        rfl
      · rw [awaitAnswer_some hanswer] at hgo
        exact fulfil_inside id errand outcome u _ v hgo

/-! ## At the gate -/

/-- Loading the registries is no affair of the desk. -/
theorem loadRegistries_desk (w : Wallet) : (loadRegistries w).2.desk = w.desk := by
  rw [loadRegistries, Op.bind_apply]
  rcases hload : loadApprovals w with ⟨outcome, v⟩
  have hdesk : v.desk = w.desk := by
    rw [← (Prod.mk.inj hload).2]
    rfl
  cases outcome with
  | error => exact hdesk
  | ok => exact hdesk

/-- The desktop has no part in loading the registries. -/
theorem loadRegistries_desktop (desktop : Desktop) (w : Wallet) :
    (loadRegistries { w with host := { w.host with desktop } }).1 = (loadRegistries w).1 := by
  rcases hload : loadApprovals w with ⟨outcome, v⟩
  have hload' : loadApprovals { w with host := { w.host with desktop } } =
      (outcome, { v with host := { v.host with desktop } }) := by
    rw [← (Prod.mk.inj hload).1, ← (Prod.mk.inj hload).2]
    rfl
  cases outcome with
  | error => rw [loadRegistries, Op.bind_error hload, Op.bind_error hload']
  | ok =>
      rw [loadRegistries, Op.bind_ok hload, Op.bind_ok hload']
      rfl

/-- On the way in the registries fail to load, or the window is closed and that is all that is done
to the queue and the desktop. -/
theorem enter_cases (hapart : w.core.queue.popup ≠ some window) :
    (∃ e v, (loadRegistries w).1 = .error e ∧ enter window w = (.error e, v) ∧ v.desk = w.desk) ∨
    ∃ u v, (loadRegistries w).1 = .ok u ∧ enter window w = (.ok (), v) ∧ v.desk = { w.desk with
      desktop := w.host.desktop.record (.closeRequested (some window)) } := by
  have hdesk := loadRegistries_desk w
  rcases hload : loadRegistries w with ⟨outcome, t⟩
  rw [hload] at hdesk
  cases outcome with
  | error e => exact .inl ⟨e, t, rfl, by rw [enter, Op.bind_error hload], hdesk⟩
  | ok u =>
      have hclosed := Desk.closeWindow_recorded (d := t.desk) (some window) fun other hother => by
        rw [hdesk, ← Option.some.inj hother]
        exact hapart
      -- The registries are loaded, so there is nothing to load after the window is closed.
      rcases loadRegistries_loaded hload with ⟨ha, hc⟩
      rcases Option.isSome_iff_exists.1 ha with ⟨a, ha⟩
      rcases Option.isSome_iff_exists.1 hc with ⟨c, hc⟩
      refine .inr ⟨u, ((onDesk (Desk.closeWindow (some window))).ignore t).2, rfl, ?_, ?_⟩
      · rw [enter, Op.bind_ok hload, Op.bind_ok (x := Op.ignore _) rfl]
        exact loadRegistries_again (a := a) (c := c) ha hc
      · exact hclosed.trans (by rw [hdesk]; rfl)

/-- A part of a connect request comes to the gate with a window: the one that it has waited in, or
one that comes at this moment. There it finds the wallet as `x`. -/
structure Knocks (on : Waiting) (window : Nat) (origin : String) (changeIdentity : Bool)
    (w x : Wallet) : Prop where
  gated : on.gated? = some (origin, changeIdentity)
  gate : Wallet.gate on w = knock window origin changeIdentity x
  core : x.core = w.core
  loads : (loadRegistries x).1 = (loadRegistries w).1
  old : window < x.host.desktop.nextWindow
  closings : x.host.desktop.closings window = w.host.desktop.closings window

/-- Whoever has waited in a window knocks with that window. -/
theorem knocks_waited (hold : window < w.host.desktop.nextWindow) (origin : String)
    (changeIdentity : Bool) :
    Knocks (.unlock window origin changeIdentity) window origin changeIdentity w w :=
  ⟨rfl, rfl, rfl, rfl, hold, rfl⟩

/-- Whoever has waited for a window knocks when it comes. -/
theorem knocks_opened (hopened : w.host.desktop.opened = .ok window) (ticket : Nat)
    (origin : String) (changeIdentity : Bool) :
    ∃ x, Knocks (.unlockWindow ticket origin changeIdentity) window origin changeIdentity w x := by
  rcases openWindow_cases w with ⟨cause, hrefused, _⟩ | ⟨x, hnumber, hopen, hcore, hnext, hlog⟩
  · cases hopened.symm.trans hrefused
  rcases Except.ok.inj (hopened.symm.trans hnumber)
  refine ⟨x, rfl, by rw [gate, Op.bind_ok hopen], hcore, ?_, ?_, ?_⟩
  · rw [← (Prod.mk.inj hopen).2]
    exact loadRegistries_desktop _ w
  · rw [hnext]
    exact Nat.lt_succ_self _
  · rw [Desktop.closings, Desktop.closings, hlog, List.countP_append]
    rfl

namespace Knocks

/-- While the session is locked the request comes no further. -/
theorem gate_locked (h : Knocks on window origin changeIdentity w x)
    (hsignal : w.core.session.signal = false) :
    Wallet.gate on w = (.ok (some (.unlock window origin changeIdentity)), x) := by
  have hlocked : ¬ x.core.session.signal = true := by
    rw [h.core, hsignal]
    exact Bool.false_ne_true
  rw [h.gate, knock, Op.bind_ok (x := Op.get) rfl, if_neg hlocked]
  rfl

/-- Once it is unlocked the registries fail to load, or the request comes past the gate: the window
is closed, and the queue stays as it is. -/
theorem gate_unlocked (h : Knocks on window origin changeIdentity w x)
    (hsignal : w.core.session.signal = true) (hapart : w.core.queue.popup ≠ some window) :
    (∃ e v, (loadRegistries w).1 = .error e ∧ Wallet.gate on w = (.error e, v) ∧
      v.host.desktop.closings window = w.host.desktop.closings window) ∨
    ∃ u v, (loadRegistries w).1 = .ok u ∧ Wallet.gate on w = (.ok none, v) ∧
      v.core.queue = w.core.queue ∧ window < v.host.desktop.nextWindow ∧
      v.host.desktop.closings window = w.host.desktop.closings window + 1 := by
  have hgate : Wallet.gate on w =
      (enter window >>= fun _ => (pure none : Op Wallet (Option Waiting))) x := by
    rw [h.gate, knock, Op.bind_ok (x := Op.get) rfl, if_pos (by rw [h.core, hsignal])]
  rw [← h.core] at hapart
  -- The window is closed after the registries have loaded, and only then.
  rcases enter_cases hapart with ⟨e, v, hload, henter, hdesk⟩ | ⟨u, v, hload, henter, hdesk⟩
  · rw [Op.bind_error henter] at hgate
    refine .inl ⟨e, v, h.loads ▸ hload, hgate, ?_⟩
    rw [← h.closings]
    exact congrArg (fun d => d.desktop.closings window) hdesk
  · rw [Op.bind_ok henter] at hgate
    have hqueue : v.core.queue = x.core.queue := congrArg Desk.queue hdesk
    have hdesktop : v.host.desktop = x.host.desktop.record (.closeRequested (some window)) :=
      congrArg Desk.desktop hdesk
    refine .inr ⟨u, v, h.loads ▸ hload, hgate, by rw [hqueue, h.core], ?_, ?_⟩
    · rw [hdesktop]
      exact h.old
    · rw [← h.closings, hdesktop, Desktop.closings, Desktop.closings, Desktop.record,
        List.countP_append, List.countP_singleton]
      simp only [HostEvent.closes?, decide_true, if_true]

/-- As long as the session is locked the call waits on. -/
theorem goOn_locked (h : Knocks on window origin changeIdentity w x)
    (hsignal : w.core.session.signal = false) :
    goOn on w = (.ok (.waiting (.unlock window origin changeIdentity)), x) := by
  rw [goOn_gate h.gated, Op.bind_ok (h.gate_locked hsignal)]
  rfl

/-- Beyond the gate the window is not closed again, and the request does not come back to it. -/
theorem goOn_unlocked (h : Knocks on window origin changeIdentity w x)
    (hsignal : w.core.session.signal = true) (hapart : w.core.queue.popup ≠ some window) :
    (∃ e v, (loadRegistries w).1 = .error e ∧ goOn on w = (.error e, v) ∧
      v.host.desktop.closings window = w.host.desktop.closings window) ∨
    ∃ u v, (loadRegistries w).1 = .ok u ∧ Wallet.gate on w = (.ok none, v) ∧
      goOn on w = seekApproval origin changeIdentity v ∧
      (goOn on w).2.host.desktop.closings window = w.host.desktop.closings window + 1 := by
  rcases h.gate_unlocked hsignal hapart with
    ⟨e, v, hload, hgate, hcounts⟩ | ⟨u, v, hload, hgate, hqueue, hold, hcounts⟩
  · exact .inl ⟨e, v, hload, by rw [goOn_gate h.gated, Op.bind_error hgate], hcounts⟩
  · have hseeks : goOn on w = seekApproval origin changeIdentity v := by
      rw [goOn_gate h.gated, Op.bind_ok hgate]
      rfl
    -- What comes after the gate closes nothing, least of all this window.
    have hown : ClosesOwn (fun _ => False) v (seekApproval origin changeIdentity v).2 :=
      seekApproval_closesOwn origin changeIdentity v
    have hapart' : v.core.queue.popup ≠ some window := by
      rw [hqueue]
      exact hapart
    refine .inr ⟨u, v, hload, hgate, hseeks, ?_⟩
    rw [hseeks, ← hcounts]
    exact Desk.ClosesOwn.closings hown hold hapart' fun _ hfalse => hfalse.elim

/-- Where the request comes past the gate the window has been closed, and the queue is as it was. -/
theorem passes (h : Knocks on window origin changeIdentity w x)
    (hapart : w.core.queue.popup ≠ some window) (hgate : Wallet.gate on w = (.ok none, v)) :
    v.core.queue = w.core.queue ∧
      v.host.desktop.closings window = w.host.desktop.closings window + 1 := by
  rcases hsignal : w.core.session.signal with _ | _
  · cases congrArg Prod.fst ((h.gate_locked hsignal).symm.trans hgate)
  · rcases h.gate_unlocked hsignal hapart with
      ⟨_, _, _, hfails, _⟩ | ⟨_, t, _, hpasses, hqueue, _, hcounts⟩
    · cases congrArg Prod.fst (hfails.symm.trans hgate)
    · rcases (Prod.mk.inj (hpasses.symm.trans hgate)).2
      exact ⟨hqueue, hcounts⟩

/-- With the window there, the rest closes no other one. -/
theorem closesOwn {also : HostEvent → Prop} (h : Knocks on window origin changeIdentity w x)
    (halso : also (.closeRequested (some window))) : ClosesOwn also x (goOn on w).2 := by
  have hgo : goOn on w = awaitUnlock window origin changeIdentity x := by
    rw [goOn_gate h.gated, awaitUnlock_eq, Op.bind_apply, h.gate, ← Op.bind_apply]
  rw [hgo]
  exact awaitUnlock_closesOwn halso origin changeIdentity x

end Knocks

/-- A connect request that finds the session locked waits in the window that it has opened. -/
theorem connect_opens (horigin : origin ≠ "") (hlocked : w.core.session.isUnlocked = false)
    (hsignal : w.core.session.signal = false) (hfree : w.host.desktop.holdsNext = false)
    (hopened : w.host.desktop.opened = .ok window) (changeIdentity : Bool) :
    ∃ x, connect origin changeIdentity w =
        (.ok (.waiting (.unlock window origin changeIdentity)), x) ∧
      x.core = w.core ∧ window < x.host.desktop.nextWindow ∧
      x.host.desktop.closings window = w.host.desktop.closings window := by
  -- The window is asked for and comes at once, as if it had been held.
  let asked : Wallet := (onDesktop Desktop.requestWindow w).2
  have hrequest : onDesktop Desktop.requestWindow w = (.ok none, asked) :=
    Prod.ext (Desktop.requestWindow_free hfree).1 rfl
  have hopened' : asked.host.desktop.opened = .ok window :=
    (Desktop.requestWindow_opened _).trans hopened
  have hasked : asked.host.desktop = w.host.desktop.record .windowRequested := by
    have hdesktop : asked.host.desktop = (Desktop.requestWindow w.host.desktop).2 := rfl
    rw [hdesktop, Desktop.requestWindow, hfree]
    rfl
  rcases knocks_opened hopened' 0 origin changeIdentity with ⟨x, hx⟩
  have hwaits : openUnlockWindow origin changeIdentity asked =
      (.ok (.waiting (.unlock window origin changeIdentity)), x) := hx.goOn_locked hsignal
  have hstart : startConnect origin changeIdentity w =
      (.ok (.waiting (.unlock window origin changeIdentity)), x) := by
    rw [startConnect, if_neg horigin, Op.bind_ok (x := Op.get) rfl,
      if_neg (by rw [hlocked]; exact Bool.false_ne_true), Op.bind_ok hrequest]
    exact hwaits
  refine ⟨x, Op.mapError_of_ok hstart _, hx.core, hx.old, ?_⟩
  rw [hx.closings, hasked, Desktop.closings, Desktop.closings, Desktop.record, List.countP_append]
  rfl

/-! ## Who waits in which window -/

/-- Whoever waits on does so in the same window. -/
theorem awaitUnlock_unlocksIn (window : Nat) (origin : String) (changeIdentity : Bool) :
    Yields (fun p => ∀ next other, p = .waiting next → next.unlocksIn? = some other →
      other = window) (awaitUnlock window origin changeIdentity) := by
  unfold awaitUnlock
  refine .bind fun _ => ?_
  refine .ite ?_ ?_
  · refine .bind fun _ => ?_
    refine .bind fun _ => ?_
    refine .bind fun _ => ?_
    refine fun w p v hp next other hnext hwindow => ?_
    rcases hnext
    rw [Waiting.unlocksIn?_eq_none (seekApproval_inside origin changeIdentity w _ v hp)] at hwindow
    cases hwindow
  · refine .pure ?_
    intro next other hnext hwindow
    rcases hnext
    exact (Option.some.inj hwindow).symm

theorem openUnlockWindow_unlocksIn
    (hrun : openUnlockWindow origin changeIdentity w = (.ok (.waiting next), v))
    (hnext : next.unlocksIn? = some window) :
    w.host.desktop.nextWindow = window ∧ window < v.host.desktop.nextWindow := by
  rcases Op.bind_cases hrun with ⟨opened, t, hopen, hawait⟩
  have hsame := awaitUnlock_unlocksIn opened origin changeIdentity t _ v hawait next window rfl
    hnext
  rcases openWindow_cases w with ⟨cause, _, hrefused⟩ | ⟨t', _, hopen', _, hnumber, _⟩
  · cases congrArg Prod.fst (hrefused.symm.trans hopen)
  · rcases Prod.mk.inj (hopen'.symm.trans hopen) with ⟨hopened, rfl⟩
    have hown : ClosesOwn (fun _ => True) t' (awaitUnlock opened origin changeIdentity t').2 :=
      awaitUnlock_closesOwn trivial origin changeIdentity t'
    rw [hawait] at hown
    refine ⟨(Except.ok.inj hopened).trans hsame.symm, Nat.lt_of_lt_of_le ?_ hown.numbers⟩
    exact Nat.lt_of_lt_of_eq (hsame ▸ Except.ok.inj hopened ▸ Nat.lt_succ_self _) hnumber.symm

/-- A call that waits in a window after a part did so before, or the window is new. -/
theorem resume_unlocksIn (hrun : resume on w = (.ok (.waiting next), v))
    (hnext : next.unlocksIn? = some window) : on.unlocksIn? = some window ∨
      w.host.desktop.nextWindow = window ∧ window < v.host.desktop.nextWindow := by
  rcases hgated : on.gated? with _ | _
  · rw [Waiting.unlocksIn?_eq_none (resume_inside hgated hrun)] at hnext
    cases hnext
  · have hgo := Op.mapError_ok hrun
    cases on with
    | unlockWindow => exact .inr (openUnlockWindow_unlocksIn hgo hnext)
    | unlock =>
        rw [awaitUnlock_unlocksIn _ _ _ w _ v hgo next window rfl hnext]
        exact .inl rfl
    | _ => cases hgated

theorem perform_unlocksIn {call : Call} (hrun : perform call w = (.ok (.waiting next), v))
    (hnext : next.unlocksIn? = some window) :
    w.host.desktop.nextWindow = window ∧ window < v.host.desktop.nextWindow := by
  -- Of the calls that wait only a connect request can wait in a window of its own.
  have houtside : ∀ {o}, next.gated? = o → o ≠ none := by
    rintro _ hgated rfl
    rw [Waiting.unlocksIn?_eq_none hgated] at hnext
    cases hnext
  rcases perform_waiting hrun with hasks | ⟨o, c, rfl, _⟩ | ⟨_, rfl⟩
  · rcases Option.isSome_iff_exists.1 hasks with ⟨q, hq⟩
    rcases perform_asks hq with ⟨on', _, _, _, hask, hasked, _⟩ | ⟨_, _, hask, _⟩
    · rcases Progress.waiting.inj (Except.ok.inj (congrArg Prod.fst (hask.symm.trans hrun)))
      exact absurd rfl (houtside (Waiting.gated?_of_asked hasked))
    · cases congrArg Prod.fst (hask.symm.trans hrun)
  · have hstart := Op.mapError_ok hrun
    rw [startConnect] at hstart
    split at hstart
    · cases congrArg Prod.fst hstart
    · rw [Op.bind_ok (x := Op.get) rfl] at hstart
      split at hstart
      · rcases Op.bind_cases hstart with ⟨_, t, _, hseek⟩
        exact absurd rfl (houtside (seekApproval_inside o c t _ v hseek))
      · rcases Op.bind_cases hstart with ⟨ticket, t, hrequest, hopens⟩
        cases ticket with
        | some ticket =>
            rcases Progress.waiting.inj (Except.ok.inj (congrArg Prod.fst hopens))
            cases hnext
        | none =>
            have hnumber : t.host.desktop.nextWindow = w.host.desktop.nextWindow := by
              rw [← (Prod.mk.inj hrequest).2]
              exact Desktop.requestWindow_nextWindow _
            rw [← hnumber]
            exact openUnlockWindow_unlocksIn hopens hnext
  · cases hnext

end Wallet

end WalletTrust

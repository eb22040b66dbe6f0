import WalletTrust.Proofs.CallDeeds
import WalletTrust.Proofs.Run

/-!
# Deeds of Stages

What a stage of a run does to the secret, the registries and what is kept of them.

A stage that runs a part of a call does the deeds of that call, or of going on with it. Any other
stage leaves everything in memory as it is, and of the texts in the slots it changes only what is
written from outside.

From here on a run is an order of deeds. Facts that are about the registries and the secret alone
are proved of acts and then of stages by `Run.deeds_stage`, and none of them looks at calls or flows
again. What comes from outside is kept apart from the deeds, because there is no telling what
somebody else writes: it is said of a stage into which slots it may have been written, and each
theorem that cannot do with that excludes it for the slots that it is about.

## Main definitions

* `HostAction.Writes`: The slots into which a change from outside writes.
* `Wallet.Outside`: Only some slots are written to.
* `Run.SetsUp`, `Run.Unlocks`: A stage sets up the password, or unlocks the session.

## Theorems

* `Wallet.undergo_outside`: What comes from outside reaches the slots only.
* `Run.deeds_stage`: What a stage does.
* `Run.always`: What acts preserve holds throughout a run.
* `Run.config_eq`: The configuration stays.
* `Run.Idle.outside`: A stage that runs no part of a call reaches the slots only.
* `Run.unlocks_of_deeds`: A session is unlocked where there is a verifier.
-/

namespace WalletTrust

/-! ## What comes from outside -/

/-- The slots into which a change from outside writes. -/
def HostAction.Writes : HostAction → String → Prop
  | .write slot _, name => name = slot
  | .writeSealed slot _ _ _, name => name = slot
  | .erase slot, name => name = slot
  | _, _ => False

namespace Wallet

variable {deeds : Deed → Prop} {w v : Wallet}

/-- What is in memory is as it was, and so are the texts in all but some slots. -/
structure Outside (written : String → Prop) (w v : Wallet) : Prop where
  config : v.config = w.config
  session : v.core.session = w.core.session
  approvals : v.core.approvals = w.core.approvals
  connections : v.core.connections = w.core.connections
  kept : ∀ name, ¬ written name → v.kept name = w.kept name

theorem onSlot_outside {α : Type} (slot : String) (x : Op Slot α) (w : Wallet) :
    w.Outside (· = slot) (onSlot slot x w).2 where
  config := rfl
  session := rfl
  approvals := rfl
  connections := rfl
  kept _ hname := kept_put (.inr hname)

/-- A setting of a slot is no text in it. -/
theorem onSlot_setting (slot : String) {f : Slot → Slot} (h : ∀ s, (f s).value = s.value)
    (written : String → Prop) (w : Wallet) :
    w.Outside written (onSlot slot (Op.modify f) w).2 where
  config := rfl
  session := rfl
  approvals := rfl
  connections := rfl
  kept _ _ := kept_put (.inl (h _))

theorem Outside.of_apart {written : String → Prop} (h : w.Apart v) : w.Outside written v where
  config := h.config
  session := h.session
  approvals := h.approvals
  connections := h.connections
  kept name _ := by rw [Wallet.kept, Wallet.kept, h.storage]

/-- What comes from outside reaches the slots only. -/
theorem undergo_outside (action : HostAction) (w : Wallet) :
    w.Outside action.Writes (undergo action w).2 := by
  have hapart {f : Host → Host} (h : ∀ host, (f host).storage = host.storage) :
      w.Outside (fun _ => False) (onHost f w).2 :=
    .of_apart ⟨rfl, h w.host, rfl, rfl, rfl⟩
  cases action with
  | setFault part broken =>
      refine hapart fun host => ?_
      cases part with
      | _ => rfl
  | setReadable slot readable =>
      exact onSlot_setting slot (f := fun s => { s with readable }) (fun _ => rfl) _ w
  | setClearable slot clearable =>
      exact onSlot_setting slot (f := fun s => { s with clearable }) (fun _ => rfl) _ w
  | setQuota slot bytes =>
      exact onSlot_setting slot (f := fun s => { s with quota := bytes }) (fun _ => rfl) _ w
  | write slot value => exact onSlot_outside slot _ w
  | writeSealed slot plain secret purpose =>
      -- Sealing draws randomness, and then it is a write like any other.
      have hwrite := onSlot_outside slot
        (Slot.write (SealedText.sealFresh plain secret purpose w.host.entropy).1)
        { w with host := { w.host with
          entropy := (SealedText.sealFresh plain secret purpose w.host.entropy).2 } }
      exact ⟨hwrite.config, hwrite.session, hwrite.approvals, hwrite.connections, hwrite.kept⟩
  | erase slot => exact onSlot_outside slot _ w
  | useProver prover =>
      refine hapart fun host => ?_
      rw [Host.useProver]
      split
      · rfl
      · rfl
  | useSandbox sandbox =>
      refine hapart fun host => ?_
      rw [Host.useSandbox]
      split
      · rfl
      · rfl
  | _ => exact .of_apart ⟨rfl, rfl, rfl, rfl, rfl⟩

theorem Outside.refl (written : String → Prop) (w : Wallet) : w.Outside written w :=
  .of_apart ⟨rfl, rfl, rfl, rfl, rfl⟩

end Wallet

/-! ## Stages -/

theorem System.cancel_apart (n : Nat) (s : System) : s.wallet.Apart (s.cancel n).2.wallet := by
  rw [cancel]
  split
  · exact ⟨rfl, rfl, rfl, rfl, rfl⟩
  · split
    · exact ⟨rfl, rfl, rfl, rfl, rfl⟩
    · exact ⟨rfl, rfl, rfl, rfl, rfl⟩

namespace Run

variable {run : Run} {t : Nat}

/-- What may be written from outside in a stage. -/
def WrittenAt (run : Run) (t : Nat) (name : String) : Prop :=
  ∃ action, run.move t = .host action ∧ action.Writes name

theorem acts_call {call : Call} (h : run.move t = .call call) :
    Wallet.Acts (call.Deeds (run.wallet t)) (run.wallet t) (run.wallet (t + 1)) := by
  rw [wallet_call h]
  exact Wallet.perform_acts call _

theorem acts_goOn {n : Nat} {on : Waiting} (h : run.GoesOn t n on) :
    Wallet.Acts (on.Deeds (run.wallet t)) (run.wallet t) (run.wallet (t + 1)) := by
  rw [wallet_goOn h]
  exact Wallet.resume_acts on _

/-- What a stage does to the secret, the registries and what is kept of them. -/
theorem deeds_stage (run : Run) (t : Nat) :
    (∃ call, run.move t = .call call ∧
      Wallet.Acts (call.Deeds (run.wallet t)) (run.wallet t) (run.wallet (t + 1))) ∨
    (∃ n on, run.GoesOn t n on ∧
      Wallet.Acts (on.Deeds (run.wallet t)) (run.wallet t) (run.wallet (t + 1))) ∨
    (run.wallet t).Outside (run.WrittenAt t) (run.wallet (t + 1)) := by
  rcases hmove : run.move t with call | n | action | n
  · exact .inl ⟨call, rfl, acts_call hmove⟩
  · refine .inr ?_
    by_cases hgoes : ∃ on, run.GoesOn t n on
    · rcases hgoes with ⟨on, hgoes⟩
      exact .inl ⟨n, on, hgoes, acts_goOn hgoes⟩
    · have hsame : run.wallet (t + 1) = run.wallet t :=
        congrArg System.wallet (system_unready hmove fun on h => hgoes ⟨on, h⟩)
      rw [hsame]
      exact .inr (.refl _ _)
  -- What comes from outside may write slots, and is recorded as such.
  · have hwallet : run.wallet (t + 1) = (Wallet.undergo action (run.wallet t)).2 := by
      rw [wallet, system, hmove]
      rfl
    refine .inr (.inr ?_)
    rw [hwallet]
    have hout := Wallet.undergo_outside action (run.wallet t)
    exact {
      config := hout.config
      session := hout.session
      approvals := hout.approvals
      connections := hout.connections
      kept := fun name hname => hout.kept name fun hwrites => hname ⟨action, hmove, hwrites⟩ }
  · -- Giving up a wait takes it off the list of those that wait, and that is all.
    refine .inr (.inr (.of_apart ?_))
    have hwallet : run.wallet (t + 1) = ((run.system t).cancel n).2.wallet := by
      rw [wallet, system, hmove]
      rfl
    rw [hwallet]
    exact System.cancel_apart n _

/-- A stage that runs no part of a call reaches the slots only. -/
theorem Idle.outside (h : run.Idle t) :
    (run.wallet t).Outside (run.WrittenAt t) (run.wallet (t + 1)) := by
  rcases run.deeds_stage t with ⟨call, hmove, _⟩ | ⟨n, on, hgoes, _⟩ | hout
  · exact absurd hmove (h.uncalled call)
  · exact absurd hgoes (h.unresumed n on)
  · exact hout

/-- What holds at first holds throughout, if no act ends it and nothing from outside does. -/
theorem always {P : Wallet → Prop} (hfirst : P (run.wallet 0))
    (hacts : ∀ deeds t, Wallet.Acts deeds (run.wallet t) (run.wallet (t + 1)) →
      P (run.wallet t) → P (run.wallet (t + 1)))
    (houtside : ∀ t, (run.wallet t).Outside (run.WrittenAt t) (run.wallet (t + 1)) →
      P (run.wallet t) → P (run.wallet (t + 1))) (t : Nat) : P (run.wallet t) := by
  induction t with
  | zero => exact hfirst
  | succ t ih =>
      -- Which deeds the stage does plays no part here, only that it goes by acts.
      rcases run.deeds_stage t with ⟨_, _, hinside⟩ | ⟨_, _, _, hinside⟩ | hout
      · exact hacts _ t hinside ih
      · exact hacts _ t hinside ih
      · exact houtside t hout ih

theorem config_eq (run : Run) (t : Nat) : (run.wallet t).config = run.config :=
  always (P := fun w => w.config = run.config) rfl (fun _ _ h => h.config.trans)
    (fun _ h => h.config.trans) t

/-! ## Stages of the session -/

/-- A call sets up the password: it writes the first verifier. -/
structure SetsUp (run : Run) (t : Nat) (password : String) : Prop where
  move : run.move t = .call (.setupPassword password) ∨ run.move t = .call (.setupLock password)
  empty : (run.wallet t).kept run.config.storageKeys.password = none
  written : ((run.wallet (t + 1)).kept run.config.storageKeys.password).isSome

/-- A call unlocks the session. -/
structure Unlocks (run : Run) (t : Nat) (password : String) : Prop where
  move : run.move t = .call (.unlock password) ∨ run.move t = .call (.openLock password)
  locked : (run.wallet t).core.session.secret = none
  unlocked : (run.wallet (t + 1)).core.session.secret = some password

variable {call : Call} {password : String}

theorem setsUp_of_deeds (hmove : run.move t = .call call)
    (h : call.Deeds (run.wallet t) (.setUp password)) : run.SetsUp t password := by
  rcases h with ⟨hcall, hempty, hwritten⟩
  rw [run.config_eq t] at hempty hwritten
  rw [← wallet_call hmove] at hwritten
  exact ⟨hcall.imp (fun h => by rw [hmove, h]) fun h => by rw [hmove, h], hempty, hwritten⟩

/-- A session is unlocked where there is a verifier. -/
theorem unlocks_of_deeds (hmove : run.move t = .call call)
    (h : call.Deeds (run.wallet t) (.unlock password)) :
    run.Unlocks t password ∧ ((run.wallet t).kept run.config.storageKeys.password).isSome := by
  rcases h with ⟨hcall, hlocked, hverifier, hunlocked⟩
  rw [run.config_eq t] at hverifier
  rw [← wallet_call hmove] at hunlocked
  exact ⟨⟨hcall.imp (fun h => by rw [hmove, h]) fun h => by rw [hmove, h], hlocked, hunlocked⟩,
    hverifier⟩

end Run

end WalletTrust

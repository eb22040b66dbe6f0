import WalletTrust.Proofs.Run
import WalletTrust.Proofs.Sealing

/-!
# Runs That Can Be Computed

How to find out what a concrete run does.

A run is a function of its stages, so the state after some stages can be computed. What cannot be
computed within reason is whether a sealed text opens, and setting up a password tries the password
on its verifier. By `Sealing` the trial succeeds, so it may be left out: the password is adopted
instead. From there on nothing looks into a sealed text until the session is locked.

A run of which something concrete is to be shown is therefore taken apart. Up to the stage that sets
up the password it is computed as it stands, and from there on with the adopted password in the
place of the trial; both parts are then closed terms that evaluate. Where a run is at rest after its
last move, only the stages up to that move have to be looked at to say something of all stages.

## Main definitions

* `Run.after`: What becomes of a system in some stages of a run.

## Theorems

* `Run.system_add`: The stages of a run, from any of them on.
* `Run.system_rests`, `Run.always_of_rests`: A run in which nothing happens any more.
* `Run.system_adopts`, `Run.system_adopts_add`: Setting up a password adopts it.
-/

namespace WalletTrust

namespace Run

variable {run : Run} {t : Nat} {password : String}

/-- What becomes of a system that is there in a stage, some stages later. -/
def after (run : Run) (t : Nat) (s : System) : Nat → System
  | 0 => s
  | d + 1 => ((run.move (t + d)).step (t + d) (run.after t s d)).2

theorem system_add (run : Run) (t d : Nat) : run.system (t + d) = run.after t (run.system t) d := by
  induction d with
  | zero => rfl
  | succ d ih =>
      rw [after, ← ih]
      rfl

/-- Nothing happens any more if all that is left is going on with a call that does not wait. -/
theorem system_rests {n : Nat} (hmove : ∀ d, run.move (t + d) = .goOn n)
    (hnone : (run.system t).waiting? n = none) (d : Nat) : run.system (t + d) = run.system t := by
  induction d with
  | zero => rfl
  | succ d ih =>
      have hstep : run.system (t + d + 1) =
          (((run.system t).resume n).getD (none, run.system t)).2 := by
        rw [system, hmove, ih]
        rfl
      rw [← Nat.add_assoc, hstep, System.resume, hnone]
      rfl

/-- What holds until nothing happens any more holds at all times. -/
theorem always_of_rests {P : Wallet → Prop} {s n : Nat} (hfirst : ∀ u < s, P (run.wallet u))
    (hthen : ∀ d ≤ t, P (run.wallet (s + d))) (hmove : ∀ d, run.move (s + t + d) = .goOn n)
    (hnone : (run.system (s + t)).waiting? n = none) (u : Nat) : P (run.wallet u) := by
  rcases Nat.lt_or_ge u s with hlt | hge
  · exact hfirst u hlt
  rcases Nat.exists_eq_add_of_le hge with ⟨d, rfl⟩
  rcases Nat.le_total d t with hearly | hlate
  · exact hthen d hearly
  · rcases Nat.exists_eq_add_of_le hlate with ⟨e, rfl⟩
    rw [wallet, ← Nat.add_assoc, system_rests hmove hnone e]
    exact hthen t (Nat.le_refl t)

/-- A password that is set up where there is none is adopted. -/
theorem system_adopts (h : run.move t = .call (.setupPassword password)) (hp : password ≠ "")
    (hreads : ((run.wallet t).host.storage.slot
      (run.wallet t).config.storageKeys.password).readable = true)
    (hempty : ((run.wallet t).host.storage.slot
      (run.wallet t).config.storageKeys.password).value = none)
    (hlocked : (run.wallet t).core.session.isUnlocked = false) :
    run.system (t + 1) =
      (System.run t (Wallet.finish .flag (Wallet.adopt password)) (run.system t)).2 := by
  have hperform : Wallet.perform (.setupPassword password) (run.system t).wallet =
      Wallet.finish .flag (Wallet.adopt password) (run.system t).wallet :=
    Wallet.perform_adopts hp hreads hempty hlocked
  rw [system_after_call h, System.run_congr hperform]

/-- Then the stages after that can be computed. -/
theorem system_adopts_add (h : run.move t = .call (.setupPassword password)) (hp : password ≠ "")
    (hreads : ((run.wallet t).host.storage.slot
      (run.wallet t).config.storageKeys.password).readable = true)
    (hempty : ((run.wallet t).host.storage.slot
      (run.wallet t).config.storageKeys.password).value = none)
    (hlocked : (run.wallet t).core.session.isUnlocked = false) (d : Nat) :
    run.system (t + 1 + d) = run.after (t + 1)
      (System.run t (Wallet.finish .flag (Wallet.adopt password)) (run.system t)).2 d := by
  rw [system_add, system_adopts h hp hreads hempty hlocked]

end Run

end WalletTrust

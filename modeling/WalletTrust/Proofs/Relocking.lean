import WalletTrust.Proofs.Locked
import WalletTrust.Proofs.LockRun
import WalletTrust.Proofs.Mirror

/-!
# Locking Loses Nothing

A wallet that is locked and unlocked again has what it had.

Locking forgets the secret and the registries, so whatever comes back has to come out of the slots.
It does, because of two things that are true of a wallet at all times. The secret that is held opens
the verifier, so the same password is accepted again. And a registry that is loaded is what its slot
holds under that secret, so the same map is read again. Both are about texts in slots, and from the
moment of locking to the next unlocking no slot is written to, however often the wallet is locked
again and however many wrong passwords are tried. So they still hold, and one cycle is like any
other.

What can come between is a slot that cannot be read. Then unlocking fails, for the verifier is read
to check the password, and the two registries are loaded.

## Main definitions

* `Wallet.Knock`, `Wallet.Lull`: Locking again, and trying passwords that are refused.
* `Wallet.Cycle`: From locking a wallet to unlocking it with a given password.
* `Wallet.Holding`: The secret that is held and the maps that are loaded.
* `Wallet.Legible`: The three slots can be read.
* `Wallet.Resumes`: What is true of a locked wallet if nothing is lost.
* `Wallet.Unwritten`: An operation that writes into no slot.

## Theorems

* `Run.lock_sound`: At all times the secret opens the verifier.
* `Wallet.Lull.sleeps`: Whatever is tried on a locked wallet leaves it as it is.
* `Wallet.Restorable.unlock`: The password brings back what the slots hold.
* `Run.locking_loses_nothing`: Any number of cycles.
* `Run.shutSlot_stays_locked`: If a slot cannot be read, the right password fails.
* `Wallet.unlockSession_cases`: The session of a locked wallet opens, or it refuses and the wallet
  stays as it is.
* `Wallet.loadRegistries_error`: With the secret, the registries fail to load for what is in their
  slots.
* `Wallet.Restorable.loadRegistries`, `Wallet.readable_of_loadRegistries`: The registries load just
  if their slots can be read.
* `Run.locking_loses_nothing_oneApproved`: A wallet that is locked, refused and unlocked, twice.
-/

namespace WalletTrust

open Op (Within)
open Relation (ReflTransGen)

/-! ## How loading fails -/

/-- A password was refused for being wrong or missing. -/
def Error.RefusesPassword : Error → Prop
  | .incorrectPassword => True
  | .notProvided => True
  | _ => False

namespace SealedText

/-- That sealed bytes cannot be opened is no refusal of a password. -/
theorem openBytes_error {data : Bytes} {secret : String} {purpose : Purpose} {e : Error}
    (h : openBytes data secret purpose = .error e) : ¬ e.RefusesPassword := by
  rw [openBytes] at h
  split at h
  · rw [← Except.error.inj h]
    exact id
  · dsimp only at h
    split at h
    · rw [← Except.error.inj h]
      exact id
    · split at h
      · rw [← Except.error.inj h]
        exact id
      · cases h

/-- That a text does not open is no matter of a password that was refused. -/
theorem open_error {sealed secret : String} {purpose : Purpose} {e : Error}
    (h : SealedText.open sealed secret purpose = .error e) : ¬ e.RefusesPassword := by
  rw [SealedText.open] at h
  split at h
  · rw [← Except.error.inj h]
    exact id
  · exact openBytes_error h

end SealedText

namespace Shelf

variable {α : Type}

/-- Neither is it that a slot cannot be read. -/
theorem read_fails : Op.Fails (¬ ·.RefusesPassword) (onSlot Slot.read : Op (Shelf α) _) := by
  refine .zoom fun s e h => ?_
  rw [Slot.read] at h
  split at h
  · cases h
  · rw [← Except.error.inj h]
    exact id

variable [Wire α] {label : ShelfLabel} {key : String}

/-- Nor that what was sealed is not a map. -/
theorem parse_error {plain : String} {e : Error}
    (h : (parse label plain : Except Error (OriginMap α)) = .error e) : ¬ e.RefusesPassword := by
  rw [parse] at h
  split at h
  · cases h
  · rw [← Except.error.inj h]
    exact id

/-- With the secret, loading fails for what the slot holds, or because it cannot be read. -/
theorem load_fails (label : ShelfLabel) (key : String) :
    Op.Fails (¬ ·.RefusesPassword) (load label (some key) : Op (Shelf α) Unit) := by
  unfold load
  refine .bind .get fun s => ?_
  refine .ite ?_ ?_
  · exact .pure _
  · refine .bind (.pure _) fun _ => ?_
    refine .bind read_fails fun o => ?_
    cases o with
    | none => exact .modify _
    | some sealed =>
        refine .bind (.ofExcept fun _ => SealedText.open_error) fun _ => ?_
        refine .bind (.ofExcept fun _ => parse_error) fun _ => ?_
        exact .modify _

/-- Loading leaves the slot as it is. -/
theorem load_slot (label : ShelfLabel) (secret : Option String) (s : Shelf α) :
    (load label secret s).2.slot = s.slot := by
  rcases hentries : s.entries with _ | m
  · cases secret with
    | none => rw [load_locked hentries]
    | some key =>
        rcases load_cases label key hentries with ⟨e, hrun⟩ | ⟨m, _, hrun⟩
        · rw [hrun]
        · rw [hrun]
  · rw [load_loaded secret hentries]

/-- What was not loaded is loaded from a slot that can be read only. -/
theorem readable_of_load {s t : Shelf α} {u : Unit} (hentries : s.entries = none)
    (h : load label (some key) s = (.ok u, t)) : s.slot.readable = true := by
  rcases hreadable : s.slot.readable with _ | _
  · rw [load_unloaded hentries, Op.bind_error (read_unreadable hreadable)] at h
    cases congrArg Prod.fst h
  · rfl

end Shelf

/-! ## The secret opens the verifier -/

namespace Wallet

variable {α : Type} {deeds : Deed → Prop} {w v : Wallet}

/-- Acts that neither unlock the session nor set up a password keep a lock sound. -/
theorem Acts.lock_sound (h : Acts deeds w v) (hkeys : w.config.storageKeys.Distinct)
    (hdeeds : ∀ q, ¬ deeds (.unlock q) ∧ ¬ deeds (.setUp q)) (hw : w.lock.Sound) :
    v.lock.Sound := by
  induction h with
  | refl => exact hw
  | @tail u v hacts hact ih =>
      have hconfig : u.config = w.config := Acts.config hacts
      have hkept : v.lock.verifier.value = u.lock.verifier.value := by
        have hname : v.lock.verifier.value = v.kept u.config.storageKeys.password := by
          rw [← hact.config]
          rfl
        rw [hname]
        rcases hact.kept u.config.storageKeys.password with
          hsame | ⟨_, ⟨hname, _⟩ | ⟨hname, _⟩⟩ | ⟨_, q, hdeed⟩
        · exact hsame
        · rw [hconfig] at hname
          exact absurd hname hkeys.approvals
        · rw [hconfig] at hname
          exact absurd hname hkeys.connections
        · exact absurd hdeed (hdeeds q).2
      -- The session stays, or it is locked.
      cases hact with
      | apart happart => exact ih.of_same happart.session hkept
      | approvals s hshelf hv => exact ih.of_same (by rw [hv]; rfl) hkept
      | connections s hshelf hv => exact ih.of_same (by rw [hv]; rfl) hkept
      | lock l hlock hv =>
          rw [hv] at hkept ⊢
          cases hlock with
          | still hsession hslot => exact ih.of_same hsession hkept
          | unlocked q verifier hdeed => exact absurd hdeed (hdeeds q).1
          | setUp q hdeed => exact absurd hdeed (hdeeds q).2
      | shut hdeed hv => exact .of_locked (by rw [hv]; rfl)

/-- What comes from outside leaves the verifier sound if it writes nothing into its slot. -/
theorem Outside.lock_sound {written : String → Prop} (h : w.Outside written v)
    (hwritten : ¬ written w.config.storageKeys.password) (hw : w.lock.Sound) : v.lock.Sound := by
  refine hw.of_same h.session ?_
  have hkept := h.kept _ hwritten
  rw [Wallet.kept, Wallet.kept, ← h.config] at hkept
  rw [lock, hkept, lock, h.config]

/-- A call that goes to the lock first, and does no deed after it, keeps the lock sound. -/
theorem lock_sound_after {β : Type} {m : LockMove} {x : Op SessionLock Bool}
    {f : Bool → Op Wallet β} (hmove : ∀ l, (m.step l).2 = (x l).2)
    (hf : ∀ b, Within (Acts Harmless) (f b)) (hkeys : w.config.storageKeys.Distinct)
    (hw : w.lock.Sound) : ((onLock x >>= f) w).2.lock.Sound := by
  have hrest : Acts Harmless (onLock x w).2 ((onLock x >>= f) w).2 := Within.after hf w
  have hstep := LockMove.step_sound m hw
  rw [hmove] at hstep
  refine Acts.lock_sound hrest hkeys (fun q => ⟨id, id⟩) ?_
  rw [onLock_apply, lock_putLock]
  exact hstep

/-- And so does every call, since the verifier is written once and never over another. -/
theorem perform_lock_sound (call : Call) (hkeys : w.config.storageKeys.Distinct)
    (hw : w.lock.Sound) : (perform call w).2.lock.Sound := by
  have hload : ∀ _ : Bool,
      Within (Acts Harmless) (do loadRegistries; return true : Op Wallet Bool) :=
    fun _ => .bind loadRegistries_acts fun _ => .pure _
  cases call with
  | setupPassword p =>
      rw [perform, finish, Op.bind_pure_state]
      exact lock_sound_after (m := .setupPassword p) (fun _ => Op.bind_pure_state _ _ _) hload hkeys
        hw
  | unlock p =>
      rw [perform, finish, Op.bind_pure_state]
      exact lock_sound_after (m := .unlock p) (fun _ => Op.bind_pure_state _ _ _) hload hkeys hw
  | setupLock p =>
      exact lock_sound_after (m := .setupPassword p) (fun _ => Op.bind_pure_state _ _ _)
        (fun _ => .pure _) hkeys hw
  | openLock p =>
      exact lock_sound_after (m := .unlock p) (fun _ => Op.bind_pure_state _ _ _)
        (fun _ => .pure _) hkeys hw
  | _ =>
      -- Unlocking and setting up a password are deeds of the four calls above only.
      refine Acts.lock_sound (perform_acts _ w) hkeys (fun q => ⟨fun hd => ?_, fun hd => ?_⟩) hw
      · rcases hd.1 with hcall | hcall
        · cases hcall
        · cases hcall
      · rcases hd.1 with hcall | hcall
        · cases hcall
        · cases hcall

end Wallet

/-! ## Locking, and what is tried then -/

namespace Wallet

variable {α : Type} {w v u : Wallet} {key : String} {a : OriginMap HostPermission}
  {c : OriginMap ConnectedIdentity}

/-- An operation that writes into no slot. -/
abbrev Unwritten (x : Op Wallet α) : Prop :=
  Within (Op.Same fun w => (w.config, w.host.storage)) x

/-- The session writes into the slot of the verifier, and into no other. -/
theorem onLock_unwritten {x : Op SessionLock α} (h : ∀ l, (x l).2.verifier = l.verifier) :
    Unwritten (onLock x) := by
  intro w
  have hstorage : (onLock x w).2.host.storage =
    w.host.storage.put w.config.storageKeys.password (x w.lock).2.verifier := rfl
  rw [Op.Same, hstorage, h w.lock]
  exact congrArg (Prod.mk _) (Storage.put_slot _ _)

theorem onDesktop_unwritten (x : Op Desktop α) : Unwritten (onDesktop x) := fun _ => rfl

/-- What is loaded is read. -/
theorem loadApprovals_unwritten : Unwritten loadApprovals := by
  intro w
  have hstorage : (loadApprovals w).2.host.storage =
    w.host.storage.put w.config.storageKeys.approvals
      (Shelf.load approvalsLabel w.core.session.secret w.approvalShelf).2.slot := rfl
  rw [Op.Same, hstorage, Shelf.load_slot]
  exact congrArg (Prod.mk _) (Storage.put_slot _ _)

theorem loadConnections_unwritten : Unwritten loadConnections := by
  intro w
  have hstorage : (loadConnections w).2.host.storage =
    w.host.storage.put w.config.storageKeys.connections
      (Shelf.load connectionsLabel w.core.session.secret w.connectionShelf).2.slot := rfl
  rw [Op.Same, hstorage, Shelf.load_slot]
  exact congrArg (Prod.mk _) (Storage.put_slot _ _)

/-- To compare a password with the verifier is to read it. -/
theorem unlockSession_unwritten (password : String) :
    Unwritten (onLock (SessionLock.unlock password)) := by
  refine onLock_unwritten fun l => ?_
  rcases SessionLock.unlock_cases password l with ⟨_, hslot⟩ | ⟨_, _, _, _, hslot⟩
  · exact hslot
  · exact hslot

theorem unlock_unwritten (password : String) : Unwritten (unlock password) := by
  unfold unlock
  refine .bind (unlockSession_unwritten password) fun _ => ?_
  refine .bind ?_ fun _ => ?_
  · refine .bind loadApprovals_unwritten fun _ => ?_
    exact loadConnections_unwritten
  · exact .pure _

theorem announce_unwritten : Unwritten (onLock SessionLock.announce) :=
  fun w => Prod.ext rfl (onLock_same SessionLock.announce_still w).2

theorem tellObservers_unwritten (names : List String) : Unwritten (tellObservers names) := by
  induction names with
  | nil => exact .pure _
  | cons name rest ih =>
      refine .bind (onDesktop_unwritten _) fun _ => ?_
      exact ih

/-- Locking the session forgets what is in memory. The slots are not asked. -/
theorem logout_unwritten : Unwritten logout := by
  unfold logout
  refine .bind (onLock_unwritten fun _ => rfl) fun _ => ?_
  refine .bind (.modify fun _ => rfl) fun _ => ?_
  refine .bind .get fun _ => ?_
  refine .bind (tellObservers_unwritten _) fun _ => ?_
  refine .bind announce_unwritten fun _ => ?_
  exact .pure _

theorem tellObservers_core (names : List String) :
    Within (Op.Same Wallet.core) (tellObservers names) := by
  induction names with
  | nil => exact .pure _
  | cons name rest ih =>
      refine .bind (fun _ => rfl) fun _ => ?_
      exact ih

/-- Whatever was held, after locking nothing is. -/
theorem logout_locked (w : Wallet) : (logout w).2.Locked := by
  -- Telling whoever has to be told comes last and changes nothing in memory.
  have htold : Within (Op.Same Wallet.core) (do
      tellObservers (← Op.get).core.observers
      onLock SessionLock.announce
      return true : Op Wallet Bool) := by
    refine .bind .get fun _ => ?_
    refine .bind (tellObservers_core _) fun _ => ?_
    refine .bind (fun w => (onLock_same SessionLock.announce_still w).1) fun _ => ?_
    exact .pure _
  have hcore : (logout w).2.core = _ := htold _
  exact ⟨congrArg (·.session.secret) hcore, congrArg (·.approvals) hcore,
    congrArg (·.connections) hcore⟩

/-- A wallet is locked once more, or asked to unlock with a password that is refused. -/
inductive Knock (w v : Wallet) : Prop
  | locked (h : v = (logout w).2)
  | refused (password : String) (e : Error) (he : e.RefusesPassword)
      (h : unlock password w = (.error e, v))
  /-- The session is asked by itself, without the registries. -/
  | refusedSession (password : String) (e : Error) (he : e.RefusesPassword)
      (h : onLock (SessionLock.unlock password) w = (.error e, v))

/-- A wallet was locked, and then locked again or asked in vain to unlock any number of times. -/
def Lull (w v : Wallet) : Prop :=
  ReflTransGen Knock (logout w).2 v

/-- The one wallet is the other with nothing in memory. -/
structure Sleeps (w v : Wallet) : Prop where
  config : v.config = w.config
  storage : v.host.storage = w.host.storage
  locked : v.Locked

/-- After it the wallet is what it was with nothing in memory. -/
theorem logout_sleeps (w : Wallet) : w.Sleeps (logout w).2 where
  config := congrArg Prod.fst (logout_unwritten w)
  storage := congrArg Prod.snd (logout_unwritten w)
  locked := logout_locked w

/-- With the secret of the session, loading the approvals is loading their shelf. -/
theorem loadApprovals_apply (h : w.core.session.secret = some key) :
    loadApprovals w = ((Shelf.load approvalsLabel (some key) w.approvalShelf).1,
      w.putApprovals (Shelf.load approvalsLabel (some key) w.approvalShelf).2) := by
  rw [← h]
  rfl

theorem loadConnections_apply (h : w.core.session.secret = some key) :
    loadConnections w = ((Shelf.load connectionsLabel (some key) w.connectionShelf).1,
      w.putConnections (Shelf.load connectionsLabel (some key) w.connectionShelf).2) := by
  rw [← h]
  rfl

/-- With the secret, the registries fail to load for what is in their slots. -/
theorem loadRegistries_error {e : Error} (hsecret : w.core.session.secret = some key)
    (h : (loadRegistries w).1 = .error e) : ¬ e.RefusesPassword := by
  have ha := loadApprovals_apply hsecret
  rcases hload : Shelf.load approvalsLabel (some key) w.approvalShelf with ⟨outcome, s⟩
  rw [hload] at ha
  cases outcome with
  | error cause =>
      rw [loadRegistries, Op.bind_error ha] at h
      rw [← Except.error.inj h]
      exact Shelf.load_fails approvalsLabel key w.approvalShelf cause (by rw [hload])
  | ok _ =>
      -- Loading the one registry leaves the secret for the other.
      have hsecret' : (w.putApprovals s).core.session.secret = some key := hsecret
      rw [loadRegistries, Op.bind_ok ha, loadConnections_apply hsecret'] at h
      exact Shelf.load_fails connectionsLabel key (w.putApprovals s).connectionShelf e h

/-- The session of a locked wallet opens, or it refuses and the wallet stays as it is. -/
theorem unlockSession_cases (password : String) (h : w.Locked) :
    (w.lock.Opens password ∧ w.lock.verifier.readable = true ∧
      ∃ t, onLock (SessionLock.unlock password) w = (.ok true, t) ∧
        t.core.session = .holding password ∧ t.core.approvals = none ∧
        t.core.connections = none) ∨
    (¬ (w.lock.Opens password ∧ w.lock.verifier.readable = true) ∧
      ∃ e, onLock (SessionLock.unlock password) w = (.error e, w)) := by
  have hlocked : w.lock.session.isUnlocked = false := h.isUnlocked
  rw [onLock_apply]
  rcases SessionLock.unlock_outcome password hlocked with ⟨hopens, hreads, hrun⟩ | ⟨hno, e, hrun⟩
  · have hsession := (Prod.mk.inj
      (SessionLock.announce_still { w.lock with session := .holding password })).1
    rw [hrun]
    exact .inl ⟨hopens, hreads, _, rfl, hsession, h.approvals, h.connections⟩
  · rw [hrun, putLock_self]
    exact .inr ⟨hno, e, rfl⟩

/-- The empty password is refused as none at all. -/
theorem Locked.unlock_empty (h : w.Locked) : unlock "" w = (.error .notProvided, w) := by
  have hlocked : w.lock.session.isUnlocked = false := h.isUnlocked
  have hlock : SessionLock.unlock "" w.lock = (.error .notProvided, w.lock) :=
    SessionLock.unlock_refused hlocked rfl
  have hrefused : onLock (SessionLock.unlock "") w = (.error .notProvided, w) := by
    rw [onLock_apply, hlock, putLock_self]
  rw [unlock, Op.bind_error hrefused]

/-- Whatever is tried leaves a locked wallet as it is. -/
theorem Sleeps.knock (h : w.Sleeps u) (hknock : Knock u v) : w.Sleeps v := by
  -- Locking it once more leaves it asleep, and so does a password that is refused.
  cases hknock with
  | locked hv =>
      have hlogout := logout_sleeps u
      rw [hv]
      exact ⟨hlogout.config.trans h.config, hlogout.storage.trans h.storage, hlogout.locked⟩
  | refused password e he hrun =>
      rcases unlockSession_cases password h.locked with
        ⟨_, _, t, hopened, hsession, _⟩ | ⟨_, e', hopened⟩
      · -- Had the session opened, the failure would be one of loading the registries.
        have hloading : (loadRegistries t).1 = .error e := by
          rw [unlock, Op.bind_ok hopened] at hrun
          rcases hload : loadRegistries t with ⟨outcome, t'⟩
          cases outcome with
          | error cause =>
              rw [Op.bind_error hload] at hrun
              rw [Except.error.inj (congrArg Prod.fst hrun)]
          | ok _ =>
              rw [Op.bind_ok hload] at hrun
              cases congrArg Prod.fst hrun
        exact absurd he (loadRegistries_error (congrArg Session.secret hsession) hloading)
      · rw [unlock, Op.bind_error hopened] at hrun
        rw [← (Prod.mk.inj hrun).2]
        exact h
  | refusedSession password e he hrun =>
      rcases unlockSession_cases password h.locked with ⟨_, _, t, hopened, _⟩ | ⟨_, e', hopened⟩
      · cases congrArg Prod.fst (hopened.symm.trans hrun)
      · rw [← (Prod.mk.inj (hopened.symm.trans hrun)).2]
        exact h

/-- By induction on the knocks: a wallet that is locked and not let in sleeps. -/
theorem Lull.sleeps (h : w.Lull v) : w.Sleeps v := by
  induction h with
  | refl => exact logout_sleeps w
  | tail _ hknock ih => exact ih.knock hknock

/-! ## Unlocking again -/

/-- The secret that is held and the maps that are loaded. -/
structure Holding (w : Wallet) (key : String) (a : OriginMap HostPermission)
    (c : OriginMap ConnectedIdentity) : Prop where
  secret : w.core.session.secret = some key
  approvals : w.core.approvals = some a
  connections : w.core.connections = some c

/-- The three slots can be read. -/
@[mk_iff legible_iff]
structure Legible (w : Wallet) : Prop where
  verifier : (w.host.storage.slot w.config.storageKeys.password).readable = true
  approvals : (w.host.storage.slot w.config.storageKeys.approvals).readable = true
  connections : (w.host.storage.slot w.config.storageKeys.connections).readable = true

/-- A password opens the verifier, and the slots hold two maps under it. -/
structure Restorable (w : Wallet) (key : String) (a : OriginMap HostPermission)
    (c : OriginMap ConnectedIdentity) : Prop where
  opens : w.lock.Opens key
  approvals : Shelf.Holds approvalsLabel key (w.kept w.config.storageKeys.approvals) a
  connections : Shelf.Holds connectionsLabel key (w.kept w.config.storageKeys.connections) c

/-- Whether the slots can be read is read off the slots. -/
theorem legible_congr (hconfig : v.config = w.config) (hstorage : v.host.storage = w.host.storage) :
    v.Legible ↔ w.Legible := by
  rw [legible_iff, legible_iff, hconfig, hstorage]

/-- What a wallet holds that mirrors its slots is what they restore. -/
theorem Holding.restorable (h : w.Holding key a c) (hmirrored : w.Mirrored)
    (hsound : w.lock.Sound) : w.Restorable key a c := by
  rcases hmirrored.approvals a h.approvals with ⟨_, hsecret, ha⟩
  rcases Option.some.inj (h.secret.symm.trans hsecret)
  rcases hmirrored.connections c h.connections with ⟨_, hsecret', hc⟩
  rcases Option.some.inj (h.secret.symm.trans hsecret')
  exact ⟨hsound.opens _ h.secret, ha, hc⟩

/-- And so is what they hold. -/
theorem Restorable.congr (h : w.Restorable key a c) (hconfig : v.config = w.config)
    (hstorage : v.host.storage = w.host.storage) : v.Restorable key a c := by
  rcases h with ⟨hopens, ha, hc⟩
  constructor
  · rw [SessionLock.Opens, lock, hconfig, hstorage]
    exact hopens
  · rw [kept, hconfig, hstorage]
    exact ha
  · rw [kept, hconfig, hstorage]
    exact hc

/-- With the secret and nothing loaded, the registries are loaded from slots that can be read. -/
theorem Restorable.loadRegistries (h : w.Restorable key a c)
    (hsecret : w.core.session.secret = some key) (hnoapprovals : w.core.approvals = none)
    (hnoconnections : w.core.connections = none) (hlegible : w.Legible) :
    ∃ v, loadRegistries w = (.ok (), v) ∧ v.Holding key a c := by
  have ha : Shelf.load approvalsLabel (some key) w.approvalShelf =
      (.ok (), { w.approvalShelf with entries := some a }) :=
    Shelf.load_held hnoapprovals hlegible.approvals h.approvals
  have happrovals := loadApprovals_apply hsecret
  rw [ha] at happrovals
  -- Loading the approvals writes nothing, so the connections are where they were.
  have hkept := loadApprovals_unwritten w
  rw [happrovals] at hkept
  generalize ht : w.putApprovals { w.approvalShelf with entries := some a } = t at happrovals hkept
  rcases Prod.mk.inj hkept with ⟨hconfig, hstorage⟩
  have hsecret' : t.core.session.secret = some key := by
    rw [← ht]
    exact hsecret
  have hunloaded : t.connectionShelf.entries = none := by
    rw [← ht]
    exact hnoconnections
  have hreadable : t.connectionShelf.slot.readable = true := by
    rw [connectionShelf, hconfig, hstorage]
    exact hlegible.connections
  have hc : Shelf.load connectionsLabel (some key) t.connectionShelf =
      (.ok (), { t.connectionShelf with entries := some c }) :=
    Shelf.load_held hunloaded hreadable (h.congr hconfig hstorage).connections
  have hconnections := loadConnections_apply hsecret'
  rw [hc] at hconnections
  refine ⟨_, (Op.bind_ok happrovals _).trans hconnections, hsecret', ?_, rfl⟩
  rw [← ht]
  rfl

/-- Registries that were not loaded are loaded from slots that can be read only. -/
theorem readable_of_loadRegistries {x : Unit} (hsecret : w.core.session.secret = some key)
    (hnoapprovals : w.core.approvals = none) (hnoconnections : w.core.connections = none)
    (h : loadRegistries w = (.ok x, v)) :
    (w.host.storage.slot w.config.storageKeys.approvals).readable = true ∧
      (w.host.storage.slot w.config.storageKeys.connections).readable = true := by
  -- Both have loaded, so both slots could be read; the first has not touched the second.
  rcases Op.bind_cases h with ⟨_, t, happrovals, hconnections⟩
  have hkept := loadApprovals_unwritten w
  rw [happrovals] at hkept
  rcases Prod.mk.inj hkept with ⟨hconfig, hstorage⟩
  rw [loadApprovals_apply hsecret] at happrovals
  rcases Prod.mk.inj happrovals with ⟨ha, ht⟩
  have hsecret' : t.core.session.secret = some key := by
    rw [← ht]
    exact hsecret
  have hunloaded : t.connectionShelf.entries = none := by
    rw [← ht]
    exact hnoconnections
  rw [loadConnections_apply hsecret'] at hconnections
  rcases Prod.mk.inj hconnections with ⟨hc, _⟩
  have hreadable := Shelf.readable_of_load hunloaded (Prod.ext hc rfl)
  rw [connectionShelf, hconfig, hstorage] at hreadable
  exact ⟨Shelf.readable_of_load hnoapprovals (Prod.ext ha rfl), hreadable⟩

/-- The password brings back what the slots hold, and it does so exactly if they can be read. -/
theorem Restorable.unlock (h : w.Restorable key a c) (hlocked : w.Locked) :
    ((∃ b, (unlock key w).1 = .ok b) ↔ w.Legible) ∧
      (w.Legible → (Wallet.unlock key w).2.Holding key a c) := by
  -- The verifier opens with the key if it can be read, and the registries load if their slots can.
  rcases unlockSession_cases key hlocked with
    ⟨_, hreads, t, hopened, hsession, hnoapprovals, hnoconnections⟩ | ⟨hno, e, hopened⟩
  · have hkept := unlockSession_unwritten key w
    rw [hopened] at hkept
    rcases Prod.mk.inj hkept with ⟨hconfig, hstorage⟩
    have hsecret : t.core.session.secret = some key := congrArg Session.secret hsession
    have hrestores : w.Legible → ∃ v, Wallet.unlock key w = (.ok true, v) ∧ v.Holding key a c := by
      intro hlegible
      have ht : t.Legible := (legible_congr hconfig hstorage).2 hlegible
      rcases (h.congr hconfig hstorage).loadRegistries hsecret hnoapprovals hnoconnections ht with
        ⟨v, hload, hholding⟩
      refine ⟨v, ?_, hholding⟩
      rw [Wallet.unlock, Op.bind_ok hopened, Op.bind_ok hload, Op.pure_apply]
    refine ⟨⟨fun ⟨b, hb⟩ => ?_, fun hlegible => ?_⟩, fun hlegible => ?_⟩
    · have hrun : Wallet.unlock key w = (.ok b, (Wallet.unlock key w).2) := Prod.ext hb rfl
      rw [Wallet.unlock, Op.bind_ok hopened] at hrun
      rcases Op.bind_cases hrun with ⟨_, v, hload, _⟩
      rcases readable_of_loadRegistries hsecret hnoapprovals hnoconnections hload with ⟨ha, hc⟩
      rw [hconfig, hstorage] at ha hc
      exact ⟨hreads, ha, hc⟩
    · rcases hrestores hlegible with ⟨v, hrun, _⟩
      exact ⟨true, by rw [hrun]⟩
    · rcases hrestores hlegible with ⟨v, hrun, hholding⟩
      rw [hrun]
      exact hholding
  · have hillegible : ¬ w.Legible := fun hlegible => hno ⟨h.opens, hlegible.verifier⟩
    refine ⟨iff_of_false (fun ⟨b, hb⟩ => ?_) hillegible, fun hlegible => absurd hlegible hillegible⟩
    rw [Wallet.unlock, Op.bind_error hopened] at hb
    cases hb

/-! ## Cycles -/

/-- A wallet was locked, and after a while it was asked to unlock with a password. -/
def Cycle (key : String) (w v : Wallet) : Prop :=
  ∃ u, w.Lull u ∧ v = (Wallet.unlock key u).2

/-- No slot is written to in a cycle. -/
theorem Cycle.kept (h : Cycle key w v) :
    v.config = w.config ∧ v.host.storage = w.host.storage := by
  rcases h with ⟨u, hlull, rfl⟩
  rcases Prod.mk.inj (unlock_unwritten key u) with ⟨hconfig, hstorage⟩
  exact ⟨hconfig.trans hlull.sleeps.config, hstorage.trans hlull.sleeps.storage⟩

/-- By induction on the cycles: whatever the number of them, no slot has changed. -/
theorem kept_of_cycles (h : ReflTransGen (Cycle key) w v) :
    v.config = w.config ∧ v.host.storage = w.host.storage := by
  induction h with
  | refl => exact ⟨rfl, rfl⟩
  | tail _ hcycle ih => exact ⟨hcycle.kept.1.trans ih.1, hcycle.kept.2.trans ih.2⟩

/-- A locked wallet, compared with one that holds a secret and two maps. -/
structure Resumes (w : Wallet) (key : String) (a : OriginMap HostPermission)
    (c : OriginMap ConnectedIdentity) (v : Wallet) : Prop where
  trustsNobody : v.TrustsNobody
  storage : v.host.storage = w.host.storage
  unlocks : (∃ b, (Wallet.unlock key v).1 = .ok b) ↔ w.Legible
  restores : w.Legible → (Wallet.unlock key v).2.Holding key a c

/-- What the slots held in the beginning is what is there at the end, since no cycle has changed
them. -/
theorem Restorable.resumes (h : w.Restorable key a c) (hcycles : ReflTransGen (Cycle key) w u)
    (hlull : u.Lull v) : w.Resumes key a c v := by
  rcases kept_of_cycles hcycles with ⟨hconfig, hstorage⟩
  rcases hlull.sleeps with ⟨hconfig', hstorage', hlocked⟩
  have hconfig'' := hconfig'.trans hconfig
  have hstorage'' := hstorage'.trans hstorage
  have hlegible : v.Legible ↔ w.Legible := legible_congr hconfig'' hstorage''
  rcases (h.congr hconfig'' hstorage'').unlock hlocked with ⟨hunlocks, hrestores⟩
  exact ⟨hlocked.trustsNobody, hstorage'', hunlocks.trans hlegible, hrestores ∘ hlegible.2⟩

end Wallet

namespace Run

variable {run : Run}

/-- At all times the secret that is held opens the verifier. -/
theorem lock_sound (hkeys : run.config.storageKeys.Distinct)
    (hwritten : ∀ t, ¬ run.WrittenAt t run.config.storageKeys.password) (t : Nat) :
    (run.wallet t).lock.Sound := by
  -- Only calls that adopt a password get at the verifier.
  induction t with
  | zero => exact .of_locked rfl
  | succ t ih =>
      have hkeys' : (run.wallet t).config.storageKeys.Distinct := by
        rw [run.config_eq t]
        exact hkeys
      rcases run.deeds_stage t with ⟨call, hmove, _⟩ | ⟨n, on, hgoes, hacts⟩ | hout
      · rw [wallet_call hmove]
        exact Wallet.perform_lock_sound call hkeys' ih
      · exact Wallet.Acts.lock_sound hacts hkeys' (fun q =>
          ⟨fun hd => Waiting.deeds_apart hd trivial, fun hd => Waiting.deeds_apart hd trivial⟩) ih
      · refine Wallet.Outside.lock_sound hout ?_ ih
        rw [run.config_eq t]
        exact hwritten t

/-- What is held can be had again from the slots, as long as only the core writes to them. -/
theorem restorable (hkeys : run.config.storageKeys.Distinct)
    (hwritten : ∀ t, ¬ run.WrittenAt t run.config.storageKeys.password ∧
      ¬ run.WrittenAt t run.config.storageKeys.approvals ∧
      ¬ run.WrittenAt t run.config.storageKeys.connections) {t : Nat} {key : String}
    {a : OriginMap HostPermission} {c : OriginMap ConnectedIdentity}
    (h : (run.wallet t).Holding key a c) : (run.wallet t).Restorable key a c :=
  h.restorable (mirrored hkeys (fun t => (hwritten t).2) t)
    (lock_sound hkeys (fun t => (hwritten t).1) t)

/-- Locking loses nothing. However often a wallet is locked and unlocked with the password that it
holds, and whatever is tried while it is locked, it trusts nobody in between and no slot changes.
The password brings back just what was held, if the three slots can be read, and is refused
otherwise. -/
theorem locking_loses_nothing (hkeys : run.config.storageKeys.Distinct)
    (hwritten : ∀ t, ¬ run.WrittenAt t run.config.storageKeys.password ∧
      ¬ run.WrittenAt t run.config.storageKeys.approvals ∧
      ¬ run.WrittenAt t run.config.storageKeys.connections) {t : Nat} {key : String}
    {a : OriginMap HostPermission} {c : OriginMap ConnectedIdentity}
    (hheld : (run.wallet t).Holding key a c) {u v : Wallet}
    (hcycles : ReflTransGen (Wallet.Cycle key) (run.wallet t) u) (hlull : u.Lull v) :
    (run.wallet t).Resumes key a c v :=
  (restorable hkeys hwritten hheld).resumes hcycles hlull

/-- An origin is approved. -/
def oneApproved : Run where
  move
    | 0 => .call (.setupPassword "password")
    | _ => .call (.approve { origin := "https://a.test", canSkipApprove := true })

theorem oneApproved_unwritten (t : Nat) (name : String) : ¬ oneApproved.WrittenAt t name := by
  rintro ⟨action, hmove, _⟩
  rcases t with _ | t
  · cases hmove
  · cases hmove

theorem oneApproved_holds : (oneApproved.wallet 2).Holding "password"
    (OriginMap.empty.insert "https://a.test" { canSkipApprove := true }) .empty ∧
    (oneApproved.wallet 2).Legible := by
  rw [wallet, system_adopts_add (t := 0) (d := 1) rfl (by decide) rfl rfl rfl]
  exact ⟨⟨by decide +kernel, by decide +kernel, by decide +kernel⟩,
    ⟨by decide +kernel, by decide +kernel, by decide +kernel⟩⟩

/-- It is locked, the empty password is refused, and it is unlocked; then all that once more. -/
theorem locking_loses_nothing_oneApproved : ∃ u v,
    (oneApproved.wallet 2).Cycle "password" u ∧ u.Lull v ∧
    (Wallet.unlock "password" v).2.Holding "password"
      (OriginMap.empty.insert "https://a.test" { canSkipApprove := true }) .empty := by
  have hlull (w : Wallet) : w.Lull (Wallet.logout w).2 :=
    .single (.refused "" .notProvided trivial (Wallet.logout_locked w).unlock_empty)
  have hcycle : (oneApproved.wallet 2).Cycle "password" _ := ⟨_, hlull _, rfl⟩
  rcases oneApproved_holds with ⟨hheld, hlegible⟩
  exact ⟨_, _, hcycle, hlull _, (locking_loses_nothing ⟨by decide, by decide, by decide⟩
    (fun t => ⟨oneApproved_unwritten t _, oneApproved_unwritten t _, oneApproved_unwritten t _⟩)
    hheld (.single hcycle) (hlull _)).restores hlegible⟩

/-- A slot cannot be read any more. -/
def shutSlot : Run where
  move
    | 0 => .call (.setupPassword "password")
    | _ => .host (.setReadable "keeper.approvals" false)

theorem shutSlot_unwritten (t : Nat) (name : String) : ¬ shutSlot.WrittenAt t name := by
  rintro ⟨action, hmove, hwrites⟩
  rcases t with _ | t
  · cases hmove
  · cases hmove
    exact hwrites

theorem shutSlot_holds : (shutSlot.wallet 2).Holding "password" .empty .empty ∧
    ¬ (shutSlot.wallet 2).Legible := by
  rw [wallet, system_adopts_add (t := 0) (d := 1) rfl (by decide) rfl rfl rfl]
  refine ⟨⟨by decide +kernel, by decide +kernel, by decide +kernel⟩, fun h => absurd h.approvals ?_⟩
  decide +kernel

/-- Both registries are loaded then, but once they are locked the right password fails. -/
theorem shutSlot_stays_locked : shutSlot.config.storageKeys.Distinct ∧
    (∀ t name, ¬ shutSlot.WrittenAt t name) ∧
    (shutSlot.wallet 2).Holding "password" .empty .empty ∧
    ¬ ∃ b, (Wallet.unlock "password" (Wallet.logout (shutSlot.wallet 2)).2).1 = .ok b := by
  have hkeys : shutSlot.config.storageKeys.Distinct := ⟨by decide, by decide, by decide⟩
  rcases shutSlot_holds with ⟨hheld, hillegible⟩
  have hrestorable := restorable hkeys (fun t => ⟨shutSlot_unwritten t _, shutSlot_unwritten t _,
    shutSlot_unwritten t _⟩) hheld
  refine ⟨hkeys, shutSlot_unwritten, hheld, fun hunlocks => hillegible ?_⟩
  exact (hrestorable.resumes .refl .refl).unlocks.1 hunlocks

end Run

end WalletTrust

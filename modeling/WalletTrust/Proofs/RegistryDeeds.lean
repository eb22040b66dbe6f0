import WalletTrust.Proofs.Deeds
import WalletTrust.Proofs.Registries

/-!
# Deeds of the Registries, the Session and Backups

Which deeds each operation may do, read off how it is put together.

Loading is no deed. Approving sets one origin, connecting sets one origin to an identity with the
commitment that was given, and taking back removes one origin. Restoring may edit both registries in
any way.

Three operations are more definite. Changing the flag of an origin edits the approvals only if it
succeeds, and then only for an origin that is approved. Unlocking is a deed only if the session was
locked and there is a verifier, and it ends with the secret of that password. A password is set up
only where there was no verifier.

The deeds are read off in the order of the code, as in `Registries`. What is new is that a deed
names the map before and the map after, so the proof of an edit has to know the map that is loaded.
`Shelves` knows it: there an edit comes with the map that it starts from.

## Theorems

* `Wallet.approve_acts`, `Wallet.setPermission_cases`, `Wallet.unapprove_acts`,
  `Wallet.clearApprovals_acts`: The operations on the approvals.
* `Wallet.connectIdentity_acts`, `Wallet.disconnect_acts`, `Wallet.clearConnections_acts`,
  `Wallet.revoke_acts`: The operations on the connections.
* `Wallet.unlockThen_cases`, `Wallet.setUpThen_cases`, `Wallet.logout_acts`: The session.
* `Wallet.uploadBackup_acts`: Restoring a backup.
* `Wallet.isApproved_of_get?`, `Wallet.approvals_of_isApproved`: Who is approved is in the map that
  is loaded.
* `Wallet.loadApprovals_acts`, `Wallet.loadConnections_acts`, `Wallet.notify_acts`: What is no deed.
-/

namespace WalletTrust

namespace Wallet

open Op (Within)

variable {α : Type} {deeds : Deed → Prop} {w : Wallet}

/-! ## Approvals -/

/-- To load a registry is to edit nothing. -/
theorem loadApprovals_acts : Within (Acts deeds) loadApprovals :=
  lendApprovals_acts fun _ => Shelf.load_acts _ _

/-- With the approvals loaded, who is approved is in the map. -/
theorem isApproved_of_get? {m : OriginMap HostPermission} (h : w.core.approvals = some m)
    (origin : String) : w.isApproved origin = (m.get? origin).isSome := by
  rw [isApproved, permission?, h]
  rfl

/-- An origin that is approved is so in the approvals that are loaded. -/
theorem approvals_of_isApproved {origin : String} (h : w.isApproved origin = true) :
    ∃ m, w.core.approvals = some m ∧ (m.get? origin).isSome := by
  rcases hm : w.core.approvals with _ | m
  · rw [isApproved, permission?, hm] at h
    cases h
  · rw [isApproved_of_get? hm] at h
    exact ⟨m, rfl, h⟩

/-- Setting the permission of an origin edits the approvals that are loaded, if there are any. -/
theorem upsertApproval_acts (origin : String) (p : HostPermission)
    (h : ∀ m, (w.core.approvals.isSome → w.core.approvals = some m) →
      deeds (.approvals m (m.insert origin p))) :
    Acts deeds w ((secret >>= fun key =>
      onApprovals (Shelf.upsert approvalsLabel key origin p)) w).2 := by
  refine onApprovals_acts ((Shelf.upsert_acts _ _ origin p _).mono ?_)
  rintro m _ ⟨hloaded, rfl⟩
  exact h m hloaded

/-- Approving edits the approvals at that origin. -/
theorem approve_acts (entry : ApprovalEntry) (h : ∀ m, deeds
      (.approvals m (m.insert entry.origin { canSkipApprove := entry.canSkipApprove }))) :
    Within (Acts deeds) (approve entry) := by
  unfold approve
  refine .ite (fun _ => ?_) fun _ => ?_
  · exact .fail _
  · exact Within.bind (x := secret >>= fun key => onApprovals (Shelf.upsert _ key entry.origin _))
      (fun _ => upsertApproval_acts _ _ fun m _ => h m) fun _ => .pure _

/-- Changing the flag of an origin edits nothing, or it succeeds for an origin that is approved. -/
theorem setPermission_cases (origin : String) (flag : Bool) (w : Wallet) :
    Acts Harmless w (setPermission origin flag w).2 ∨
    ((setPermission origin flag w).1 = .ok { canSkipApprove := flag } ∧
      Acts (fun d => ∃ m : OriginMap HostPermission, (m.get? origin).isSome ∧
          d = .approvals m (m.insert origin { canSkipApprove := flag }))
        w (setPermission origin flag w).2) := by
  rw [setPermission]
  split
  · exact .inl (Std.Refl.refl w)
  have hloads : Acts Harmless w (loadApprovals w).2 := loadApprovals_acts w
  rcases hload : loadApprovals w with ⟨outcome, v⟩
  rw [hload] at hloads
  cases outcome with
  | error e =>
      rw [Op.bind_error hload]
      exact .inl hloads
  | ok _ =>
      rw [Op.bind_ok hload, Op.bind_ok (x := Op.get) rfl]
      split
      · next happroved =>
        -- An edit is one of the map that is loaded, in which the origin is approved.
        let x : Op Wallet Bool := secret >>= fun key =>
          onApprovals (Shelf.upsert approvalsLabel key origin { canSkipApprove := flag })
        have hrun : (secret >>= fun key =>
            onApprovals (Shelf.upsert approvalsLabel key origin { canSkipApprove := flag }) >>=
              fun _ => (pure { canSkipApprove := flag } : Op Wallet HostPermission)) v =
            (x >>= fun _ => (pure { canSkipApprove := flag } : Op Wallet HostPermission)) v := rfl
        rw [hrun, Op.bind_pure_state]
        rcases Shelf.upsert_cases approvalsLabel v.core.session.secret origin
          { canSkipApprove := flag } v.approvalShelf with hok | huntouched
        · refine .inr ⟨?_, ?_⟩
          · have hx : (x v).1 = .ok true := hok
            rcases hxv : x v with ⟨outcome, u⟩
            rw [hxv] at hx
            rw [Op.bind_ok (hxv.trans (Prod.ext hx rfl)), Op.pure_apply]
          · refine hloads.of_harmless.trans (upsertApproval_acts _ _ fun m hm => ⟨m, ?_, rfl⟩)
            rcases approvals_of_isApproved happroved with ⟨n, hmap, hget⟩
            rcases Option.some.inj (hmap.symm.trans (hm (by rw [hmap]; rfl)))
            exact hget
        · exact .inl (hloads.trans (onApprovals_acts (huntouched.mono fun _ _ h => h.elim)))
      · exact .inl hloads

/-- Taking an approval back edits the approvals at that origin too. -/
theorem unapprove_acts (origin : String) (h : ∀ m, deeds (.approvals m (m.erase origin))) :
    Within (Acts deeds) (unapprove origin) :=
  Within.bind (x := secret >>= fun key => onApprovals (Shelf.remove approvalsLabel key origin))
    (lendApprovals_acts fun _ s => (Shelf.remove_acts _ _ origin s).mono fun m _ hnext => by
      rw [hnext]
      exact h m)
    fun _ => .pure _

/-- Clearing leaves no approval. -/
theorem clearApprovals_acts (h : ∀ m, deeds (.approvals m .empty)) :
    Within (Acts deeds) clearApprovals :=
  lendApprovals_acts fun _ s => (Shelf.clear_acts _ _ s).mono fun m _ hnext => by
    rw [hnext]
    exact h m

/-! ## Connections -/

/-- The connections are loaded in the same way. -/
theorem loadConnections_acts : Within (Acts deeds) loadConnections :=
  lendConnections_acts fun _ => Shelf.load_acts _ _

theorem loadRegistries_acts : Within (Acts deeds) loadRegistries := by
  unfold loadRegistries
  refine .bind loadApprovals_acts fun _ => ?_
  exact loadConnections_acts

/-- Identities are no deed of the wallet: they are the host's. -/
theorem identity_acts (commitment : String) : Within (Acts deeds) (identity commitment) := by
  unfold identity
  refine .bind .get fun _ => ?_
  exact .ofExcept _

theorem selectedIdentity_acts : Within (Acts deeds) selectedIdentity := by
  unfold selectedIdentity
  refine .bind .get fun _ => ?_
  exact .ofExcept _

theorem connectedIdentity_acts (origin : String) :
    Within (Acts deeds) (connectedIdentity origin) := by
  unfold connectedIdentity
  refine .bind .get fun w => ?_
  cases w.connection? origin with
  | none => exact .pure _
  | some connection => exact identity_acts _

/-- Telling a page is no deed either. -/
theorem notify_acts (origin : String) (event : PageEvent) :
    Within (Acts deeds) (notify origin event) :=
  .ignore (onDesktop_acts _)

/-- The identity that is found by a commitment has it. -/
theorem commitment_of_find? {book : IdentityBook} {commitment : String} {i : Identity}
    (h : book.find? commitment = some i) : i.commitment = commitment := by
  simpa only [decide_eq_true_eq] using List.find?_some h

/-- An identity that is found by a commitment has that commitment. -/
theorem identity_yields (commitment : String) :
    Op.Yields (fun found => ∀ i, found = some i → i.commitment = commitment)
      (identity commitment) := by
  -- The book is searched by commitment, so whoever is found has the one that was looked for.
  intro w found v h i hi
  subst hi
  have hlookup : w.host.identities.lookup commitment = .ok (some i) := congrArg Prod.fst h
  rw [IdentityBook.lookup] at hlookup
  split at hlookup
  · exact commitment_of_find? (Except.ok.inj hlookup)
  · cases hlookup

/-- An origin is connected to the identity with the commitment that was given. -/
theorem connectIdentity_acts (commitment origin : String)
    (h : ∀ m name, deeds (.connections m (m.insert origin { commitment, name }))) :
    Within (Acts deeds) (connectIdentity commitment origin) := by
  unfold connectIdentity
  refine .ite (fun _ => ?_) fun _ => ?_
  · exact .fail _
  · refine .bind_of_yields (identity_acts _) (identity_yields _) fun found hfound => ?_
    refine .bind_of_yields (.ofOption _ _) (.ofOption _) fun i hi => ?_
    refine Within.bind (x := secret >>= fun key => onConnections (Shelf.upsert _ key origin _)) ?_
      fun _ => .bind (notify_acts _ _) fun _ => .pure _
    refine lendConnections_acts fun key s => (Shelf.upsert_acts _ _ _ _ s).mono ?_
    rintro m _ ⟨_, rfl⟩
    rw [hfound i hi]
    exact h m i.name

/-- Whatever the target, at most one origin is disconnected. -/
theorem disconnect_acts (target : String)
    (h : ∀ m origin, deeds (.connections m (m.erase origin))) :
    Within (Acts deeds) (disconnect target) := by
  unfold disconnect
  refine .ite (fun _ => ?_) fun _ => ?_
  · exact .fail _
  · refine .bind loadConnections_acts fun _ => ?_
    refine .bind .get fun w => ?_
    refine .bind (.ofOption _ _) fun origin => ?_
    refine Within.bind (x := secret >>= fun key => onConnections (Shelf.remove _ key origin)) ?_
      fun removed => .bind (.ofOption _ _) fun _ => .bind (notify_acts _ _) fun _ => .pure _
    refine lendConnections_acts fun key s => (Shelf.remove_acts _ _ origin s).mono ?_
    rintro m _ rfl
    exact h m origin

/-- By induction on the origins. -/
theorem notifyDisconnected_acts (origins : List String) :
    Within (Acts deeds) (notifyDisconnected origins) := by
  induction origins with
  | nil => exact .pure _
  | cons origin rest ih =>
      refine .bind (notify_acts _ _) fun _ => ?_
      exact ih

/-- The pages are told, and then no connection is left. -/
theorem clearConnections_acts (h : ∀ m, deeds (.connections m .empty)) :
    Within (Acts deeds) clearConnections := by
  unfold clearConnections
  refine .bind loadConnections_acts fun _ => ?_
  refine .bind .get fun w => ?_
  refine .bind (notifyDisconnected_acts _) fun _ => ?_
  refine lendConnections_acts fun key s => (Shelf.clear_acts _ _ s).mono ?_
  rintro m _ rfl
  exact h m

/-- Revoking may do two deeds: an approval is taken back, and a connection. -/
theorem revoke_acts (origin : String) (ha : ∀ m, deeds (.approvals m (m.erase origin)))
    (hc : ∀ m o, deeds (.connections m (m.erase o))) : Within (Acts deeds) (revoke origin) := by
  unfold revoke
  refine .ite (fun _ => ?_) fun _ => ?_
  · exact .fail _
  · refine .bind (unapprove_acts origin ha) fun _ => ?_
    refine .bind .get fun w => ?_
    refine .ite (fun _ => ?_) fun _ => ?_
    · refine .bind (disconnect_acts origin hc) fun _ => ?_
      exact .pure _
    · exact .pure _

/-! ## The session -/

/-- Unlocking, and going on without deeds, does none or unlocks a session that was locked. -/
theorem unlockThen_cases {β : Type} (password : String) {f : Bool → Op Wallet β}
    (hf : ∀ b, Within (Acts Harmless) (f b)) (w : Wallet) :
    Acts Harmless w ((onLock (SessionLock.unlock password) >>= f) w).2 ∨
    (w.core.session.secret = none ∧ (w.kept w.config.storageKeys.password).isSome ∧
      ((onLock (SessionLock.unlock password) >>= f) w).2.core.session.secret = some password ∧
      Acts (fun d => d = .unlock password) w
        ((onLock (SessionLock.unlock password) >>= f) w).2) := by
  -- What follows does no deed, so the secret at the end is the one after unlocking.
  have hrest := Within.after (x := onLock (SessionLock.unlock password)) hf w
  rcases SessionLock.unlock_cases password w.lock with
    ⟨hsession, hslot⟩ | ⟨verifier, hlocked, hverifier, hsession, hslot⟩
  · have hstill : Acts Harmless w (onLock (SessionLock.unlock password) w).2 :=
      onLock_acts (.still hsession (congrArg Slot.value hslot))
    exact .inl (hstill.trans hrest)
  · have hacts : Acts (fun d => d = .unlock password) w
        (onLock (SessionLock.unlock password) w).2 :=
      onLock_acts (.unlocked password verifier rfl hlocked hverifier hsession hslot)
    refine .inr ⟨hlocked, Option.isSome_iff_exists.2 ⟨verifier, hverifier⟩, ?_,
      hacts.trans hrest.of_harmless⟩
    have hholding : (onLock (SessionLock.unlock password) w).2.core.session = .holding password :=
      hsession
    rw [hrest.session_of_harmless, hholding]
    rfl

/-- Setting up a password, and going on without deeds, does none or writes the first verifier. -/
theorem setUpThen_cases {β : Type} (password : String) {f : Bool → Op Wallet β}
    (hf : ∀ b, Within (Acts Harmless) (f b)) (w : Wallet) :
    Acts Harmless w ((onLock (SessionLock.setupPassword password) >>= f) w).2 ∨
    (w.kept w.config.storageKeys.password = none ∧
      (((onLock (SessionLock.setupPassword password) >>= f) w).2.kept
        w.config.storageKeys.password).isSome ∧
      Acts (fun d => d = .setUp password) w
        ((onLock (SessionLock.setupPassword password) >>= f) w).2) := by
  have hrest := Within.after (x := onLock (SessionLock.setupPassword password)) hf w
  have hact := SessionLock.setupPassword_acts password w.lock
  have hacts : Acts (fun d => d = .setUp password) w
      (onLock (SessionLock.setupPassword password) w).2 := onLock_acts hact
  -- Either the lock has stood still, or there was no verifier and there is one now.
  cases hact with
  | still hsession hslot =>
      have hstill : Acts Harmless w (onLock (SessionLock.setupPassword password) w).2 :=
        onLock_acts (.still hsession hslot)
      exact .inl (hstill.trans hrest)
  | unlocked p verifier hdeed => cases hdeed
  | setUp p hdeed hempty hslot hsession =>
      refine .inr ⟨hempty, ?_, hacts.trans hrest.of_harmless⟩
      rw [hrest.kept_of_harmless, kept, onLock, Op.zoom]
      simp only [Storage.slot_put_self]
      exact hslot

theorem tellObservers_acts (names : List String) : Within (Acts deeds) (tellObservers names) := by
  induction names with
  | nil => exact .pure _
  | cons name rest ih =>
      refine .bind (onDesktop_acts _) fun _ => ?_
      exact ih

/-- Locking is one act, and what follows it is none. -/
theorem logout_acts (h : deeds .lock) : Within (Acts deeds) logout := by
  intro w
  -- Dropping the secret and forgetting the registries are taken as the one act they are.
  have hshut : Acts deeds w
      ((do onLock SessionLock.drop; forgetRegistries : Op Wallet Unit) w).2 := by
    refine .single (.shut h ?_)
    simp only [onLock, forgetRegistries, SessionLock.drop, Op.bind_apply, Op.zoom, Op.modify,
      Storage.put_slot, shut]
  have htold : Within (Acts deeds) (do
      tellObservers (← Op.get).core.observers
      onLock SessionLock.announce
      return true : Op Wallet Bool) := by
    refine .bind .get fun w => ?_
    refine .bind (tellObservers_acts _) fun _ => ?_
    refine .bind (onLock_still SessionLock.announce_still) fun _ => ?_
    exact .pure _
  exact hshut.trans (htold _)

/-! ## Backups -/

theorem downloadComponent_acts (c : BackupComponent) (password : String) :
    Within (Acts deeds) (downloadComponent c password) := by
  cases c with
  | approvals => exact lendApprovals_acts fun _ => Shelf.downloadBackup_acts _ _ _
  | connections => exact lendConnections_acts fun _ => Shelf.downloadBackup_acts _ _ _
  | foreign key data refuses =>
      refine .bind (onDesktop_acts _) fun _ => ?_
      refine .ite (fun _ => ?_) fun _ => ?_
      · exact .fail _
      · exact .pure _

/-- A backup may put any map in the place of one of the registries. -/
theorem uploadComponent_acts (c : BackupComponent) (blob password : String)
    (ha : ∀ m n, deeds (.approvals m n)) (hc : ∀ m n, deeds (.connections m n)) :
    Within (Acts deeds) (uploadComponent c blob password) := by
  cases c with
  | approvals =>
      exact lendApprovals_acts fun _ s =>
        (Shelf.uploadBackup_acts _ _ _ _ s).mono fun m n _ => ha m n
  | connections =>
      exact lendConnections_acts fun _ s =>
        (Shelf.uploadBackup_acts _ _ _ _ s).mono fun m n _ => hc m n
  | foreign key data refuses =>
      refine .bind (onDesktop_acts _) fun _ => ?_
      refine .ite (fun _ => ?_) fun _ => ?_
      · exact .fail _
      · exact .pure _

/-- By induction on the components, of which none is changed by being backed up. -/
theorem collect_acts (password : String) (components : List BackupComponent) (file : BackupFile) :
    Within (Acts deeds) (collect password components file) := by
  induction components generalizing file with
  | nil => exact .pure _
  | cons c rest ih =>
      refine .bind (downloadComponent_acts c password) fun _ => ?_
      exact ih _

theorem downloadBackup_acts (password : String) :
    Within (Acts deeds) (downloadBackup password) := by
  unfold downloadBackup
  refine .bind (onLock_still (SessionLock.isAuthentic_still password)) fun _ => ?_
  refine .bind .get fun _ => ?_
  refine .bind (collect_acts _ _ _) fun _ => ?_
  exact .pure _

/-- By induction on the components, each of which may be given a backup. -/
theorem restore_acts (file : BackupFile) (password : String) (components : List BackupComponent)
    (ha : ∀ m n, deeds (.approvals m n)) (hc : ∀ m n, deeds (.connections m n)) :
    Within (Acts deeds) (restore file password components) := by
  induction components with
  | nil => exact .pure _
  | cons c rest ih =>
      rw [restore]
      cases Assoc.lookup c.key file with
      | none => exact ih
      | some data =>
          cases data with
          | none => exact ih
          | some data =>
              refine .bind (uploadComponent_acts c data password ha hc) fun _ => ?_
              exact ih

/-- An upload does what restoring does, if it is let in. -/
theorem uploadBackup_acts (upload : UploadBackup) (ha : ∀ m n, deeds (.approvals m n))
    (hc : ∀ m n, deeds (.connections m n)) : Within (Acts deeds) (uploadBackup upload) := by
  unfold uploadBackup
  refine .bind (onLock_still (SessionLock.isAuthentic_still _)) fun _ => ?_
  refine .bind (.ofExcept _) ?_
  intro json
  refine .bind (.ofOption _ _) fun file => ?_
  refine .bind .get fun w => ?_
  refine .ite (fun _ => ?_) fun _ => ?_
  · exact restore_acts _ _ _ ha hc
  · exact .fail _

theorem removeComponent_acts (key : String) : Within (Acts deeds) (removeComponent key) :=
  acts_of_apart fun _ => ⟨rfl, rfl, rfl, rfl, rfl⟩

end Wallet

end WalletTrust

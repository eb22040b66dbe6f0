import WalletTrust.Proofs.Files
import WalletTrust.Proofs.LockRun
import WalletTrust.Proofs.Mirror

/-!
# Saving and Restoring

A backup brings the entries of one wallet to another.

What a wallet saves is what its slots hold, sealed anew under the backup password. What a slot holds
is what is in memory, so a file has the entries that the wallet shows. An upload opens them with the
backup password and puts them over the entries of the wallet that it comes to, which seals the
result under a secret of its own.

The two wallets need not know each other. What connects them are the keys of their components: the
file has to have a member for every component that is to be restored. A member without data stands
for a slot that was empty, and restoring it changes nothing, just as putting an empty map over
another does.

Uploading writes, and a write may be refused for want of room. That is the only way in which an
upload of such a file fails, and then what was restored before it stays restored. Since putting
entries over themselves changes nothing, the file can be uploaded again at any time.

## Main definitions

* `Shelf.Backs`: What a member of a backup file restores.
* `Wallet.Equipped`: Both registries are loaded, and registered for backups.
* `BackupFile.Saves`: The members of a file restore the registries of a wallet.
* `Wallet.Receives`: What a wallet is made by the registries of another.
* `Wallet.Delivers`: How restoring ends.

## Theorems

* `Shelf.downloadBackup_held`, `Shelf.uploadBackup_backed`: A shelf is saved and restored.
* `Wallet.downloadBackup_saves`, `Wallet.uploadBackup_receives`: A wallet is.
* `Wallet.uploadBackup_uncovered`: A component that was not saved spoils the file for all of them.
-/

namespace WalletTrust

/-! ## Shelves -/

namespace Shelf

variable {α : Type} [Wire α] {label : ShelfLabel} {key password : String} {m n : OriginMap α}
  {s : Shelf α}

/-- What a member of a backup file restores. -/
def Backs (label : ShelfLabel) (password : String) : Option String → OriginMap α → Prop
  | none, m => m = .empty
  | some blob, m => restored? label blob password = some m

/-- What a text writes is restored from the text once it is sealed and signed. -/
theorem restored?_sign {plain : String} (h : OriginMap.ofText? plain = some m)
    (label : ShelfLabel) (password : String) (e : Entropy) :
    restored? label (BackupBlob.sign
      (SealedText.sealFresh plain password label.purpose e).1 password) password = some m := by
  rcases hsealed : SealedText.sealFresh plain password label.purpose e with ⟨sealed, _⟩
  have hopen : SealedText.open sealed password label.purpose = .ok plain := by
    rw [← SealedText.open_sealFresh plain password label.purpose e, hsealed]
  have hverify := BackupBlob.verify_sign sealed password
  generalize BackupBlob.sign sealed password = blob at hverify ⊢
  rw [restored?, hverify]
  simp only [hopen, h]

omit [Wire α] in
/-- There is nothing to save of an empty slot. -/
theorem downloadBackup_empty (hreadable : s.slot.readable = true) (hempty : s.slot.value = none)
    (secret : Option String) (password : String) :
    downloadBackup label secret password s = (.ok none, s) := by
  rw [downloadBackup, Op.bind_ok (read_readable hreadable), hempty]
  rfl

/-- The backup of a shelf has what its slot holds. Only randomness is spent on it. -/
theorem downloadBackup_held (hreadable : s.slot.readable = true)
    (hholds : Holds label key s.slot.value m) (password : String) :
    ∃ data entropy, downloadBackup label (some key) password s = (.ok data, { s with entropy }) ∧
      Backs label password data m := by
  -- An empty slot holds the empty map, and the backup of that is that there is none.
  rcases hvalue : s.slot.value with _ | sealed
  · rw [hvalue] at hholds
    exact ⟨none, s.entropy, downloadBackup_empty hreadable hvalue _ _, hholds⟩
  · rw [hvalue] at hholds
    rcases hholds with ⟨plain, hopen, hmap⟩
    let backup := SealedText.sealFresh plain password label.purpose s.entropy
    refine ⟨some (BackupBlob.sign backup.1 password), backup.2, ?_,
      restored?_sign hmap label password s.entropy⟩
    have hborrow : borrow (some key) s = (.ok key, s) := rfl
    have hplain : Op.ofExcept (SealedText.open sealed key label.purpose) s = (.ok plain, s) := by
      rw [hopen]
      rfl
    have hseal : sealWith password plain label.purpose s =
        (.ok backup.1, { s with entropy := backup.2 }) := rfl
    rw [downloadBackup, Op.bind_ok (read_readable hreadable), hvalue]
    dsimp only
    rw [Op.bind_ok hborrow, Op.bind_ok hplain, Op.bind_ok hseal, Op.pure_apply]

/-- Once its backup is opened, a shelf loads its map, merges the two and writes the result. -/
theorem uploadBackup_opened {blob : String} (hblob : restored? label blob password = some n)
    (secret : Option String) : uploadBackup label secret blob password s =
      (load label secret >>= fun _ => held >>= fun m =>
        commit label secret (m.overrideBy n) : Op (Shelf α) Unit) s := by
  rw [uploadBackup, hblob, Op.ofOption, Op.bind_ok (Op.pure_apply n s)]

/-- Restoring a backup puts its entries over those that are loaded. -/
theorem uploadBackup_backed {blob : String} (hblob : restored? label blob password = some n)
    (h : s.entries = some m) (secret : Option String) :
    uploadBackup label secret blob password s = commit label secret (m.overrideBy n) s := by
  rw [uploadBackup_opened hblob, Op.bind_ok (load_loaded secret h), Op.bind_ok (held_loaded h)]

end Shelf

/-! ## Saving -/

namespace Wallet

variable {w v : Wallet} {password : String}

/-- Both registries are loaded and registered for backups, under keys that no other component has,
and no component refuses. -/
structure Equipped (w : Wallet) : Prop where
  loaded : w.core.approvals.isSome ∧ w.core.connections.isSome
  approvals : .approvals ∈ w.core.components
  connections : .connections ∈ w.core.components
  own : ∀ key data refuses, .foreign key data refuses ∈ w.core.components →
    key ≠ approvalsLabel.component ∧ key ≠ connectionsLabel.component
  willing : ∀ key data, .foreign key data true ∉ w.core.components

/-- The slots of the registries can be read. -/
structure Readable (w : Wallet) : Prop where
  approvals : (w.host.storage.slot w.config.storageKeys.approvals).readable = true
  connections : (w.host.storage.slot w.config.storageKeys.connections).readable = true

/-- The wallet after randomness was spent and the host was asked for something. -/
def spent (entropy : Entropy) (events : List HostEvent) (w : Wallet) : Wallet :=
  { w with
    host :=
      { w.host with
        entropy
        desktop := { w.host.desktop with log := w.host.desktop.log ++ events } } }

/-- Random bytes that are spent twice are spent. -/
theorem spent_spent (e e' : Entropy) (events events' : List HostEvent) (w : Wallet) :
    (w.spent e events).spent e' events' = w.spent e' (events ++ events') := by
  simp only [spent, List.append_assoc]

theorem spent_self (w : Wallet) : w.spent w.host.entropy [] = w := by
  simp only [spent, List.append_nil]

/-- A component of the host was asked for its backup. -/
def Consulted (w : Wallet) (e : HostEvent) : Prop :=
  ∃ key data refuses password, .foreign key data refuses ∈ w.core.components ∧
    e = .componentDownload key password

/-- The two registries have names of their own in a backup. -/
theorem labels_differ : approvalsLabel.component ≠ connectionsLabel.component := by decide

/-- Checking a password changes nothing, whatever it is. -/
theorem isAuthentic_state (password : String) (w : Wallet) :
    (onLock (SessionLock.isAuthentic password) w).2 = w := by
  have hlock : (SessionLock.isAuthentic password w.lock).2 = w.lock := by
    rcases SessionLock.isAuthentic_cases password w.lock with ⟨_, _, hrun⟩ | ⟨e, hrun⟩
    · rw [hrun]
    · rw [hrun]
  rw [onLock_apply, hlock, putLock_self]

theorem isAuthentic_same (h : (onLock (SessionLock.isAuthentic password) w).1 = .ok true) :
    onLock (SessionLock.isAuthentic password) w = (.ok true, w) :=
  Prod.ext h (isAuthentic_state password w)

/-- The backup of a registry is that of its shelf, with the secret that is held. -/
theorem downloadComponent_approvals {r : Except Error (Option String)} {s : Shelf HostPermission}
    (h : Shelf.downloadBackup approvalsLabel w.core.session.secret password w.approvalShelf =
      (r, s)) : downloadComponent .approvals password w = (r, w.putApprovals s) :=
  congrArg (fun t => (t.1, w.putApprovals t.2)) h

theorem downloadComponent_connections {r : Except Error (Option String)}
    {s : Shelf ConnectedIdentity}
    (h : Shelf.downloadBackup connectionsLabel w.core.session.secret password w.connectionShelf =
      (r, s)) : downloadComponent .connections password w = (r, w.putConnections s) :=
  congrArg (fun t => (t.1, w.putConnections t.2)) h

/-- With the right password the components are saved one after the other. -/
theorem downloadBackup_authentic
    (h : (onLock (SessionLock.isAuthentic password) w).1 = .ok true) :
    downloadBackup password w = (collect password w.core.components [] >>= fun file =>
      (pure (BackupFile.dataUri (BackupFile.text file)) : Op Wallet String)) w := by
  rw [downloadBackup, Op.bind_ok (isAuthentic_same h), Op.bind_ok (x := Op.get) rfl]

/-- With the right password a file is read, and restored if it is complete. -/
theorem uploadBackup_read {u : UploadBackup} {json : String} {file : BackupFile}
    (h : (onLock (SessionLock.isAuthentic u.password) w).1 = .ok true)
    (hcontent : BackupFile.decodeContent u.content = .ok json)
    (hfile : BackupFile.ofText? json = some file) :
    uploadBackup u w = (if w.core.components.all fun c => (Assoc.lookup c.key file).isSome then
        restore file u.backupPassword w.core.components
      else Op.fail .corruptedBackup) w := by
  have hdecode : Op.ofExcept (BackupFile.decodeContent u.content) w = (.ok json, w) := by
    rw [hcontent]
    rfl
  have hread : Op.ofOption .corruptedBackup (BackupFile.ofText? json) w = (.ok file, w) := by
    rw [hfile]
    rfl
  rw [uploadBackup, Op.bind_ok (isAuthentic_same h), Op.bind_ok hdecode, Op.bind_ok hread,
    Op.bind_ok (x := Op.get) rfl]

/-- A file that was downloaded is read. -/
theorem uploadBackup_authentic {own : String} {file : BackupFile} (hsorted : Assoc.Sorted file)
    (h : (onLock (SessionLock.isAuthentic own) w).1 = .ok true) :
    uploadBackup {
      content := BackupFile.dataUri (BackupFile.text file)
      password := own
      backupPassword := password } w =
      (if w.core.components.all fun c => (Assoc.lookup c.key file).isSome then
        restore file password w.core.components
      else Op.fail .corruptedBackup) w :=
  uploadBackup_read h (BackupFile.decodeContent_dataUri _) (BackupFile.ofText?_text hsorted)

end Wallet

namespace BackupFile

/-- A member of a file restores the registry of a wallet that it is named for. -/
structure SavesMember (w : Wallet) (password : String) (e : String × Option String) : Prop where
  approvals : e.1 = approvalsLabel.component → ∀ m, w.core.approvals = some m →
    Shelf.Backs approvalsLabel password e.2 m
  connections : e.1 = connectionsLabel.component → ∀ m, w.core.connections = some m →
    Shelf.Backs connectionsLabel password e.2 m

/-- A file with a member for every component of a wallet, and with its registries. -/
structure Saves (w : Wallet) (password : String) (file : BackupFile) : Prop where
  sorted : Assoc.Sorted file
  members : ∀ e ∈ file, SavesMember w password e
  complete : ∀ c ∈ w.core.components, (Assoc.lookup c.key file).isSome

end BackupFile

namespace Wallet

open BackupFile (SavesMember Saves)

variable {w v : Wallet} {password : String}

section Saving

variable (hw : w.Mirrored) (hr : w.Readable) (he : w.Equipped)

include hw hr he

/-- What the backup of a component restores is what the wallet holds. -/
theorem downloadComponent_saves {c : BackupComponent} (hc : c ∈ w.core.components)
    (password : String) : ∃ data entropy events,
    downloadComponent c password w = (.ok data, w.spent entropy events) ∧
      (∀ e ∈ events, w.Consulted e) ∧ SavesMember w password (c.key, data) := by
  -- Either registry is loaded, and so it is what its slot holds; a foreign component gives what it
  -- has.
  cases c with
  | approvals =>
      rcases Option.isSome_iff_exists.1 he.loaded.1 with ⟨m, hm⟩
      rcases hw.approvals m hm with ⟨key, hsecret, hholds⟩
      rcases Shelf.downloadBackup_held (s := w.approvalShelf) hr.approvals hholds password with
        ⟨data, entropy, hrun, hbacks⟩
      refine ⟨data, entropy, [], ?_, fun _ h => absurd h List.not_mem_nil, ?_, ?_⟩
      · rw [downloadComponent_approvals (hsecret ▸ hrun)]
        simp only [putApprovals, approvalShelf, Storage.put_slot, spent, List.append_nil]
      · intro _ n hn
        rcases Option.some.inj (hm.symm.trans hn)
        exact hbacks
      · exact fun h => absurd h labels_differ
  | connections =>
      rcases Option.isSome_iff_exists.1 he.loaded.2 with ⟨m, hm⟩
      rcases hw.connections m hm with ⟨key, hsecret, hholds⟩
      rcases Shelf.downloadBackup_held (s := w.connectionShelf) hr.connections hholds password with
        ⟨data, entropy, hrun, hbacks⟩
      refine ⟨data, entropy, [], ?_, fun _ h => absurd h List.not_mem_nil, ?_, ?_⟩
      · rw [downloadComponent_connections (hsecret ▸ hrun)]
        simp only [putConnections, connectionShelf, Storage.put_slot, spent, List.append_nil]
      · exact fun h => absurd h.symm labels_differ
      · intro _ n hn
        rcases Option.some.inj (hm.symm.trans hn)
        exact hbacks
  | foreign key data refuses =>
      cases refuses with
      | true => exact absurd hc (he.willing key data)
      | false =>
          refine ⟨data, w.host.entropy, [.componentDownload key password], rfl, fun e h => ?_, ?_⟩
          · exact ⟨key, data, false, password, hc, List.mem_singleton.1 h⟩
          · exact ⟨fun h => absurd h (he.own key data false hc).1,
              fun h => absurd h (he.own key data false hc).2⟩

/-- The backups of components are put into a file beside those that are there. -/
theorem collect_saves {components : List BackupComponent}
    (hc : ∀ c ∈ components, c ∈ w.core.components) (password : String) {file : BackupFile}
    (hfile : ∀ e ∈ file, SavesMember w password e) (hsorted : Assoc.Sorted file) :
    ∃ full entropy events, collect password components file w = (.ok full, w.spent entropy events) ∧
      (∀ e ∈ events, w.Consulted e) ∧ Assoc.Sorted full ∧
      (∀ e ∈ full, SavesMember w password e) ∧
      (∀ c ∈ components, (Assoc.lookup c.key full).isSome) ∧
      ∀ key, (Assoc.lookup key file).isSome → (Assoc.lookup key full).isSome := by
  induction components generalizing w file with
  | nil =>
      refine ⟨file, w.host.entropy, [], ?_, fun _ h => absurd h List.not_mem_nil, hsorted, hfile,
        fun _ h => absurd h List.not_mem_nil, fun _ => id⟩
      rw [spent_self, collect, Op.pure_apply]
  | cons c rest ih =>
      rcases List.forall_mem_cons.1 hc with ⟨hhead, hrest⟩
      rcases downloadComponent_saves hw hr he hhead password with
        ⟨data, entropy, events, hrun, hevents, hmember⟩
      have hadded : ∀ e ∈ Assoc.insert c.key data file,
          SavesMember (w.spent entropy events) password e := by
        intro e h
        rcases Assoc.mem_insert h with rfl | h
        · exact ⟨hmember.approvals, hmember.connections⟩
        · exact ⟨(hfile e h).approvals, (hfile e h).connections⟩
      -- Spending randomness changes nothing that the other components depend on.
      rcases ih (w := w.spent entropy events) ⟨hw.approvals, hw.connections⟩
          ⟨hr.approvals, hr.connections⟩
          ⟨he.loaded, he.approvals, he.connections, he.own, he.willing⟩ hrest hadded
          (Assoc.sorted_insert _ _ hsorted) with
        ⟨full, entropy', events', hcollect, hevents', hsorted', hmembers, hcomplete, hkept⟩
      refine ⟨full, entropy', events ++ events', ?_, fun e h => ?_, hsorted',
        fun e h => ⟨(hmembers e h).approvals, (hmembers e h).connections⟩, ?_, fun key hkey => ?_⟩
      · rw [collect, Op.bind_ok hrun, hcollect, spent_spent]
      · exact (List.mem_append.1 h).elim (hevents e) (hevents' e)
      · refine List.forall_mem_cons.2 ⟨hkept _ ?_, hcomplete⟩
        rw [Assoc.lookup_insert_self]
        rfl
      · refine hkept key ?_
        by_cases hsame : key = c.key
        · rw [hsame, Assoc.lookup_insert_self]
          rfl
        · rwa [Assoc.lookup_insert_of_ne hsame]

/-- A backup saves the registries, and only randomness is spent on it. -/
theorem downloadBackup_saves
    (hauthentic : (onLock (SessionLock.isAuthentic password) w).1 = .ok true) :
    ∃ file entropy events, downloadBackup password w =
        (.ok (BackupFile.dataUri (BackupFile.text file)), w.spent entropy events) ∧
      (∀ e ∈ events, w.Consulted e) ∧ Saves w password file := by
  rcases collect_saves hw hr he (fun _ => id) password
      (fun _ h => absurd h List.not_mem_nil) List.Pairwise.nil with
    ⟨file, entropy, events, hrun, hevents, hsorted, hmembers, hcomplete, _⟩
  refine ⟨file, entropy, events, ?_, hevents, hsorted, hmembers, hcomplete⟩
  rw [downloadBackup_authentic hauthentic, Op.bind_ok hrun, Op.pure_apply]

end Saving

/-! ## Restoring -/

/-- A registry with the entries of another put over its own. -/
def Overrides {α : Type} (before source after : Option (OriginMap α)) : Prop :=
  ∃ m n, before = some m ∧ source = some n ∧ after = some (m.overrideBy n)

namespace Overrides

variable {α : Type} {a b c d : Option (OriginMap α)}

/-- What was restored once is restored already. -/
theorem again (h : Overrides a b c) (k : Overrides c b d) : d = c := by
  rcases h with ⟨m, n, _, hn, rfl⟩
  rcases k with ⟨_, n', hm, hn', rfl⟩
  rcases Option.some.inj hm
  rcases Option.some.inj (hn.symm.trans hn')
  rw [OriginMap.overrideBy_again]

/-- Nothing that is restored later takes it back. -/
theorem stays (h : Overrides a b c) (k : d = c ∨ Overrides c b d) : Overrides a b d := by
  rcases k with rfl | k
  · exact h
  · rw [h.again k]
    exact h

theorem isSome (h : c = a ∨ Overrides a b c) (ha : a.isSome) : c.isSome := by
  rcases h with rfl | ⟨_, _, _, _, rfl⟩
  · exact ha
  · rfl

/-- What was restored before makes no difference. -/
theorem after (k : Overrides c b d) (h : c = a ∨ Overrides a b c) : Overrides a b d := by
  rcases h with rfl | h
  · exact k
  · exact h.stays (.inr k)

end Overrides

/-- What a wallet is made by the registries of another: its own registries may be overridden, and
nothing else in memory changes. Of the slots only theirs are written, and no quota changes. -/
structure Receives (source w v : Wallet) : Prop where
  config : v.config = w.config
  core : v.core = { w.core with approvals := v.core.approvals, connections := v.core.connections }
  approvals : v.core.approvals = w.core.approvals ∨
    Overrides w.core.approvals source.core.approvals v.core.approvals
  connections : v.core.connections = w.core.connections ∨
    Overrides w.core.connections source.core.connections v.core.connections
  slots : ∀ name, name ≠ w.config.storageKeys.approvals →
    name ≠ w.config.storageKeys.connections → v.host.storage.slot name = w.host.storage.slot name
  quotas : ∀ name, (v.host.storage.slot name).quota = (w.host.storage.slot name).quota

/-- The slot of a registry has no room for it once it is overridden. -/
def Crowded (source w : Wallet) : Prop :=
  ∃ key, w.core.session.secret = some key ∧
    ((∃ next e, Overrides w.core.approvals source.core.approvals (some next) ∧
      (w.host.storage.slot w.config.storageKeys.approvals).admits
        (SealedText.sealFresh next.text key approvalsLabel.purpose e).1 = false) ∨
    ∃ next e, Overrides w.core.connections source.core.connections (some next) ∧
      (w.host.storage.slot w.config.storageKeys.connections).admits
        (SealedText.sealFresh next.text key connectionsLabel.purpose e).1 = false)

variable {source : Wallet}

namespace Receives

theorem refl (source w : Wallet) : Receives source w w where
  config := rfl
  core := rfl
  approvals := .inl rfl
  connections := .inl rfl
  slots _ _ _ := rfl
  quotas _ := rfl

theorem trans {u : Wallet} (h : Receives source w v) (k : Receives source v u) :
    Receives source w u where
  config := k.config.trans h.config
  core := by rw [k.core, h.core]
  -- A map that has been overridden stays so, if the second step does anything to it or not.
  approvals := by
    rcases k.approvals with hsame | hover
    · rw [hsame]
      exact h.approvals
    · exact .inr (hover.after h.approvals)
  connections := by
    rcases k.connections with hsame | hover
    · rw [hsame]
      exact h.connections
    · exact .inr (hover.after h.connections)
  slots name ha hc := by
    rw [k.slots name (h.config ▸ ha) (h.config ▸ hc), h.slots name ha hc]
  quotas name := (k.quotas name).trans (h.quotas name)

theorem secret (h : Receives source w v) : v.core.session.secret = w.core.session.secret := by
  rw [h.core]

theorem components (h : Receives source w v) : v.core.components = w.core.components := by
  rw [h.core]

theorem equipped (h : Receives source w v) (he : w.Equipped) : v.Equipped where
  loaded := ⟨Overrides.isSome h.approvals he.loaded.1, Overrides.isSome h.connections he.loaded.2⟩
  approvals := h.components ▸ he.approvals
  connections := h.components ▸ he.connections
  own := h.components ▸ he.own
  willing := h.components ▸ he.willing

/-- A slot that has no room has none at first either. -/
theorem crowded (h : Receives source w v) (k : Crowded source v) : Crowded source w := by
  have hadmits (name value : String) : (v.host.storage.slot name).admits value =
      (w.host.storage.slot name).admits value := by
    rw [Slot.admits, Slot.admits, h.quotas]
  rcases k with ⟨key, hsecret, hcrowded⟩
  rw [h.config] at hcrowded
  refine ⟨key, h.secret.symm.trans hsecret, ?_⟩
  rcases hcrowded with ⟨next, e, hnext, hroom⟩ | ⟨next, e, hnext, hroom⟩
  · exact .inl ⟨next, e, hnext.after h.approvals, (hadmits _ _).symm.trans hroom⟩
  · exact .inr ⟨next, e, hnext.after h.connections, (hadmits _ _).symm.trans hroom⟩

end Receives

theorem quota_put {storage : Storage} {other : String} {slot : Slot}
    (h : slot.quota = (storage.slot other).quota) (name : String) :
    ((storage.put other slot).slot name).quota = (storage.slot name).quota := by
  by_cases hname : name = other
  · rw [hname, Storage.slot_put_self, h]
  · rw [Storage.slot_put_of_ne hname]

/-- Whoever writes to the slot of a registry receives what is loaded afterwards, if the one registry
or the other is overridden by it or stays. -/
theorem receives_rewritten {name : String} {slot : Slot} {entropy : Entropy}
    {a : Option (OriginMap HostPermission)} {c : Option (OriginMap ConnectedIdentity)}
    (hname : name = w.config.storageKeys.approvals ∨ name = w.config.storageKeys.connections)
    (hquota : slot.quota = (w.host.storage.slot name).quota)
    (ha : a = w.core.approvals ∨ Overrides w.core.approvals source.core.approvals a)
    (hc : c = w.core.connections ∨ Overrides w.core.connections source.core.connections c) :
    Receives source w (w.rewritten name slot entropy a c) where
  config := rfl
  core := rfl
  approvals := ha
  connections := hc
  slots other hnota hnotc := by
    refine Storage.slot_put_of_ne ?_ _ _
    rcases hname with rfl | rfl
    · exact hnota
    · exact hnotc
  quotas := quota_put hquota

/-- How restoring ends: those registries that are asked for are overridden, or there is no room for
one of them. -/
def Delivers (source w : Wallet) (approvals connections : Prop) (x : Op Wallet Unit) : Prop :=
  (∃ v, x w = (.ok (), v) ∧ Receives source w v ∧
    (approvals → Overrides w.core.approvals source.core.approvals v.core.approvals) ∧
    (connections → Overrides w.core.connections source.core.connections v.core.connections)) ∨
  ∃ v, x w = (.error (.storageWrite "quota exceeded"), v) ∧ Receives source w v ∧
    Crowded source w

namespace Delivers

variable {a c a' c' : Prop} {x y : Op Wallet Unit}

/-- There is nothing to restore. -/
theorem nothing (source w : Wallet) : Delivers source w False False (pure ()) :=
  .inl ⟨w, rfl, .refl _ _, False.elim, False.elim⟩

theorem of_imp (h : Delivers source w a c x) (ha : a' → a) (hc : c' → c) :
    Delivers source w a' c' x :=
  h.imp_left fun ⟨v, hrun, hv, happrovals, hconnections⟩ =>
    ⟨v, hrun, hv, happrovals ∘ ha, hconnections ∘ hc⟩

/-- What comes next starts from what was left, and keeps what was restored. -/
theorem bind (hx : Delivers source w a c x)
    (hy : ∀ v, Receives source w v → Delivers source v a' c' y) :
    Delivers source w (a ∨ a') (c ∨ c') (x >>= fun _ => y) := by
  rcases hx with ⟨v, hrun, hv, ha, hc⟩ | ⟨v, hrun, hv, hcrowded⟩
  · rw [Delivers, Op.bind_ok hrun]
    rcases hy v hv with ⟨u, hrun', hu, ha', hc'⟩ | ⟨u, hrun', hu, hcrowded⟩
    · refine .inl ⟨u, hrun', hv.trans hu, fun h => ?_, fun h => ?_⟩
      · rcases h with h | h
        · exact (ha h).stays hu.approvals
        · exact (ha' h).after hv.approvals
      · rcases h with h | h
        · exact (hc h).stays hu.connections
        · exact (hc' h).after hv.connections
    · exact .inr ⟨u, hrun', hv.trans hu, hv.crowded hcrowded⟩
  · rw [Delivers, Op.bind_error hrun]
    exact .inr ⟨v, rfl, hv, hcrowded⟩

end Delivers

/-- What restoring does for one component. -/
def restoreOne (c : BackupComponent) (password : String) : Option String → Op Wallet Unit
  | some data => uploadComponent c data password
  | none => pure ()

/-- A component that the file has a member for is restored, and then the rest. -/
theorem restore_cons {file : BackupFile} {c : BackupComponent} {data : Option String}
    (h : Assoc.lookup c.key file = some data) (password : String) (rest : List BackupComponent) :
    restore file password (c :: rest) =
      restoreOne c password data >>= fun _ => restore file password rest := by
  rw [restore, h]
  cases data with
  | none => rfl
  | some data => rfl

section Restoring

variable {key : String} (hs : source.Equipped) (hsecret : w.core.session.secret = some key)
  (he : w.Equipped)

include hs hsecret he

/-- A backup of a component overrides its registry, if there is room. -/
theorem uploadComponent_receives {c : BackupComponent} (hc : c ∈ w.core.components) {data : String}
    (hmember : SavesMember source password (c.key, some data)) :
    Delivers source w (c = .approvals) (c = .connections) (uploadComponent c data password) := by
  rw [Delivers]
  -- The slot of a registry takes the merged map or has no room for it, and then the map is as
  -- before.
  cases c with
  | approvals =>
      rcases Option.isSome_iff_exists.1 he.loaded.1 with ⟨m, hm⟩
      rcases Option.isSome_iff_exists.1 hs.loaded.1 with ⟨n, hn⟩
      have hover : Overrides w.core.approvals source.core.approvals (some (m.overrideBy n)) :=
        ⟨m, n, hm, hn, rfl⟩
      have hstart : uploadComponent .approvals data password w = onApprovals
          (Shelf.uploadBackup approvalsLabel w.core.session.secret data password) w := rfl
      rw [hstart, hsecret, onApprovals_apply,
        Shelf.uploadBackup_backed (s := w.approvalShelf) (hmember.approvals rfl n hn) hm,
        Shelf.commit_room]
      split
      · exact .inl ⟨_, rfl, receives_rewritten (.inl rfl) rfl (.inr hover) (.inl rfl),
          fun _ => hover, nofun⟩
      · next hroom =>
        exact .inr ⟨_, rfl, receives_rewritten (.inl rfl) rfl (.inl rfl) (.inl rfl), key, hsecret,
          .inl ⟨_, _, hover, eq_false_of_ne_true hroom⟩⟩
  | connections =>
      rcases Option.isSome_iff_exists.1 he.loaded.2 with ⟨m, hm⟩
      rcases Option.isSome_iff_exists.1 hs.loaded.2 with ⟨n, hn⟩
      have hover : Overrides w.core.connections source.core.connections (some (m.overrideBy n)) :=
        ⟨m, n, hm, hn, rfl⟩
      have hstart : uploadComponent .connections data password w = onConnections
          (Shelf.uploadBackup connectionsLabel w.core.session.secret data password) w := rfl
      rw [hstart, hsecret, onConnections_apply,
        Shelf.uploadBackup_backed (s := w.connectionShelf) (hmember.connections rfl n hn) hm,
        Shelf.commit_room]
      split
      · exact .inl ⟨_, rfl, receives_rewritten (.inr rfl) rfl (.inl rfl) (.inr hover),
          nofun, fun _ => hover⟩
      · next hroom =>
        exact .inr ⟨_, rfl, receives_rewritten (.inr rfl) rfl (.inl rfl) (.inl rfl), key, hsecret,
          .inr ⟨_, _, hover, eq_false_of_ne_true hroom⟩⟩
  | foreign name held refuses =>
      cases refuses with
      | true => exact absurd hc (he.willing name held)
      | false =>
          exact .inl ⟨_, rfl, ⟨rfl, rfl, .inl rfl, .inl rfl, fun _ _ _ => rfl, fun _ => rfl⟩,
            nofun, nofun⟩

/-- A component without data stays as it is, and that is what its member asks for. -/
theorem restoreOne_receives {c : BackupComponent} (hc : c ∈ w.core.components)
    {data : Option String} (hmember : SavesMember source password (c.key, data)) :
    Delivers source w (c = .approvals) (c = .connections) (restoreOne c password data) := by
  cases data with
  | some data => exact uploadComponent_receives hs hsecret he hc hmember
  | none =>
      refine .inl ⟨w, rfl, .refl _ _, ?_, ?_⟩
      -- That there is no data says that the map was empty, and overriding by the empty map changes
      -- nothing.
      · rintro rfl
        rcases Option.isSome_iff_exists.1 he.loaded.1 with ⟨m, hm⟩
        rcases Option.isSome_iff_exists.1 hs.loaded.1 with ⟨n, hn⟩
        have hempty : n = .empty := hmember.approvals rfl n hn
        exact ⟨m, n, hm, hn, by rw [hm, hempty, OriginMap.overrideBy_empty]⟩
      · rintro rfl
        rcases Option.isSome_iff_exists.1 he.loaded.2 with ⟨m, hm⟩
        rcases Option.isSome_iff_exists.1 hs.loaded.2 with ⟨n, hn⟩
        have hempty : n = .empty := hmember.connections rfl n hn
        exact ⟨m, n, hm, hn, by rw [hm, hempty, OriginMap.overrideBy_empty]⟩

/-- The members of a file are restored one after the other, unless there is no room for one. -/
theorem restore_receives {file : BackupFile} (hmembers : ∀ e ∈ file, SavesMember source password e)
    {components : List BackupComponent} (hc : ∀ c ∈ components, c ∈ w.core.components)
    (hcomplete : ∀ c ∈ components, (Assoc.lookup c.key file).isSome) :
    Delivers source w (.approvals ∈ components) (.connections ∈ components)
      (restore file password components) := by
  -- The wallet that the rest of the components meet has the same key, and is as well equipped.
  induction components generalizing w with
  | nil => exact (Delivers.nothing source w).of_imp List.not_mem_nil List.not_mem_nil
  | cons c rest ih =>
      rcases List.forall_mem_cons.1 hc with ⟨hhead, hrest⟩
      rcases List.forall_mem_cons.1 hcomplete with ⟨hfound, hcomplete⟩
      rcases Option.isSome_iff_exists.1 hfound with ⟨data, hdata⟩
      rw [restore_cons hdata]
      have hone := restoreOne_receives hs hsecret he hhead (hmembers _ (Assoc.mem_of_lookup hdata))
      have hboth := hone.bind fun v hv =>
        ih (hv.secret.trans hsecret) (hv.equipped he) (hv.components ▸ hrest) hcomplete
      exact hboth.of_imp (fun h => (List.mem_cons.1 h).imp_left Eq.symm)
        fun h => (List.mem_cons.1 h).imp_left Eq.symm

/-- A file that was saved is restored, unless there is no room. -/
theorem uploadBackup_receives {file : BackupFile} (hfile : Saves source password file)
    (hcovers : ∀ c ∈ w.core.components, ∃ k ∈ source.core.components, k.key = c.key)
    {own : String} (hauthentic : (onLock (SessionLock.isAuthentic own) w).1 = .ok true) :
    Delivers source w True True (uploadBackup {
      content := BackupFile.dataUri (BackupFile.text file)
      password := own
      backupPassword := password }) := by
  have hcomplete : ∀ c ∈ w.core.components, (Assoc.lookup c.key file).isSome := by
    intro c hc
    rcases hcovers c hc with ⟨k, hk, hkey⟩
    exact hkey ▸ hfile.complete k hk
  have hrestored := restore_receives hs hsecret he hfile.members (fun _ => id) hcomplete
  rw [Delivers, uploadBackup_authentic hfile.sorted hauthentic,
    if_pos (List.all_eq_true.2 hcomplete)]
  exact hrestored.of_imp (fun _ => he.approvals) fun _ => he.connections

end Restoring

/-! ## What cannot be restored -/

/-- A file has members for nothing but the components that it was collected from. -/
theorem collect_keys {components : List BackupComponent} {file full : BackupFile}
    (h : collect password components file w = (.ok full, v)) (hsorted : Assoc.Sorted file) :
    Assoc.Sorted full ∧ ∀ key, (Assoc.lookup key full).isSome →
      (Assoc.lookup key file).isSome ∨ ∃ c ∈ components, c.key = key := by
  -- The file is built up on the way, so the induction is for any file to begin with.
  induction components generalizing w file with
  | nil =>
      rw [collect, Op.pure_apply] at h
      rcases Except.ok.inj (congrArg Prod.fst h)
      exact ⟨hsorted, fun _ => .inl⟩
  | cons c rest ih =>
      rw [collect] at h
      rcases Op.bind_cases h with ⟨data, u, _, hrest⟩
      rcases ih hrest (Assoc.sorted_insert _ _ hsorted) with ⟨hfull, hkeys⟩
      refine ⟨hfull, fun key hkey => ?_⟩
      rcases hkeys key hkey with hadded | ⟨k, hk, hsame⟩
      · by_cases hsame : c.key = key
        · exact .inr ⟨c, List.mem_cons_self, hsame⟩
        · rw [Assoc.lookup_insert_of_ne (Ne.symm hsame)] at hadded
          exact .inl hadded
      · exact .inr ⟨k, List.mem_cons_of_mem _ hk, hsame⟩

/-- A component that gives no backup prevents that of all. -/
theorem collect_refused {c : BackupComponent}
    (hc : ∀ w, ∃ e, (downloadComponent c password w).1 = .error e)
    {components : List BackupComponent} (hmem : c ∈ components) (file : BackupFile) (w : Wallet) :
    ∃ e, (collect password components file w).1 = .error e := by
  induction components generalizing w file with
  | nil => exact absurd hmem List.not_mem_nil
  | cons k rest ih =>
      rcases hrun : downloadComponent k password w with ⟨e | data, u⟩
      · rw [collect, Op.bind_error hrun]
        exact ⟨e, rfl⟩
      · rw [collect, Op.bind_ok hrun]
        rcases List.mem_cons.1 hmem with rfl | hrest
        · rcases hc w with ⟨e, he⟩
          rw [hrun] at he
          cases he
        · exact ih hrest _ u

/-- A backup of one wallet is of no use to another that has a component which the first lacks. -/
theorem uploadBackup_uncovered {own content : String} {c : BackupComponent}
    (hdownload : (downloadBackup password source).1 = .ok content)
    (hsource : (onLock (SessionLock.isAuthentic password) source).1 = .ok true)
    (hw : (onLock (SessionLock.isAuthentic own) w).1 = .ok true) (hc : c ∈ w.core.components)
    (hlacks : ∀ k ∈ source.core.components, k.key ≠ c.key) :
    uploadBackup { content, password := own, backupPassword := password } w =
      (.error .corruptedBackup, w) := by
  have hrun : downloadBackup password source = (.ok content, (downloadBackup password source).2) :=
    Prod.ext hdownload rfl
  rw [downloadBackup_authentic hsource] at hrun
  rcases Op.bind_cases hrun with ⟨file, v, hcollect, hfile⟩
  rcases Except.ok.inj (congrArg Prod.fst hfile)
  rcases collect_keys hcollect List.Pairwise.nil with ⟨hsorted, hkeys⟩
  -- A key of the file is one of those the source has components for.
  have hmissing : ¬ (w.core.components.all fun c => (Assoc.lookup c.key file).isSome) = true := by
    intro hall
    rcases hkeys _ (List.all_eq_true.1 hall c hc) with hnone | ⟨k, hk, hsame⟩
    · cases hnone
    · exact hlacks k hk hsame
  rw [uploadBackup_authentic hsorted hw, if_neg hmissing]
  rfl

/-- The file of a wallet whose registries are kept nowhere. -/
def bareFile : BackupFile :=
  [(approvalsLabel.component, none), (connectionsLabel.component, none)]

/-- What is kept nowhere is not saved, whatever is in memory. -/
theorem downloadBackup_bare
    (hauthentic : (onLock (SessionLock.isAuthentic password) w).1 = .ok true)
    (hcomponents : w.core.components = [.approvals, .connections]) (hr : w.Readable)
    (ha : w.kept w.config.storageKeys.approvals = none)
    (hc : w.kept w.config.storageKeys.connections = none) :
    downloadBackup password w = (.ok (BackupFile.dataUri (BackupFile.text bareFile)), w) := by
  have happrovals : downloadComponent .approvals password w = (.ok none, w) := by
    rw [downloadComponent_approvals (Shelf.downloadBackup_empty hr.approvals ha _ _),
      putApprovals_self]
  have hconnections : downloadComponent .connections password w = (.ok none, w) := by
    rw [downloadComponent_connections (Shelf.downloadBackup_empty hr.connections hc _ _),
      putConnections_self]
  rw [downloadBackup_authentic hauthentic, hcomponents, collect, Op.bind_apply,
    Op.bind_ok happrovals, collect, Op.bind_ok hconnections, collect, Op.pure_apply]
  rfl

/-- What was not saved changes nothing. -/
theorem uploadBackup_bare {own : String}
    (hauthentic : (onLock (SessionLock.isAuthentic own) w).1 = .ok true)
    (hcomponents : w.core.components = [.approvals, .connections]) :
    uploadBackup {
      content := BackupFile.dataUri (BackupFile.text bareFile)
      password := own
      backupPassword := password } w = (.ok (), w) := by
  have hsorted : Assoc.Sorted bareFile := List.pairwise_pair.2 (by decide)
  rw [uploadBackup_authentic hsorted hauthentic, hcomponents]
  rfl

end Wallet

end WalletTrust

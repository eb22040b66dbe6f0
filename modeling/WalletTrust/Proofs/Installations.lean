import WalletTrust.Proofs.Restoring

/-!
# Two Installations

A backup of one installation, restored in another.

The installations share nothing but the file: they have storages, secrets and histories of their
own. What `Restoring` needs of the wallets holds at all times, because what is held is what is kept.
So the file can be made and uploaded in any two states in which the registries are loaded.

Four things have to be so for that. The slots of an installation have names of their own and nobody
else writes to them, or they would not hold what is in memory. They can be read when the backup is
made. The registries are registered for backups, and no other component spoils it. And the file has
to have what the other installation asks for. Each of the runs at the end fails in one of these
respects, and the entries do not arrive.

How an upload ends is said as an alternative: the entries have arrived, or the slots of the
registries have no room for them. The second is a condition on the slots and not on the answer of
the call, so it is excluded as soon as the slots have no limit. The runs at the end begin alike,
with a password and an approved page, and differ in the one thing that happens next.

## Main definitions

* `Wallet.Restored`: What becomes of a wallet that restored the backup of another.
* `Run.Ready`: An installation whose backups can be relied upon.
* `Wallet.Arrives`: The backup of a wallet is made, and restored in another.

## Theorems

* `Run.backup_transfers`: The entries of one installation are put over those of the other.
* `Run.backup_astray`: They need not be if an installation is not ready.
* `Run.Ready.mirrored`: What is held is what is kept, as long as nobody else has written to the
  slots.
* `Wallet.Receives.restored`, `Wallet.Receives.authentic`: A wallet that has received both
  registries has them restored, and can be restored again.
* `Wallet.not_crowded`: Without quotas there is room for anything.
* `Wallet.not_arrives_uncovered`, `Wallet.not_arrives_bare`, `Wallet.not_arrives_of_refused`: How a
  backup goes astray.
* `Run.backup_transfers_ordinary`: The approval of the one is that of the other.
-/

namespace WalletTrust

namespace SessionLock

variable {l l' : SessionLock} {password : String}

/-- Whether a password is authentic is a matter of the verifier. -/
theorem isAuthentic_of_verifier (h : l'.verifier = l.verifier)
    (hl : (isAuthentic password l).1 = .ok true) : (isAuthentic password l').1 = .ok true := by
  rcases isAuthentic_cases password l with ⟨hopens, hreads, _⟩ | ⟨e, hrun⟩
  · have hopens' : l'.Opens password := by
      rw [Opens, h]
      exact hopens
    rw [hopens'.isAuthentic (h ▸ hreads)]
  · rw [hrun] at hl
    cases hl

end SessionLock

namespace Wallet

variable {source u w v : Wallet}

/-- The request to restore a file. -/
abbrev upload (content own password : String) : UploadBackup :=
  { content, password := own, backupPassword := password }

/-- The backup of a wallet is made, and restored in another. -/
def Arrives (password own : String) (source w : Wallet) : Prop :=
  ∃ content v, (downloadBackup password source).1 = .ok content ∧
    uploadBackup (upload content own password) w = (.ok (), v) ∧
    Overrides w.core.approvals source.core.approvals v.core.approvals ∧
    Overrides w.core.connections source.core.connections v.core.connections

/-- What becomes of a wallet that restored the backup of another. -/
structure Restored (source w v : Wallet) : Prop where
  receives : Receives source w v
  /-- The entries of the other are put over its own, and are kept under its own secret. -/
  approvals : Overrides w.core.approvals source.core.approvals v.core.approvals
  connections : Overrides w.core.connections source.core.connections v.core.connections
  mirrored : v.Mirrored
  /-- An origin has what it had in the other, or else what it had here. -/
  permission : ∀ origin,
    v.permission? origin = (source.permission? origin).or (w.permission? origin)
  connection : ∀ origin,
    v.connection? origin = (source.connection? origin).or (w.connection? origin)
  /-- Where there was nothing, there is now what there is in the other. -/
  fresh : w.core.approvals = some .empty → w.core.connections = some .empty →
    v.core.approvals = source.core.approvals ∧ v.core.connections = source.core.connections

/-- An origin that is in the overriding registry has the value that it has there. -/
theorem Overrides.get? {α : Type} {a b c : Option (OriginMap α)} (h : Overrides a b c)
    (origin : String) : c.bind (·.get? origin) =
      (b.bind (·.get? origin)).or (a.bind (·.get? origin)) := by
  rcases h with ⟨m, n, rfl, rfl, rfl⟩
  exact m.get?_overrideBy n origin

/-- To override an empty registry is to take the place of it. -/
theorem Overrides.fresh {α : Type} {a b c : Option (OriginMap α)} (h : Overrides a b c)
    (ha : a = some .empty) : c = b := by
  rcases h with ⟨m, n, hm, rfl, rfl⟩
  rcases Option.some.inj (ha.symm.trans hm)
  exact congrArg some n.ofList_entries

/-- A wallet that has received both registries has them restored. -/
theorem Receives.restored (h : Receives source w v)
    (ha : Overrides w.core.approvals source.core.approvals v.core.approvals)
    (hc : Overrides w.core.connections source.core.connections v.core.connections)
    (hmirrored : v.Mirrored) : Restored source w v where
  receives := h
  approvals := ha
  connections := hc
  mirrored := hmirrored
  permission := ha.get?
  connection origin := by
    rw [connection?, connection?, connection?, hc.get?, Option.map_or]
  fresh hnoapprovals hnoconnections := ⟨ha.fresh hnoapprovals, hc.fresh hnoconnections⟩

/-- A password is authentic if the verifier was made with it. -/
theorem isAuthentic_of_sealed {password : String} {e : Entropy} (hp : password ≠ "")
    (hreads : w.lock.verifier.readable = true) (hsealed : w.lock.verifier.value =
      some (SealedText.sealFresh SessionLock.knownText password .settings e).1) :
    (onLock (SessionLock.isAuthentic password) w).1 = .ok true :=
  congrArg Prod.fst (SessionLock.isAuthentic_sealed hp hreads hsealed)

/-- A wallet that restored a backup can restore it again. -/
theorem Receives.authentic {password : String} (h : Receives source w v)
    (hkeys : w.config.storageKeys.Distinct)
    (hw : (onLock (SessionLock.isAuthentic password) w).1 = .ok true) :
    (onLock (SessionLock.isAuthentic password) v).1 = .ok true := by
  have hverifier : v.lock.verifier = w.lock.verifier := by
    rw [lock, lock, h.config]
    exact h.slots _ hkeys.approvals hkeys.connections
  exact SessionLock.isAuthentic_of_verifier hverifier hw

/-- And a second time changes nothing in memory. -/
theorem Receives.core_of_restored (h : Receives source w v) (hw : Restored source u w) :
    v.core = w.core := by
  have ha : v.core.approvals = w.core.approvals := h.approvals.elim id hw.approvals.again
  have hc : v.core.connections = w.core.connections := h.connections.elim id hw.connections.again
  rw [h.core, ha, hc]

/-- An upload keeps what is held and what is kept alike. -/
theorem Mirrored.uploadBackup (hw : w.Mirrored) (hkeys : w.config.storageKeys.Distinct)
    (upload : UploadBackup) : (Wallet.uploadBackup upload w).2.Mirrored := by
  have hacts : Acts (fun _ => True) w (Wallet.uploadBackup upload w).2 :=
    uploadBackup_acts upload (fun _ _ => trivial) (fun _ _ => trivial) w
  exact hacts.mirrored (hkeys.apart _) hw

/-- Without quotas there is room for anything. -/
theorem not_crowded (ha : (w.host.storage.slot w.config.storageKeys.approvals).quota = none)
    (hc : (w.host.storage.slot w.config.storageKeys.connections).quota = none) :
    ¬ Crowded source w := by
  have hadmits {slot : Slot} (h : slot.quota = none) (text : String) : slot.admits text = true := by
    rw [Slot.admits, h]
  rintro ⟨_, _, ⟨_, _, _, hroom⟩ | ⟨_, _, _, hroom⟩⟩
  · rw [hadmits ha] at hroom
    cases hroom
  · rw [hadmits hc] at hroom
    cases hroom

section Astray

variable {password own : String}

/-- A backup that could not be made does not arrive. -/
theorem not_arrives_of_refused (h : ∃ e, (downloadBackup password source).1 = .error e) :
    ¬ Arrives password own source w := by
  rintro ⟨content, v, hdownload, _⟩
  rcases h with ⟨e, he⟩
  rw [he] at hdownload
  cases hdownload

variable (hsource : (onLock (SessionLock.isAuthentic password) source).1 = .ok true)

include hsource

/-- There is no backup if the first registry cannot be read. -/
theorem downloadBackup_unreadable
    (hcomponents : source.core.components = [.approvals, .connections]) (hreadable :
      (source.host.storage.slot source.config.storageKeys.approvals).readable = false) :
    (downloadBackup password source).1 = .error (.storageRead "slot unreadable") := by
  have hread : Shelf.onSlot Slot.read source.approvalShelf =
      (.error (.storageRead "slot unreadable"), source.approvalShelf) :=
    Shelf.read_unreadable hreadable
  have hcomponent : downloadComponent .approvals password source =
      (.error (.storageRead "slot unreadable"), source) := by
    rw [downloadComponent_approvals (Op.bind_error hread _), putApprovals_self]
  rw [downloadBackup_authentic hsource, hcomponents, collect, Op.bind_apply,
    Op.bind_error hcomponent]

/-- A component that gives no backup keeps the others from theirs. -/
theorem downloadBackup_refused {key : String} {data : Option String}
    (h : .foreign key data true ∈ source.core.components) :
    ∃ e, (downloadBackup password source).1 = .error e := by
  have hrefuses : ∀ w, ∃ e, (downloadComponent (.foreign key data true) password w).1 = .error e :=
    fun w => ⟨_, rfl⟩
  rcases collect_refused hrefuses h [] source with ⟨e, he⟩
  rcases hcollect : collect password source.core.components [] source with ⟨outcome, v⟩
  rw [hcollect] at he
  rcases he
  rw [downloadBackup_authentic hsource, Op.bind_error hcollect]
  exact ⟨e, rfl⟩

variable (hw : (onLock (SessionLock.isAuthentic own) w).1 = .ok true)

include hw

/-- A component that was not saved cannot be restored, and nothing else is. -/
theorem not_arrives_uncovered {c : BackupComponent} (hc : c ∈ w.core.components)
    (hlacks : ∀ k ∈ source.core.components, k.key ≠ c.key) : ¬ Arrives password own source w := by
  rintro ⟨content, v, hdownload, hupload, _⟩
  rw [uploadBackup_uncovered hdownload hsource hw hc hlacks] at hupload
  cases hupload

/-- What is in memory does not arrive if it is not kept. -/
theorem not_arrives_bare (hsaved : source.core.components = [.approvals, .connections])
    (hcomponents : w.core.components = [.approvals, .connections]) (hr : source.Readable)
    (ha : source.kept source.config.storageKeys.approvals = none)
    (hc : source.kept source.config.storageKeys.connections = none) {origin : String}
    (hheld : (source.permission? origin).isSome) (hnew : w.permission? origin = none) :
    ¬ Arrives password own source w := by
  rintro ⟨content, v, hdownload, hupload, hover, _⟩
  rw [downloadBackup_bare hsource hsaved hr ha hc] at hdownload
  rcases Except.ok.inj hdownload
  rw [uploadBackup_bare hw hcomponents] at hupload
  rcases Prod.mk.inj hupload with ⟨_, rfl⟩
  have hget : w.permission? origin = (source.permission? origin).or (w.permission? origin) :=
    hover.get? origin
  rw [hnew, Option.or_none] at hget
  rw [← hget] at hheld
  cases hheld

end Astray

end Wallet

namespace Run

/-- An installation whose backups can be relied upon. -/
structure Ready (run : Run) (t : Nat) (password : String) : Prop where
  keys : run.config.storageKeys.Distinct
  unwritten : ∀ u < t, ¬ run.WrittenAt u run.config.storageKeys.approvals ∧
    ¬ run.WrittenAt u run.config.storageKeys.connections
  equipped : (run.wallet t).Equipped
  authentic :
    (Wallet.onLock (SessionLock.isAuthentic password) (run.wallet t)).1 = .ok true

open Wallet (Arrives Crowded Receives Restored upload)

variable {run source target : Run} {s t : Nat} {password own : String}

/-- What is held is what is kept, as long as nobody else has written to the slots. -/
theorem Ready.mirrored (h : run.Ready t password) : (run.wallet t).Mirrored := by
  have hkeys (u : Nat) : (run.wallet u).config.storageKeys.Distinct := by
    rw [run.config_eq u]
    exact h.keys
  -- The slots are left alone up to `t` only, so the induction stops there.
  have hbefore : ∀ u ≤ t, (run.wallet u).Mirrored := by
    intro u
    induction u with
    | zero => exact fun _ => ⟨Shelf.mirrors_none, Shelf.mirrors_none⟩
    | succ u ih =>
        intro hu
        have hw := ih (Nat.le_of_succ_le hu)
        rcases run.deeds_stage u with ⟨_, _, hinside⟩ | ⟨_, _, _, hinside⟩ | hout
        · exact hinside.mirrored ((hkeys u).apart _) hw
        · exact hinside.mirrored ((hkeys u).apart _) hw
        · refine hout.mirrored ?_ ?_ hw
          · rw [run.config_eq u]
            exact (h.unwritten u hu).1
          · rw [run.config_eq u]
            exact (h.unwritten u hu).2
  exact hbefore t (Nat.le_refl t)

/-- The backup of an installation is made with nothing but randomness, and puts its entries over
those of another, unless that one lacks the room for them. It can be restored any number of times.
-/
theorem backup_transfers (hs : source.Ready s password) (hreadable : (source.wallet s).Readable)
    (ht : target.Ready t own) (hcovers : ∀ c ∈ (target.wallet t).core.components,
      ∃ k ∈ (source.wallet s).core.components, k.key = c.key) :
    ∃ content entropy events, Wallet.downloadBackup password (source.wallet s) =
        (.ok content, (source.wallet s).spent entropy events) ∧
      (∀ e ∈ events, (source.wallet s).Consulted e) ∧
      ((∃ v, Wallet.uploadBackup (upload content own password) (target.wallet t) = (.ok (), v) ∧
        Restored (source.wallet s) (target.wallet t) v ∧
        (Wallet.uploadBackup (upload content own password) v).2.core = v.core ∧
        (Wallet.uploadBackup (upload content own password) v).2.Mirrored) ∨
      ∃ v, Wallet.uploadBackup (upload content own password) (target.wallet t) =
          (.error (.storageWrite "quota exceeded"), v) ∧
        Receives (source.wallet s) (target.wallet t) v ∧
        Crowded (source.wallet s) (target.wallet t)) := by
  have hsource := hs.mirrored
  have htarget := ht.mirrored
  have hkeys : (target.wallet t).config.storageKeys.Distinct := by
    rw [target.config_eq t]
    exact ht.keys
  rcases Option.isSome_iff_exists.1 ht.equipped.loaded.1 with ⟨m, hm⟩
  rcases htarget.approvals m hm with ⟨key, hsecret, _⟩
  rcases Wallet.downloadBackup_saves hsource hreadable hs.equipped hs.authentic with
    ⟨file, entropy, events, hdownload, hevents, hfile⟩
  refine ⟨_, entropy, events, hdownload, hevents, ?_⟩
  rcases Wallet.uploadBackup_receives hs.equipped hsecret ht.equipped hfile hcovers
      ht.authentic with
    ⟨v, hrun, hv, ha, hc⟩ | hfull
  · refine .inl ⟨v, hrun, ?_⟩
    have hmirrored : v.Mirrored := by
      have h := htarget.uploadBackup hkeys
        (upload (BackupFile.dataUri (BackupFile.text file)) own password)
      rwa [hrun] at h
    have hvkeys : v.config.storageKeys.Distinct := by
      rw [hv.config]
      exact hkeys
    have hrestored := hv.restored (ha trivial) (hc trivial) hmirrored
    refine ⟨hrestored, ?_, hmirrored.uploadBackup hvkeys _⟩
    -- The wallet is as ready for the file as it was, whether or not the second upload has room.
    rcases Wallet.uploadBackup_receives hs.equipped (hv.secret.trans hsecret)
        (hv.equipped ht.equipped) hfile (hv.components ▸ hcovers)
        (hv.authentic hkeys ht.authentic) with
      ⟨u, hrun', hu, _⟩ | ⟨u, hrun', hu, _⟩
    · rw [hrun']
      exact hu.core_of_restored hrestored
    · rw [hrun']
      exact hu.core_of_restored hrestored
  · exact .inr hfull

/-- An installation that was just made, and has no entries. -/
def fresh : Run where
  move _ := .call (.setupPassword "fresh")

/-- An installation that approves an origin, after which something else happens to it. -/
def saving (keys : StorageKeys) (next : Move) : Run where
  config := { storageKeys := keys }
  move
    | 0 => .call (.setupPassword "password")
    | 1 => .call (.approve { origin := "https://a.test", canSkipApprove := true })
    | _ => next

theorem fresh_adopts :
    fresh.wallet 1 = (Wallet.finish .flag (Wallet.adopt "fresh") (fresh.wallet 0)).2 := by
  rw [wallet_call (t := 0) rfl, Wallet.perform_adopts (by decide) rfl rfl rfl]

theorem fresh_components : (fresh.wallet 1).core.components = [.approvals, .connections] := by
  rw [fresh_adopts]
  decide +kernel

theorem saving_adopts (keys : StorageKeys) (next : Move) (d : Nat) :
    (saving keys next).system (1 + d) = (saving keys next).after 1
      (System.run 0 (Wallet.finish .flag (Wallet.adopt "password"))
        ((saving keys next).system 0)).2 d :=
  system_adopts_add rfl (by decide) rfl rfl rfl d

/-- The password of an installation is right, its registries are loaded, and their slots have
room. -/
structure Open (run : Run) (t : Nat) (password : String) : Prop where
  unlocked : (run.wallet t).core.session.isUnlocked = true
  loaded : (run.wallet t).core.approvals.isSome ∧ (run.wallet t).core.connections.isSome
  roomy : ((run.wallet t).host.storage.slot run.config.storageKeys.approvals).quota = none ∧
    ((run.wallet t).host.storage.slot run.config.storageKeys.connections).quota = none
  authentic :
    (Wallet.onLock (SessionLock.isAuthentic password) (run.wallet t)).1 = .ok true

theorem fresh_open : fresh.Open 1 "fresh" := by
  have hreads : (fresh.wallet 1).lock.verifier.readable = true := by
    rw [fresh_adopts]
    rfl
  have hsealed : (fresh.wallet 1).lock.verifier.value =
      some (SealedText.sealFresh SessionLock.knownText "fresh" .settings default).1 := by
    rw [fresh_adopts]
    rfl
  refine ⟨?_, ?_, ?_, Wallet.isAuthentic_of_sealed (by decide) hreads hsealed⟩
  · rw [fresh_adopts]
    decide +kernel
  · rw [fresh_adopts]
    decide +kernel
  · rw [fresh_adopts]
    decide +kernel

/-- The wallet that saves, after the password was adopted. -/
def saved (keys : StorageKeys) (next : Move) : Wallet :=
  ((saving keys next).after 1 (System.run 0 (Wallet.finish .flag (Wallet.adopt "password"))
    ((saving keys next).system 0)).2 2).wallet

theorem saving_saved (keys : StorageKeys) (next : Move) :
    (saving keys next).wallet 3 = saved keys next :=
  congrArg System.wallet (saving_adopts keys next 2)

theorem saving_open {keys : StorageKeys} {next : Move}
    (hstate : (saved keys next).core.session.isUnlocked = true ∧
      ((saved keys next).core.approvals.isSome ∧ (saved keys next).core.connections.isSome) ∧
      (((saved keys next).host.storage.slot keys.approvals).quota = none ∧
        ((saved keys next).host.storage.slot keys.connections).quota = none) ∧
      (saved keys next).lock.verifier.readable = true)
    (hsealed : (saved keys next).lock.verifier.value =
      some (SealedText.sealFresh SessionLock.knownText "password" .settings default).1) :
    (saving keys next).Open 3 "password" := by
  rw [← saving_saved] at hstate hsealed
  rcases hstate with ⟨hunlocked, hloaded, hroomy, hreads⟩
  exact ⟨hunlocked, hloaded, hroomy, Wallet.isAuthentic_of_sealed (by decide) hreads hsealed⟩

/-- An installation that goes about its business. -/
def ordinary : Run := saving {} (.call .approvedOrigins)

theorem equipped_of_components {w : Wallet} (hcomponents : w.core.components =
    [.approvals, .connections]) (hloaded : w.core.approvals.isSome ∧ w.core.connections.isSome) :
    w.Equipped where
  loaded := hloaded
  approvals := by
    rw [hcomponents]
    exact List.mem_cons_self
  connections := by
    rw [hcomponents]
    exact List.mem_cons_of_mem _ List.mem_cons_self
  -- There is no component that is not the wallet's own.
  own key data refuses h := by
    rw [hcomponents] at h
    rcases List.mem_pair.1 h with h | h
    · cases h
    · cases h
  willing key data h := by
    rw [hcomponents] at h
    rcases List.mem_pair.1 h with h | h
    · cases h
    · cases h

/-- The approval of the one is that of the other. -/
theorem backup_transfers_ordinary : ordinary.Ready 3 "password" ∧ (ordinary.wallet 3).Readable ∧
    fresh.Ready 1 "fresh" ∧ (∀ c ∈ (fresh.wallet 1).core.components,
      ∃ k ∈ (ordinary.wallet 3).core.components, k.key = c.key) ∧
    ∃ content v, (Wallet.downloadBackup "password" (ordinary.wallet 3)).1 = .ok content ∧
      Wallet.uploadBackup (upload content "fresh" "password") (fresh.wallet 1) = (.ok (), v) ∧
      v.isApproved "https://a.test" = true := by
  have hopen : ordinary.Open 3 "password" := saving_open (by decide +kernel) rfl
  have hcomponents : (ordinary.wallet 3).core.components = [.approvals, .connections] := by
    rw [ordinary, saving_saved]
    decide +kernel
  -- Nothing but calls is made on either side, so no slot is written from outside.
  have hordinary : ordinary.Ready 3 "password" := by
    refine ⟨⟨by decide, by decide, by decide⟩, fun u _ => ?_,
      equipped_of_components hcomponents hopen.loaded, hopen.authentic⟩
    have hcalls (name : String) : ¬ ordinary.WrittenAt u name := by
      rintro ⟨action, hmove, _⟩
      rcases u with _ | _ | u
      · cases hmove
      · cases hmove
      · cases hmove
    exact ⟨hcalls _, hcalls _⟩
  have hnew : fresh.Ready 1 "fresh" := by
    refine ⟨⟨by decide, by decide, by decide⟩, fun u _ => ?_,
      equipped_of_components fresh_components fresh_open.loaded, fresh_open.authentic⟩
    have hcalls (name : String) : ¬ fresh.WrittenAt u name := by
      rintro ⟨action, hmove, _⟩
      cases hmove
    exact ⟨hcalls _, hcalls _⟩
  have hreadable : (ordinary.wallet 3).Readable := by
    rw [ordinary, saving_saved]
    exact ⟨by decide +kernel, by decide +kernel⟩
  have hcovers : ∀ c ∈ (fresh.wallet 1).core.components,
      ∃ k ∈ (ordinary.wallet 3).core.components, k.key = c.key := by
    rw [fresh_components, hcomponents]
    exact fun c hc => ⟨c, hc, rfl⟩
  refine ⟨hordinary, hreadable, hnew, hcovers, ?_⟩
  rcases backup_transfers hordinary hreadable hnew hcovers with
    ⟨content, _, _, hdownload, _, ⟨v, hupload, hrestored, _⟩ | ⟨_, _, _, hcrowded⟩⟩
  · refine ⟨content, v, congrArg Prod.fst hdownload, hupload, ?_⟩
    have happroved : ((ordinary.wallet 3).permission? "https://a.test").isSome := by
      rw [ordinary, saving_saved]
      decide +kernel
    rw [Wallet.isApproved, hrestored.permission, Option.isSome_or, happroved, Bool.true_or]
  -- The slots of a fresh installation have no limit.
  · refine absurd hcrowded (Wallet.not_crowded ?_ ?_)
    · rw [fresh.config_eq]
      exact fresh_open.roomy.1
    · rw [fresh.config_eq]
      exact fresh_open.roomy.2

/-- A component of the backup is removed. -/
def unregistered : Run := saving {} (.call (.removeComponent "connections"))

/-- A component is registered that gives no backup. -/
def refusing : Run := saving {} (.call (.registerComponent (.foreign "notes" none true)))

/-- The registries share a slot, and one of them is cleared. -/
def sharing : Run :=
  saving { password := "x", approvals := "y", connections := "y" } (.call .clearConnections)

/-- Someone else clears the slot of the approvals. -/
def cleared : Run := saving {} (.host (.erase "keeper.approvals"))

/-- The slot of the approvals cannot be read any more. -/
def unreadable : Run := saving {} (.host (.setReadable "keeper.approvals" false))

/-- An installation does what it can to save its entries, and they do not arrive. -/
def Astray (run : Run) : Prop :=
  run.Open 3 "password" ∧ ¬ Arrives "password" "fresh" (run.wallet 3) (fresh.wallet 1)

theorem unregistered_astray : unregistered.Astray := by
  have hopen : unregistered.Open 3 "password" := saving_open (by decide +kernel) rfl
  refine ⟨hopen, Wallet.not_arrives_uncovered hopen.authentic fresh_open.authentic
    (c := .connections) ?_ ?_⟩
  · rw [fresh_adopts]
    decide +kernel
  · have hcomponents : (unregistered.wallet 3).core.components = [.approvals] := by
      rw [unregistered, saving_saved]
      decide +kernel
    rw [hcomponents]
    decide

theorem refusing_astray : refusing.Astray := by
  have hopen : refusing.Open 3 "password" := saving_open (by decide +kernel) rfl
  have hmem : .foreign "notes" none true ∈ (refusing.wallet 3).core.components := by
    rw [refusing, saving_saved]
    decide +kernel
  exact ⟨hopen, Wallet.not_arrives_of_refused (Wallet.downloadBackup_refused hopen.authentic hmem)⟩

theorem saving_bare {keys : StorageKeys} {next : Move}
    (hopen : (saving keys next).Open 3 "password")
    (hstate : (saved keys next).core.components = [.approvals, .connections] ∧
      ((saved keys next).host.storage.slot keys.approvals).readable = true ∧
      ((saved keys next).host.storage.slot keys.connections).readable = true ∧
      (saved keys next).kept keys.approvals = none ∧
      (saved keys next).kept keys.connections = none ∧
      ((saved keys next).permission? "https://a.test").isSome) : (saving keys next).Astray := by
  rw [← saving_saved] at hstate
  rcases hstate with ⟨hcomponents, hra, hrc, ha, hc, hheld⟩
  have hkeys : ((saving keys next).wallet 3).config.storageKeys = keys :=
    congrArg Config.storageKeys ((saving keys next).config_eq 3)
  -- Neither map is in its slot, so the backup says of both that there is nothing.
  refine ⟨hopen, Wallet.not_arrives_bare hopen.authentic fresh_open.authentic hcomponents ?_
    ⟨?_, ?_⟩ ?_ ?_ hheld ?_⟩
  · rw [fresh_adopts]
    decide +kernel
  · rw [hkeys]
    exact hra
  · rw [hkeys]
    exact hrc
  · rw [hkeys]
    exact ha
  · rw [hkeys]
    exact hc
  · rw [fresh_adopts]
    decide +kernel

theorem sharing_astray : sharing.Astray :=
  saving_bare (saving_open (by decide +kernel) rfl) (by decide +kernel)

theorem cleared_astray : cleared.Astray :=
  saving_bare (saving_open (by decide +kernel) rfl) (by decide +kernel)

theorem unreadable_astray : unreadable.Astray := by
  have hopen : unreadable.Open 3 "password" := saving_open (by decide +kernel) rfl
  refine ⟨hopen, Wallet.not_arrives_of_refused
    ⟨_, Wallet.downloadBackup_unreadable hopen.authentic ?_ ?_⟩⟩
  · rw [unreadable, saving_saved]
    decide +kernel
  · rw [unreadable, saving_saved]
    decide +kernel

/-- An installation that is not ready may be unable to hand on its entries. -/
theorem backup_astray : fresh.Open 1 "fresh" ∧ unregistered.Astray ∧ refusing.Astray ∧
    sharing.Astray ∧ cleared.Astray ∧ unreadable.Astray :=
  ⟨fresh_open, unregistered_astray, refusing_astray, sharing_astray, cleared_astray,
    unreadable_astray⟩

end Run

end WalletTrust

import WalletTrust.Proofs.DataUri
import WalletTrust.Proofs.Failures
import WalletTrust.Proofs.Writes

/-!
# How Far a Restore Gets

What a backup file does to a wallet that it is uploaded to, whatever the file is.

A file is checked as a whole before anything is restored: the password, the text and the names of
its members. Then the components get their members one after the other, and the first that fails is
the last. A component on its own either takes the entries of its backup over those that it has, in
one write, or stays what it was.

What is done for one component does not show at another, as long as the registries have slots of
their own. So what has become of a registry in the end is what its own turn has made of it, and it
does not matter what came before or how it ended. The course of a restore is followed once, by
induction, and then looked at from either registry.

Nothing here depends on a component being registered once only. One that is registered twice is
handled twice, so it is counted how often a component is handled. Nothing is lost by it, as taking
the same entries again changes nothing.

## Main definitions

* `Shelf.Spoilt`, `Shelf.Obstacle`: Why a backup cannot be restored.
* `Shelf.Merged`: The entries of a backup are put over those of a shelf.
* `Wallet.Course`: How components are restored one after the other.
* `Shelf.View`: How a registry of a wallet is looked at.
* `Wallet.Recovery`: What has become of a wallet when a restore ends.
* `Wallet.RestoresInOrder`: What an upload does, whatever is uploaded.

## Theorems

* `Shelf.uploadBackup_handled`, `Wallet.uploadComponent_handled`: One component.
* `Wallet.restore_course`: Any number of them.
* `Wallet.Course.recovered`: What a registry has come to at the end of the course.
* `Wallet.restores_in_order`: Any upload.
* `Run.restore_strays`: A slot may be written for another component, and a map may be loaded.
-/

namespace WalletTrust

/-- The slot after values were written into it some times. -/
def Slot.Rewritten (times : Nat) (before after : Slot) : Prop :=
  after = { before with value := after.value, sets := before.sets + times }

/-- One series of writes after another. -/
theorem Slot.Rewritten.trans {m n : Nat} {a b c : Slot} (h : Rewritten m a b)
    (k : Rewritten n b c) : Rewritten (m + n) a c := by
  rw [Rewritten] at h k ⊢
  rw [k, h, Nat.add_assoc]

/-! ## One shelf -/

namespace Shelf

variable {α : Type} [Wire α] {label : ShelfLabel} {secret : Option String} {blob password : String}
  {s t u : Shelf α}

/-- Nothing can be restored from a backup: it is not signed with the password, its text was sealed
with another or for another purpose, or what was sealed is not a map. -/
inductive Spoilt (α : Type) [Wire α] (label : ShelfLabel) (blob password : String) : Prop
  | forged (e : Error) (hverify : BackupBlob.verify blob password = .error e)
  | shut (sealed : String) (e : Error) (hverify : BackupBlob.verify blob password = .ok sealed)
      (hopen : SealedText.open sealed password label.purpose = .error e)
  | garbled (sealed plain : String) (hverify : BackupBlob.verify blob password = .ok sealed)
      (hopen : SealedText.open sealed password label.purpose = .ok plain)
      (hmap : (OriginMap.ofText? plain : Option (OriginMap α)) = none)

/-- There is nothing to be restored from a backup that is spoilt, and from no other. -/
theorem restored?_eq_none :
    (restored? label blob password : Option (OriginMap α)) = none ↔
      Spoilt α label blob password := by
  -- There is one way to fail for each of the three checks.
  rw [restored?]
  constructor
  · intro h
    split at h
    · next e hverify => exact .forged e hverify
    · next sealed hverify =>
      split at h
      · next e hopen => exact .shut sealed e hverify hopen
      · next plain hopen => exact .garbled sealed plain hverify hopen h
  · rintro (⟨e, hverify⟩ | ⟨sealed, e, hverify, hopen⟩ | ⟨sealed, plain, hverify, hopen, hmap⟩)
    · rw [hverify]
    · rw [hverify]
      simp only [hopen]
    · rw [hverify]
      simp only [hopen, hmap]

/-- The map that a shelf has: the one beside the slot or, if none is loaded, what the slot holds. -/
inductive Current (label : ShelfLabel) (key : String) (s : Shelf α) (m : OriginMap α) : Prop
  | loaded (hentries : s.entries = some m)
  | kept (hunloaded : s.entries = none) (hreadable : s.slot.readable = true)
      (hholds : Holds label key s.slot.value m)

/-- The entries of a backup were put over those that the shelf had, beside the slot and in it. -/
inductive Merged (label : ShelfLabel) (secret : Option String) (blob password : String)
    (s t : Shelf α) : Prop
  | intro (key : String) (m uploaded next : OriginMap α) (hsecret : secret = some key)
      (hblob : restored? label blob password = some uploaded) (hcurrent : Current label key s m)
      (hnext : ∀ origin, next.get? origin = (uploaded.get? origin).or (m.get? origin))
      (hentries : t.entries = some next) (hholds : Holds label key t.slot.value next)

/-- What keeps a map from being put over that of a shelf: the shelf cannot be loaded, the session is
locked, or the slot has no room for the result. -/
inductive Obstacle (label : ShelfLabel) (secret : Option String) (uploaded : OriginMap α)
    (s : Shelf α) : Error → Prop
  | unloaded (e : Error) (hload : (load label secret s).1 = .error e) :
      Obstacle label secret uploaded s e
  | locked (hsecret : secret = none) : Obstacle label secret uploaded s .notProvided
  | full (key : String) (m : OriginMap α) (hsecret : secret = some key)
      (hcurrent : Current label key s m) (hroom : ¬ s.HasRoom label key (m.overrideBy uploaded)) :
      Obstacle label secret uploaded s (.storageWrite "quota exceeded")

/-- What becomes of a shelf that is given a backup. -/
inductive Handled (label : ShelfLabel) (secret : Option String) (blob password : String)
    (s : Shelf α) : Except Error Unit → Shelf α → Prop
  | merged (t : Shelf α) (h : Merged label secret blob password s t)
      (hslot : Slot.Rewritten 1 s.slot t.slot) : Handled label secret blob password s (.ok ()) t
  | spoilt (h : Spoilt α label blob password) :
      Handled label secret blob password s (.error (.incorrectBackupFormat label.component)) s
  | prevented (uploaded : OriginMap α) (e : Error) (t : Shelf α)
      (hblob : restored? label blob password = some uploaded)
      (h : Obstacle label secret uploaded s e) (htraceless : Traceless label secret s t) :
      Handled label secret blob password s (.error e) t

/-- What is loaded is the map that the shelf has. -/
theorem load_current {key : String} (h : load label (some key) s = (.ok (), t)) :
    ∃ m, Current label key s m ∧ t = { s with entries := some m } := by
  rcases hentries : s.entries with _ | m
  · rcases hreadable : s.slot.readable with _ | _
    · rw [load_unloaded hentries, Op.bind_error (read_unreadable hreadable)] at h
      cases congrArg Prod.fst h
    · rcases load_cases label key hentries with ⟨e, hrun⟩ | ⟨m, hholds, hrun⟩
      · cases congrArg Prod.fst (hrun.symm.trans h)
      · exact ⟨m, .kept hentries hreadable hholds, (Prod.mk.inj (hrun.symm.trans h)).2.symm⟩
  · rw [load_loaded (some key) hentries] at h
    rw [← (Prod.mk.inj h).2]
    exact ⟨m, .loaded hentries, by rw [← hentries]⟩

/-- A backup is restored as a whole, or nothing of it is. -/
theorem uploadBackup_handled [LawfulWire α] (label : ShelfLabel) (secret : Option String)
    (blob password : String) (s : Shelf α) :
    Handled label secret blob password s (uploadBackup label secret blob password s).1
      (uploadBackup label secret blob password s).2 := by
  -- The blob is looked at before the shelf is.
  rcases hblob : (restored? label blob password : Option (OriginMap α)) with _ | uploaded
  · have hrun : uploadBackup label secret blob password s =
        (.error (.incorrectBackupFormat label.component), s) := by
      rw [uploadBackup, hblob]
      exact Op.bind_error rfl _
    rw [hrun]
    exact .spoilt (restored?_eq_none.1 hblob)
  have htraceless : Traceless label secret s (load label secret s).2 :=
    load_traceless label secret s
  rw [uploadBackup_opened hblob]
  -- Then the map is loaded, the session has to be open, and the slot must have room.
  rcases hload : load label secret s with ⟨e | _, u⟩
  · rw [hload] at htraceless
    rw [Op.bind_error hload]
    exact .prevented uploaded e u hblob (.unloaded e (congrArg Prod.fst hload)) htraceless
  rw [hload] at htraceless
  rw [Op.bind_ok hload]
  cases secret with
  | none =>
      rcases load_ok hload with ⟨m, hm, _⟩
      rw [Op.bind_ok (held_loaded hm)]
      exact .prevented uploaded _ u hblob (.locked rfl) htraceless
  | some key =>
      rcases load_current hload with ⟨m, hcurrent, rfl⟩
      rw [Op.bind_ok (held_loaded rfl), commit_room]
      split
      · refine .merged _ ⟨key, m, uploaded, m.overrideBy uploaded, rfl, hblob, hcurrent,
          m.get?_overrideBy uploaded, rfl, holds_sealed label key _ s.entropy⟩ rfl
      · next hroom =>
        exact .prevented uploaded _ _ hblob (.full key m rfl hcurrent hroom)
          (htraceless.trans (.kept rfl rfl))

/-- A backup that is refused leaves the shelf as it was, but that its map may be loaded now. -/
theorem Handled.traceless {e : Error} (h : Handled label secret blob password s (.error e) t) :
    Traceless label secret s t := by
  cases h with
  | spoilt _ => exact Std.Refl.refl s
  | prevented _ _ _ _ _ htraceless => exact htraceless

/-- A spoilt backup is refused for what it is, in whatever state the shelf is. -/
theorem Handled.of_spoilt {r : Except Error Unit} (h : Handled label secret blob password s r t)
    (hspoilt : Spoilt α label blob password) :
    r = .error (.incorrectBackupFormat label.component) ∧ t = s := by
  have hnone := restored?_eq_none.2 hspoilt
  cases h with
  | merged t hmerged =>
      rcases hmerged with ⟨_, _, _, _, _, hblob⟩
      cases hnone.symm.trans hblob
  | spoilt _ => exact ⟨rfl, rfl⟩
  | prevented _ _ _ hblob => cases hnone.symm.trans hblob

namespace Merged

/-- What was merged has not been spoilt. -/
theorem not_spoilt (h : Merged label secret blob password s t) :
    ¬ Spoilt α label blob password := by
  intro hspoilt
  rcases h with ⟨_, _, _, _, _, hblob⟩
  cases (restored?_eq_none.2 hspoilt).symm.trans hblob

/-- Only the slot and the map beside it matter. -/
theorem of_unchanged (hs : Unchanged s u) (h : Merged label secret blob password u t) :
    Merged label secret blob password s t := by
  rcases h with ⟨key, m, uploaded, next, hsecret, hblob, hcurrent, hnext, hentries, hholds⟩
  refine ⟨key, m, uploaded, next, hsecret, hblob, ?_, hnext, hentries, hholds⟩
  cases hcurrent with
  | loaded hloaded => exact .loaded (hs.2 ▸ hloaded)
  | kept hunloaded hreadable hkept =>
      exact .kept (hs.2 ▸ hunloaded) (hs.1 ▸ hreadable) (hs.1 ▸ hkept)

/-- What leaves no trace takes nothing back. -/
theorem stays (h : Merged label secret blob password s t) (k : Traceless label secret t u) :
    Merged label secret blob password s u := by
  rcases h with ⟨key, m, uploaded, next, hsecret, hblob, hcurrent, hnext, hentries, hholds⟩
  cases k with
  | kept hslot hsame =>
      exact ⟨key, m, uploaded, next, hsecret, hblob, hcurrent, hnext, hsame.trans hentries,
        hslot ▸ hholds⟩
  | loaded _ _ _ _ hunloaded => cases hunloaded.symm.trans hentries

/-- The origins of the backup are there, beside the slot and so in it. -/
theorem brings {uploaded : OriginMap α} {origin : String}
    (h : Merged label secret blob password s t)
    (hblob : restored? label blob password = some uploaded)
    (horigin : (uploaded.get? origin).isSome) :
    (t.get? origin).isSome ∧ t.slot.value.isSome := by
  rcases h with ⟨key, m, _, next, _, hblob', _, hnext, hentries, hholds⟩
  rcases Option.some.inj (hblob.symm.trans hblob')
  have hthere : (next.get? origin).isSome := by
    rw [hnext, Option.isSome_or, horigin, Bool.true_or]
  refine ⟨?_, Option.isSome_iff_ne_none.2 fun hnone => ?_⟩
  · rw [get?, hentries]
    exact hthere
  · -- An empty slot holds the empty map only.
    rw [hnone] at hholds
    rcases hholds
    cases hthere

/-- Restoring a backup again restores the same. -/
theorem again (h : Merged label secret blob password s t)
    (k : Merged label secret blob password t u) : Merged label secret blob password s u := by
  rcases h with ⟨key, m, uploaded, next, hsecret, hblob, hcurrent, hnext, hentries, _⟩
  rcases k with ⟨key', m', _, next', hsecret', hblob', hcurrent', hnext', hentries', hholds'⟩
  rcases Option.some.inj (hsecret.symm.trans hsecret')
  rcases Option.some.inj (hblob.symm.trans hblob')
  have hsame : m' = next := by
    cases hcurrent' with
    | loaded hloaded => exact Option.some.inj (hloaded.symm.trans hentries)
    | kept hunloaded => cases hunloaded.symm.trans hentries
  refine ⟨key, m, uploaded, next', hsecret, hblob, hcurrent, fun origin => ?_, hentries', hholds'⟩
  rw [hnext', hsame, hnext, ← Option.or_assoc, Option.or_self]

end Merged

/-- What a shelf has come to at the end of a restore. It was given `data` some `times` with success,
and then once more if that is what `fails`. -/
structure Recovered (label : ShelfLabel) (secret : Option String) (password : String)
    (data : Option String) (times : Nat) (fails : Prop) (r : Except Error Unit) (s t : Shelf α) :
    Prop where
  /-- Without data, or if it was not its turn, it is untouched. -/
  untouched : data = none ∨ times = 0 ∧ ¬ fails → Unchanged s t
  /-- If it succeeded, the backup is restored, with one write each time. -/
  merged : ∀ blob, data = some blob → 0 < times →
    Merged label secret blob password s t ∧ (¬ fails → Slot.Rewritten times s.slot t.slot)
  /-- If it failed, that is the outcome, and there is no trace of it. -/
  failed : ∀ blob, data = some blob → times = 0 → fails →
    (∃ entropy e, r = .error e ∧
      Handled label secret blob password { s with entropy } (.error e) t) ∧
    Traceless label secret s t
  /-- That is what a spoilt backup does, if its turn comes at all. -/
  spoilt : ∀ blob, data = some blob → Spoilt α label blob password → times = 0 ∧
    (fails → r = .error (.incorrectBackupFormat label.component) ∧ Unchanged s t)

namespace Recovered

variable {data : Option String} {times : Nat} {fails : Prop} {r : Except Error Unit}

omit [Wire α] in
/-- A shelf that has not changed may have drawn random bytes. -/
theorem with_entropy (h : Unchanged s u) (entropy : Entropy) :
    { u with entropy } = { s with entropy } := by
  rcases h with ⟨hslot, hentries⟩
  rw [hslot, hentries]

/-- It was not its turn. -/
theorem passed (h : Unchanged s t) (hfails : ¬ fails) :
    Recovered label secret password data 0 fails r s t where
  untouched _ := h
  merged _ _ htimes := absurd htimes (Nat.lt_irrefl 0)
  failed _ _ _ hfailed := absurd hfailed hfails
  spoilt _ _ _ := ⟨rfl, fun hfailed => absurd hfailed hfails⟩

/-- There was nothing to restore. -/
theorem without (h : Unchanged s t) (times : Nat) (fails : Prop) :
    Recovered label secret password none times fails r s t where
  untouched _ := h
  merged _ hdata := nomatch hdata
  failed _ hdata := nomatch hdata
  spoilt _ hdata := nomatch hdata

/-- It was its turn, and that failed. -/
theorem ended {e : Error} (h : Handled label secret blob password s (.error e) t) :
    Recovered label secret password (some blob) 0 True (.error e) s t where
  untouched hnone := by
    rcases hnone with hdata | ⟨_, hfails⟩
    · cases hdata
    · exact absurd trivial hfails
  merged _ _ htimes := absurd htimes (Nat.lt_irrefl 0)
  failed _ hdata _ _ := by
    rcases Option.some.inj hdata
    exact ⟨⟨s.entropy, e, rfl, h⟩, h.traceless⟩
  spoilt _ hdata hspoilt := by
    rcases Option.some.inj hdata
    rcases h.of_spoilt hspoilt with ⟨hr, rfl⟩
    exact ⟨rfl, fun _ => ⟨hr, Std.Refl.refl t⟩⟩

/-- Before that it was not its turn. -/
theorem after (hs : Unchanged s u)
    (h : Recovered label secret password data times fails r u t) :
    Recovered label secret password data times fails r s t where
  untouched hnone := Trans.trans hs (h.untouched hnone)
  merged blob hdata htimes := by
    rcases h.merged blob hdata htimes with ⟨hmerged, hslot⟩
    exact ⟨hmerged.of_unchanged hs, fun hfails => hs.1 ▸ hslot hfails⟩
  failed blob hdata htimes hfails := by
    rcases h.failed blob hdata htimes hfails with ⟨⟨entropy, e, hr, hhandled⟩, htraceless⟩
    rw [with_entropy hs] at hhandled
    exact ⟨⟨entropy, e, hr, hhandled⟩,
      (Traceless.kept (congrArg Slot.value hs.1) hs.2).trans htraceless⟩
  spoilt blob hdata hspoilt := by
    rcases h.spoilt blob hdata hspoilt with ⟨htimes, hfailed⟩
    exact ⟨htimes, fun hfails => ⟨(hfailed hfails).1, Trans.trans hs (hfailed hfails).2⟩⟩

/-- Before that it was its turn, and that succeeded. -/
theorem again (hmerged : Merged label secret blob password s u)
    (hslot : Slot.Rewritten 1 s.slot u.slot)
    (h : Recovered label secret password (some blob) times fails r u t) :
    Recovered label secret password (some blob) (times + 1) fails r s t where
  untouched hnone := by
    rcases hnone with hdata | ⟨htimes, _⟩
    · cases hdata
    · cases htimes
  merged _ hdata _ := by
    rcases Option.some.inj hdata
    -- This may be the last time the component is done, or the next one finds its own data in the
    -- map.
    rcases Nat.eq_zero_or_pos times with hzero | hpos
    · subst hzero
      by_cases hfails : fails
      · exact ⟨hmerged.stays (h.failed blob rfl rfl hfails).2, fun hnot => absurd hfails hnot⟩
      · rcases h.untouched (.inr ⟨rfl, hfails⟩) with ⟨hsame, hentries⟩
        refine ⟨hmerged.stays (.kept (congrArg Slot.value hsame) hentries), fun _ => ?_⟩
        rw [hsame]
        exact hslot
    · rcases h.merged blob rfl hpos with ⟨hagain, hwritten⟩
      refine ⟨hmerged.again hagain, fun hfails => ?_⟩
      rw [Nat.add_comm]
      exact hslot.trans (hwritten hfails)
  failed _ _ htimes := nomatch htimes
  spoilt _ hdata hspoilt := by
    rcases Option.some.inj hdata
    exact absurd hspoilt hmerged.not_spoilt

end Recovered

end Shelf

/-! ## One component -/

namespace Wallet

variable {w v u : Wallet} {file : BackupFile} {blob password : String} {c : BackupComponent}
  {r : Except Error Unit}

/-- What becomes of a wallet when one of its components is given a backup. -/
inductive Handled (blob password : String) (w : Wallet) :
    BackupComponent → Except Error Unit → Wallet → Prop
  | approvals (r : Except Error Unit) (s : Shelf HostPermission)
      (h : Shelf.Handled approvalsLabel w.core.session.secret blob password w.approvalShelf r s) :
      Handled blob password w .approvals r (w.putApprovals s)
  | connections (r : Except Error Unit) (s : Shelf ConnectedIdentity)
      (h : Shelf.Handled connectionsLabel w.core.session.secret blob password w.connectionShelf
        r s) :
      Handled blob password w .connections r (w.putConnections s)
  /-- A component of the host is told, and does what it likes. -/
  | foreign (key : String) (data : Option String) (refuses : Bool) :
      Handled blob password w (.foreign key data refuses)
        (if refuses then .error (.incorrectBackupFormat key) else .ok ())
        (w.spent w.host.entropy [.componentUpload key blob password])

theorem uploadComponent_approvals (blob password : String) (w : Wallet) :
    uploadComponent .approvals blob password w =
      ((Shelf.uploadBackup approvalsLabel w.core.session.secret blob password w.approvalShelf).1,
        w.putApprovals (Shelf.uploadBackup approvalsLabel w.core.session.secret blob password
          w.approvalShelf).2) := rfl

/-- Giving a component a backup comes to one of the things that may become of it. -/
theorem uploadComponent_handled (c : BackupComponent) (blob password : String) (w : Wallet) :
    Handled blob password w c (uploadComponent c blob password w).1
      (uploadComponent c blob password w).2 := by
  cases c with
  | approvals => exact .approvals _ _ (Shelf.uploadBackup_handled _ _ _ _ _)
  | connections => exact .connections _ _ (Shelf.uploadBackup_handled _ _ _ _ _)
  | foreign key data refuses =>
      cases refuses with
      | true => exact .foreign key data true
      | false => exact .foreign key data false

/-- Nothing is different but the registries with their slots, the supply of randomness and what the
host was asked for. -/
structure Beside (w v : Wallet) : Prop where
  config : v.config = w.config
  core : v.core =
    { w.core with approvals := v.core.approvals, connections := v.core.connections }
  host : v.host = { w.host with
    storage := v.host.storage
    entropy := v.host.entropy
    desktop := { w.host.desktop with log := v.host.desktop.log } }
  slots : ∀ name, name ≠ w.config.storageKeys.approvals →
    name ≠ w.config.storageKeys.connections →
    v.host.storage.slot name = w.host.storage.slot name

namespace Beside

protected theorem refl (w : Wallet) : w.Beside w :=
  ⟨rfl, rfl, rfl, fun _ _ _ => rfl⟩

protected theorem trans (h : w.Beside u) (k : u.Beside v) : w.Beside v where
  config := k.config.trans h.config
  core := by rw [k.core, h.core]
  host := by rw [k.host, h.host]
  slots name ha hc := by
    rw [k.slots name (h.config ▸ ha) (h.config ▸ hc), h.slots name ha hc]

/-- The session is beside the registries, and so it stays. -/
theorem secret (h : w.Beside v) : v.core.session.secret = w.core.session.secret := by
  rw [h.core]

end Beside

/-- Handling a backup changes the registry that it is for, and nothing beside. -/
theorem Handled.beside (h : Handled blob password w c r v) : w.Beside v := by
  cases h with
  | approvals s => exact ⟨rfl, rfl, rfl, fun _ ha _ => Storage.slot_put_of_ne ha _ _⟩
  | connections s => exact ⟨rfl, rfl, rfl, fun _ _ hc => Storage.slot_put_of_ne hc _ _⟩
  | foreign => exact ⟨rfl, rfl, rfl, fun _ _ _ => rfl⟩

/-- What a component of the host is told in a restore, if its turn comes. -/
def told? (file : BackupFile) (password : String) : BackupComponent → Option HostEvent
  | .foreign key _ _ =>
    (Assoc.lookup key file).join.map fun data => .componentUpload key data password
  | _ => none

/-- A component of the host is told if its turn comes, and then it is told once. -/
theorem Handled.told (h : Handled blob password w c r v)
    (hdata : Assoc.lookup c.key file = some (some blob)) :
    v.host.desktop.log = w.host.desktop.log ++ (told? file password c).toList := by
  cases h with
  | approvals => exact (List.append_nil _).symm
  | connections => exact (List.append_nil _).symm
  | foreign key =>
      have hlookup : Assoc.lookup key file = some (some blob) := hdata
      rw [told?, hlookup]
      rfl

/-! ## One after the other -/

/-- How components are restored from a file one after the other: which are done, and which is the
one that fails, if one does. -/
inductive Course (file : BackupFile) (password : String) :
    List BackupComponent → Wallet → List BackupComponent → Option BackupComponent →
      Except Error Unit → Wallet → Prop
  | finished (w : Wallet) : Course file password [] w [] none (.ok ()) w
  | untouched {c : BackupComponent} {rest done : List BackupComponent} {w v : Wallet}
      {failing : Option BackupComponent} {r : Except Error Unit}
      (hdata : Assoc.lookup c.key file = some none)
      (hrest : Course file password rest w done failing r v) :
      Course file password (c :: rest) w (c :: done) failing r v
  | restored {c : BackupComponent} {rest done : List BackupComponent} {w u v : Wallet}
      {failing : Option BackupComponent} {r : Except Error Unit} {blob : String}
      (hdata : Assoc.lookup c.key file = some (some blob))
      (h : Handled blob password w c (.ok ()) u)
      (hrest : Course file password rest u done failing r v) :
      Course file password (c :: rest) w (c :: done) failing r v
  | failed {c : BackupComponent} {rest : List BackupComponent} {w v : Wallet} {blob : String}
      {e : Error} (hdata : Assoc.lookup c.key file = some (some blob))
      (h : Handled blob password w c (.error e) v) :
      Course file password (c :: rest) w [] (some c) (.error e) v

/-- Components are done in their order, up to the first that fails. That one has data, and its
failure is the outcome. -/
inductive Ordered (file : BackupFile) (components done : List BackupComponent)
    (failing : Option BackupComponent) (r : Except Error Unit) : Prop
  | all (hr : r = .ok ()) (hnone : failing = none) (hdone : components = done)
  | upTo (c : BackupComponent) (later : List BackupComponent) (blob : String) (e : Error)
      (hr : r = .error e) (hfails : failing = some c) (hdone : components = done ++ c :: later)
      (hdata : Assoc.lookup c.key file = some (some blob))

/-- Every restore runs its course. -/
theorem restore_course {components : List BackupComponent}
    (hcomplete : ∀ c ∈ components, (Assoc.lookup c.key file).isSome) (password : String)
    (w : Wallet) : ∃ done failing, Course file password components w done failing
      (restore file password components w).1 (restore file password components w).2 := by
  -- One component is dealt with after the other; the first that fails ends the course.
  induction components generalizing w with
  | nil => exact ⟨[], none, .finished w⟩
  | cons c rest ih =>
      rcases List.forall_mem_cons.1 hcomplete with ⟨hfound, hothers⟩
      rcases Option.isSome_iff_exists.1 hfound with ⟨data, hdata⟩
      rw [restore_cons hdata]
      cases data with
      | none =>
          rcases ih hothers w with ⟨done, failing, hrest⟩
          exact ⟨c :: done, failing, .untouched hdata hrest⟩
      | some blob =>
          have hhandled := uploadComponent_handled c blob password w
          rcases hrun : restoreOne c password (some blob) w with ⟨e | _, u⟩
          · rw [Op.bind_error hrun]
            rw [← restoreOne, hrun] at hhandled
            exact ⟨[], some c, .failed hdata hhandled⟩
          · rw [Op.bind_ok hrun]
            rw [← restoreOne, hrun] at hhandled
            rcases ih hothers u with ⟨done, failing, hrest⟩
            exact ⟨c :: done, failing, .restored hdata hhandled hrest⟩

variable {components done : List BackupComponent} {failing : Option BackupComponent}

/-- A component that is done comes before the others. -/
theorem Ordered.cons (h : Ordered file components done failing r) (c : BackupComponent) :
    Ordered file (c :: components) (c :: done) failing r := by
  cases h with
  | all hr hnone hdone => exact .all hr hnone (congrArg (c :: ·) hdone)
  | upTo k later blob e hr hfails hdone hdata =>
      exact .upTo k later blob e hr hfails (congrArg (c :: ·) hdone) hdata

/-- Without data for it nobody is told anything. -/
theorem told?_none (hdata : Assoc.lookup c.key file = some none) :
    told? file password c = none := by
  cases c with
  | approvals => rfl
  | connections => rfl
  | foreign key =>
      have hlookup : Assoc.lookup key file = some none := hdata
      rw [told?, hlookup]
      rfl

/-- What the first component is told comes before what the rest is told. -/
theorem told_cons (file : BackupFile) (password : String) (c : BackupComponent)
    (rest : List BackupComponent) : (c :: rest).filterMap (told? file password) =
      (told? file password c).toList ++ rest.filterMap (told? file password) := by
  rw [List.filterMap_cons]
  cases told? file password c with
  | none => rfl
  | some event => rfl

namespace Course

/-- By induction on the course: a restore changes the registries and nothing beside. -/
theorem beside (h : Course file password components w done failing r v) : w.Beside v := by
  induction h with
  | finished w => exact .refl w
  | untouched _ _ ih => exact ih
  | restored _ h _ ih => exact h.beside.trans ih
  | failed _ h => exact h.beside

/-- The components were done in their order, and the one that failed had data. -/
theorem order (h : Course file password components w done failing r v) :
    Ordered file components done failing r := by
  induction h with
  | finished w => exact .all rfl rfl rfl
  | untouched _ _ ih => exact ih.cons _
  | restored _ _ _ ih => exact ih.cons _
  | failed hdata _ => exact .upTo _ _ _ _ rfl rfl rfl hdata

/-- The components of the host are told of it when their turn comes. -/
theorem told (h : Course file password components w done failing r v) :
    v.host.desktop.log =
      w.host.desktop.log ++ (done ++ failing.toList).filterMap (told? file password) := by
  induction h with
  | finished w => exact (List.append_nil _).symm
  | untouched hdata _ ih => rw [ih, List.cons_append, List.filterMap_cons_none (told?_none hdata)]
  | restored hdata h _ ih =>
      rw [ih, h.told hdata, List.append_assoc, List.cons_append, told_cons]
  | failed hdata h =>
      rw [h.told hdata, List.nil_append, Option.toList_some, told_cons, List.filterMap_nil,
        List.append_nil]

/-- A component of the host that refuses is not done with, unless there is nothing for it. -/
theorem willing (h : Course file password components w done failing r v) {key : String}
    {data : Option String} (hmem : .foreign key data true ∈ done) :
    Assoc.lookup key file = some none := by
  induction h with
  | finished => cases hmem
  | untouched hdata _ ih =>
      rcases List.mem_cons.1 hmem with rfl | hrest
      · exact hdata
      · exact ih hrest
  | restored _ h _ ih =>
      rcases List.mem_cons.1 hmem with rfl | hrest
      · cases h
      · exact ih hrest
  | failed => cases hmem

/-- A component of the host that fails does so because it refuses. -/
theorem unwilling (h : Course file password components w done failing r v) {key : String}
    {data : Option String} {refuses : Bool} (hfails : failing = some (.foreign key data refuses)) :
    refuses = true ∧ r = .error (.incorrectBackupFormat key) := by
  induction h with
  | finished => cases hfails
  | untouched _ _ ih => exact ih hfails
  | restored _ _ _ ih => exact ih hfails
  | failed _ h =>
      rcases Option.some.inj hfails
      cases refuses with
      | true =>
          cases h
          exact ⟨rfl, rfl⟩
      | false => cases h

end Course

end Wallet

/-! ## One registry -/

/-- How a registry of wallets with some slots is looked at. What is done for its component shows as
what is done to a shelf, and what is done for the others does not show. -/
structure Shelf.View (α : Type) [Wire α] (keys : StorageKeys) where
  component : BackupComponent
  label : ShelfLabel
  shelf : Wallet → Shelf α
  own : ∀ {w v : Wallet} {blob password : String} {r : Except Error Unit},
    w.config.storageKeys = keys → w.Handled blob password component r v →
    Shelf.Handled label w.core.session.secret blob password (shelf w) r (shelf v)
  others : ∀ {w v : Wallet} {c : BackupComponent} {blob password : String}
    {r : Except Error Unit}, w.config.storageKeys = keys → c ≠ component →
    w.Handled blob password c r v → Unchanged (shelf w) (shelf v)

namespace Shelf

/-- The approvals, if they have a slot of their own. -/
def approvalsView {keys : StorageKeys} (hkeys : keys.approvals ≠ keys.connections) :
    View HostPermission keys where
  component := .approvals
  label := approvalsLabel
  shelf := Wallet.approvalShelf
  own _ h := by
    cases h with
    | approvals s h => rwa [Wallet.approvalShelf_put]
  others {w _ _ _ _ _} hw hne h := by
    cases h with
    | approvals => exact absurd rfl hne
    | connections s => exact ⟨Storage.slot_put_of_ne (hw ▸ hkeys) _ _, rfl⟩
    | foreign => exact ⟨rfl, rfl⟩

/-- The connections, if they have a slot of their own. -/
def connectionsView {keys : StorageKeys} (hkeys : keys.approvals ≠ keys.connections) :
    View ConnectedIdentity keys where
  component := .connections
  label := connectionsLabel
  shelf := Wallet.connectionShelf
  own _ h := by
    cases h with
    | connections s h => rwa [Wallet.connectionShelf_put]
  others {w _ _ _ _ _} hw hne h := by
    cases h with
    | approvals s => exact ⟨Storage.slot_put_of_ne (hw ▸ hkeys.symm) _ _, rfl⟩
    | connections => exact absurd rfl hne
    | foreign => exact ⟨rfl, rfl⟩

end Shelf

namespace Wallet

variable {w v u : Wallet} {file : BackupFile} {password : String} {r : Except Error Unit}
  {components done : List BackupComponent} {failing : Option BackupComponent}

/-- The data that a file has for a component, whichever of its names it is looked up by. -/
theorem join_lookup {c k : BackupComponent} {data : Option String} (h : c = k)
    (hdata : Assoc.lookup c.key file = some data) : (Assoc.lookup k.key file).join = data := by
  rw [← h, hdata, Option.join_some]

/-- What has become of a registry is what its own turn has made of it. -/
theorem Course.recovered {α : Type} [Wire α] {keys : StorageKeys} (view : Shelf.View α keys)
    (h : Course file password components w done failing r v) (hw : w.config.storageKeys = keys) :
    Shelf.Recovered view.label w.core.session.secret password
      (Assoc.lookup view.component.key file).join (done.count view.component)
      (failing = some view.component) r (view.shelf w) (view.shelf v) := by
  -- Whose turn it is decides: the component that is looked at, or one that leaves its shelf alone.
  induction h with
  | finished w => exact .passed (Std.Refl.refl _) nofun
  | @untouched c _ done _ _ _ _ hdata _ ih =>
      by_cases hown : c = view.component
      · have hrest := (ih hw).untouched (.inl (join_lookup hown hdata))
        rw [join_lookup hown hdata]
        exact .without hrest _ _
      · rw [List.count_cons_of_ne hown]
        exact ih hw
  | @restored c _ done w u _ _ _ blob hdata h _ ih =>
      have hrest := ih ((congrArg Config.storageKeys h.beside.config).trans hw)
      rw [h.beside.secret] at hrest
      by_cases hown : c = view.component
      · rw [join_lookup hown hdata] at hrest ⊢
        subst hown
        rw [List.count_cons_self]
        cases view.own hw h with
        | merged _ hmerged hslot => exact hrest.again hmerged hslot
      · rw [List.count_cons_of_ne hown]
        exact hrest.after (view.others hw hown h)
  | @failed c _ _ _ blob _ hdata h =>
      by_cases hown : c = view.component
      · rw [join_lookup hown hdata]
        subst hown
        rw [eq_self]
        exact .ended (view.own hw h)
      · exact .passed (view.others hw hown h) fun hsame => hown (Option.some.inj hsame)

/-! ## The whole file -/

/-- What has become of a wallet when a restore ends. Some components are `done`, and unless these
are all of them there is one that is `failing`. -/
structure Recovery (file : BackupFile) (password : String) (w : Wallet) (r : Except Error Unit)
    (v : Wallet) (done : List BackupComponent) (failing : Option BackupComponent) : Prop where
  order : Ordered file w.core.components done failing r
  approvals : Shelf.Recovered approvalsLabel w.core.session.secret password
    (Assoc.lookup approvalsLabel.component file).join (done.count .approvals)
    (failing = some .approvals) r w.approvalShelf v.approvalShelf
  connections : Shelf.Recovered connectionsLabel w.core.session.secret password
    (Assoc.lookup connectionsLabel.component file).join (done.count .connections)
    (failing = some .connections) r w.connectionShelf v.connectionShelf
  /-- A component of the host fails if it refuses, -/
  willing : ∀ key data, .foreign key data true ∈ done → Assoc.lookup key file = some none
  unwilling : ∀ key data refuses, failing = some (.foreign key data refuses) →
    refuses = true ∧ r = .error (.incorrectBackupFormat key)
  /-- and it is told what is in the file for it, if its turn comes. -/
  told : v.host.desktop.log =
    w.host.desktop.log ++ (done ++ failing.toList).filterMap (told? file password)
  beside : w.Beside v

/-- The content of an upload is a file with a member for every component. -/
def Offers (upload : UploadBackup) (file : BackupFile) (w : Wallet) : Prop :=
  ∃ json, BackupFile.decodeContent upload.content = .ok json ∧
    BackupFile.ofText? json = some file ∧
    ∀ c ∈ w.core.components, (Assoc.lookup c.key file).isSome

/-- What an upload does: it is refused and nothing has changed, or it gets as far as it can. -/
structure RestoresInOrder (upload : UploadBackup) (w : Wallet) : Prop where
  unauthentic : (onLock (SessionLock.isAuthentic upload.password) w).1 ≠ .ok true →
    ∃ e, (onLock (SessionLock.isAuthentic upload.password) w).1 = .error e ∧
      uploadBackup upload w = (.error e, w)
  corrupted : (onLock (SessionLock.isAuthentic upload.password) w).1 = .ok true →
    (∀ file, ¬ Offers upload file w) → uploadBackup upload w = (.error .corruptedBackup, w)
  recovered : (onLock (SessionLock.isAuthentic upload.password) w).1 = .ok true →
    ∀ file, Offers upload file w → ∃ done failing,
      Recovery file upload.backupPassword w (uploadBackup upload w).1 (uploadBackup upload w).2
        done failing

variable {upload : UploadBackup}

/-- With a password that is not that of the session an upload ends before it is looked at. -/
theorem uploadBackup_unauthentic
    (h : (onLock (SessionLock.isAuthentic upload.password) w).1 ≠ .ok true) :
    ∃ e, (onLock (SessionLock.isAuthentic upload.password) w).1 = .error e ∧
      uploadBackup upload w = (.error e, w) := by
  rcases SessionLock.isAuthentic_cases upload.password w.lock with ⟨_, _, hrun⟩ | ⟨e, hrun⟩
  · exact absurd (congrArg Prod.fst hrun) h
  · have herror : (onLock (SessionLock.isAuthentic upload.password) w).1 = .error e :=
      congrArg Prod.fst hrun
    refine ⟨e, herror, Op.bind_error (Prod.ext herror (isAuthentic_state _ w)) _⟩

/-- What is no file, or lacks a member, restores nothing. -/
theorem uploadBackup_corrupted
    (h : (onLock (SessionLock.isAuthentic upload.password) w).1 = .ok true)
    (hnone : ∀ file, ¬ Offers upload file w) :
    uploadBackup upload w = (.error .corruptedBackup, w) := by
  -- The content may fail to be decoded, to be a file, or to have all the members.
  rcases hcontent : BackupFile.decodeContent upload.content with e | json
  · have hdecode : Op.ofExcept (BackupFile.decodeContent upload.content) w =
        (.error .corruptedBackup, w) := by
      rw [hcontent, BackupFile.decodeContent_error hcontent]
      rfl
    rw [uploadBackup, Op.bind_ok (isAuthentic_same h), Op.bind_error hdecode]
  have hdecode : Op.ofExcept (BackupFile.decodeContent upload.content) w = (.ok json, w) := by
    rw [hcontent]
    rfl
  rcases hfile : BackupFile.ofText? json with _ | file
  · rw [uploadBackup, Op.bind_ok (isAuthentic_same h), Op.bind_ok hdecode, hfile]
    exact Op.bind_error rfl _
  · rw [uploadBackup_read h hcontent hfile, if_neg fun hall => hnone file
      ⟨json, hcontent, hfile, List.all_eq_true.1 hall⟩]
    rfl

/-- An upload that is let in and has a member for every component restores one after the other. -/
theorem uploadBackup_offered {file : BackupFile} (hoffers : Offers upload file w)
    (h : (onLock (SessionLock.isAuthentic upload.password) w).1 = .ok true) :
    uploadBackup upload w = restore file upload.backupPassword w.core.components w := by
  rcases hoffers with ⟨json, hcontent, hfile, hcomplete⟩
  rw [uploadBackup_read h hcontent hfile, if_pos (List.all_eq_true.2 hcomplete)]

/-- A course of a restore comes to what is said of each registry, if they have a slot each. -/
theorem Course.recovery
    (h : Course file password w.core.components w done failing r v)
    (hkeys : w.config.storageKeys.approvals ≠ w.config.storageKeys.connections) :
    Recovery file password w r v done failing where
  order := h.order
  approvals := h.recovered (Shelf.approvalsView hkeys) rfl
  connections := h.recovered (Shelf.connectionsView hkeys) rfl
  willing _ _ := h.willing
  unwilling _ _ _ := h.unwilling
  told := h.told
  beside := h.beside

/-- Whatever is uploaded, and in whatever state: it is refused as a whole, or the components take
what is in it for them one after the other, each of them completely or not at all. -/
theorem restores_in_order (upload : UploadBackup) (w : Wallet)
    (hkeys : w.config.storageKeys.approvals ≠ w.config.storageKeys.connections) :
    RestoresInOrder upload w where
  unauthentic := uploadBackup_unauthentic
  corrupted := uploadBackup_corrupted
  recovered h file hoffers := by
    rw [uploadBackup_offered hoffers h]
    rcases hoffers with ⟨_, _, _, hcomplete⟩
    rcases restore_course hcomplete upload.backupPassword w with ⟨done, failing, hcourse⟩
    exact ⟨done, failing, hcourse.recovery hkeys⟩

end Wallet

/-! ## Files that are restored in part -/

namespace Shelf

variable {α : Type} [Wire α] {label : ShelfLabel} {blob password key : String} {m n : OriginMap α}
  {s t : Shelf α}

/-- A backup of a map. -/
def backup (label : ShelfLabel) (password : String) (m : OriginMap α) : String :=
  BackupBlob.sign (SealedText.sealFresh m.text password label.purpose default).1 password

/-- A backup that was made of a map restores the map. -/
theorem restored?_backup [LawfulWire α] (label : ShelfLabel) (password : String)
    (m : OriginMap α) : restored? label (backup label password m) password = some m :=
  restored?_sign m.ofText?_text label password default

/-- While the shelf is loaded and its slot is not limited, nothing prevents it from taking a backup
that is in order. -/
theorem Handled.merged_of_ready {r : Except Error Unit}
    (h : Handled label (some key) blob password s r t)
    (hblob : restored? label blob password = some n) (hloaded : s.entries = some m)
    (hquota : s.slot.quota = none) : r = .ok () := by
  cases h with
  | merged => rfl
  | spoilt hspoilt => cases (restored?_eq_none.2 hspoilt).symm.trans hblob
  | prevented _ _ _ _ hobstacle =>
      cases hobstacle with
      | unloaded e hload =>
          rw [load_loaded (some key) hloaded] at hload
          cases hload
      | locked hsecret => cases hsecret
      | full _ _ _ _ hroom => exact absurd (hasRoom_of_quota hquota label _ _) hroom

/-- A map that is loaded for a backup stays loaded if the slot cannot be written. -/
theorem uploadBackup_unwritten (hblob : restored? label blob password = some n)
    (hunloaded : s.entries = none) (hreadable : s.slot.readable = true)
    (hempty : s.slot.value = none) (hquota : s.slot.quota = some 0) :
    ∃ t, uploadBackup label (some key) blob password s =
      (.error (.storageWrite "quota exceeded"), t) ∧ t.entries = some .empty := by
  have hholds : Holds label key s.slot.value (.empty : OriginMap α) := by
    rw [hempty]
    rfl
  rw [uploadBackup_opened hblob, Op.bind_ok (load_held hunloaded hreadable hholds),
    Op.bind_ok (held_loaded rfl), commit_room]
  split
  · next hadmits => exact absurd hadmits (not_hasRoom label key _ hquota)
  · exact ⟨_, rfl, rfl⟩

end Shelf

namespace Run

/-- The approval of one origin. -/
def oneApproval : OriginMap HostPermission :=
  OriginMap.empty.insert "https://a.test" { canSkipApprove := true }

theorem oneApproval_isSome : (oneApproval.get? "https://a.test").isSome := rfl

def oneBackup : String := Shelf.backup approvalsLabel "password" oneApproval

theorem restored?_oneBackup :
    Shelf.restored? approvalsLabel oneBackup "password" = some oneApproval :=
  Shelf.restored?_backup _ _ _

/-- A file with that approval, and with something else for the connections. -/
def approvalFile (connections : Option String) : BackupFile :=
  [(approvalsLabel.component, some oneBackup), (connectionsLabel.component, connections)]

theorem approvalFile_sorted (connections : Option String) :
    Assoc.Sorted (approvalFile connections) :=
  have hkeys : approvalsLabel.component < connectionsLabel.component := by decide
  List.pairwise_pair.2 hkeys

/-- The request to restore that file. -/
def approvalUpload (connections : Option String) (own : String) : UploadBackup :=
  Wallet.upload (BackupFile.dataUri (BackupFile.text (approvalFile connections))) own "password"

theorem approvalUpload_offers (connections : Option String) (own : String) {w : Wallet}
    (hcomponents : w.core.components = [.approvals, .connections]) :
    Wallet.Offers (approvalUpload connections own) (approvalFile connections) w := by
  refine ⟨_, BackupFile.decodeContent_dataUri _,
    BackupFile.ofText?_text (approvalFile_sorted connections), fun c hc => ?_⟩
  rw [hcomponents] at hc
  rcases List.mem_pair.1 hc with rfl | rfl
  · rfl
  · rfl

/-- A text that nobody has sealed restores nothing. -/
theorem garbage_spoilt (α : Type) [Wire α] (label : ShelfLabel) (password : String) :
    Shelf.Spoilt α label "garbage" password :=
  .forged .notAuthentic rfl

/-- The approval arrives in a wallet that has room. What comes after it is no backup, and leaves the
connections alone. -/
theorem restores_half {w : Wallet} {own : String}
    (h : w.RestoresInOrder (approvalUpload (some "garbage") own))
    (hauthentic : (Wallet.onLock (SessionLock.isAuthentic own) w).1 = .ok true)
    (hcomponents : w.core.components = [.approvals, .connections])
    (hunlocked : w.core.session.isUnlocked = true) (hloaded : w.core.approvals.isSome)
    (hquota : (w.host.storage.slot w.config.storageKeys.approvals).quota = none) :
    ∃ v, Wallet.uploadBackup (approvalUpload (some "garbage") own) w =
        (.error (.incorrectBackupFormat "connections"), v) ∧
      v.isApproved "https://a.test" = true ∧
      Shelf.Unchanged w.connectionShelf v.connectionShelf := by
  have hrecovered := h.recovered hauthentic _ (approvalUpload_offers _ _ hcomponents)
  rcases hrun : Wallet.uploadBackup (approvalUpload (some "garbage") own) w with ⟨r, v⟩
  rw [hrun] at hrecovered
  rcases hrecovered with ⟨done, failing, hrecovery⟩
  rcases Option.isSome_iff_exists.1 hunlocked with ⟨key, hsecret⟩
  rcases Option.isSome_iff_exists.1 hloaded with ⟨m, hm⟩
  have hspoilt := hrecovery.connections.spoilt "garbage" rfl (garbage_spoilt _ _ _)
  have happrovals := hrecovery.approvals
  rw [hsecret] at happrovals
  have horder := hrecovery.order
  rw [hcomponents] at horder
  -- Either all is done, or one component has failed with the earlier ones done.
  rcases horder with ⟨_, _, rfl⟩ | ⟨c, later, _, _, _, hc, hsplit, _⟩
  · -- The connections cannot be done.
    exact absurd hspoilt.1 (by decide)
  rcases done with _ | ⟨d, _ | ⟨d', rest⟩⟩
  · -- Nor is there anything that the approvals could fail for.
    rcases List.cons.inj hsplit with ⟨rfl, _⟩
    rcases (happrovals.failed _ rfl rfl hc).1 with ⟨entropy, e, _, hhandled⟩
    cases hhandled.merged_of_ready restored?_oneBackup hm hquota
  · rcases List.cons.inj hsplit with ⟨rfl, hrest⟩
    rcases List.cons.inj hrest with ⟨rfl, _⟩
    rcases hspoilt.2 hc with ⟨hr, hunchanged⟩
    have hmerged := (happrovals.merged _ rfl (by decide)).1
    have hthere := hmerged.brings restored?_oneBackup oneApproval_isSome
    exact ⟨v, congrArg (·, v) hr, hthere.1, hunchanged⟩
  · rcases List.cons.inj hsplit with ⟨_, hrest⟩
    rcases List.cons.inj hrest with ⟨_, hnone⟩
    exact absurd hnone.symm (List.append_ne_nil_of_right_ne_nil _ (List.cons_ne_nil _ _))

theorem restores_in_order_halfSpoilt :
    (fresh.wallet 1).config.storageKeys.approvals ≠
      (fresh.wallet 1).config.storageKeys.connections ∧
    ∃ v, Wallet.uploadBackup (approvalUpload (some "garbage") "fresh") (fresh.wallet 1) =
        (.error (.incorrectBackupFormat "connections"), v) ∧
      v.isApproved "https://a.test" = true ∧
      Shelf.Unchanged (fresh.wallet 1).connectionShelf v.connectionShelf := by
  have hkeys : (fresh.wallet 1).config.storageKeys.approvals ≠
      (fresh.wallet 1).config.storageKeys.connections := by
    rw [fresh.config_eq]
    decide
  have hquota := fresh_open.roomy.1
  rw [← fresh.config_eq 1] at hquota
  exact ⟨hkeys, restores_half (Wallet.restores_in_order _ _ hkeys) fresh_open.authentic
    fresh_components fresh_open.unlocked fresh_open.loaded.1 hquota⟩

/-! ## What a restore may touch besides -/

/-- What becomes of the approvals that are given that approval. -/
def approved (w : Wallet) : Except Error Unit × Shelf HostPermission :=
  Shelf.uploadBackup approvalsLabel w.core.session.secret oneBackup "password" w.approvalShelf

/-- A file with nothing for the connections is restored with the approvals. -/
theorem uploadBackup_approvals {w : Wallet} {own : String}
    (hauthentic : (Wallet.onLock (SessionLock.isAuthentic own) w).1 = .ok true)
    (hcomponents : w.core.components = [.approvals, .connections]) :
    Wallet.uploadBackup (approvalUpload none own) w =
      ((approved w).1, w.putApprovals (approved w).2) := by
  have hpassword : (approvalUpload none own).backupPassword = "password" := rfl
  have hstart : Wallet.uploadComponent .approvals oneBackup "password" w =
      ((approved w).1, w.putApprovals (approved w).2) := Wallet.uploadComponent_approvals _ _ _
  rw [Wallet.uploadBackup_offered (approvalUpload_offers none own hcomponents) hauthentic,
    hcomponents, hpassword, Wallet.restore_cons rfl, Wallet.restoreOne]
  rcases hafter : approved w with ⟨e | _, s⟩
  · rw [hafter] at hstart
    rw [Op.bind_error hstart]
  · rw [hafter] at hstart
    rw [Op.bind_ok hstart, Wallet.restore_cons rfl]
    rfl

/-- If the registries share a slot, what is restored for the one is written into that of the other,
which the file has nothing for. -/
theorem writes_shared {w : Wallet} {own : String}
    (hauthentic : (Wallet.onLock (SessionLock.isAuthentic own) w).1 = .ok true)
    (hcomponents : w.core.components = [.approvals, .connections])
    (hunlocked : w.core.session.isUnlocked = true) (hloaded : w.core.approvals.isSome)
    (hquota : (w.host.storage.slot w.config.storageKeys.approvals).quota = none)
    (hshared : w.config.storageKeys.connections = w.config.storageKeys.approvals) :
    ∃ v, Wallet.uploadBackup (approvalUpload none own) w = (.ok (), v) ∧
      v.connectionShelf.slot.value.isSome := by
  rcases Option.isSome_iff_exists.1 hunlocked with ⟨key, hsecret⟩
  rcases Option.isSome_iff_exists.1 hloaded with ⟨m, hm⟩
  have hhandled : Shelf.Handled approvalsLabel (some key) oneBackup "password"
      w.approvalShelf (approved w).1 (approved w).2 := by
    rw [approved, hsecret]
    exact Shelf.uploadBackup_handled _ _ _ _ _
  rw [uploadBackup_approvals hauthentic hcomponents]
  generalize approved w = after at hhandled ⊢
  rcases after with ⟨r, s⟩
  rcases hhandled.merged_of_ready restored?_oneBackup hm hquota
  refine ⟨_, rfl, ?_⟩
  -- What is written of the approvals is what the other slot shows.
  have hslot : (w.putApprovals s).connectionShelf.slot = s.slot := by
    simp only [Wallet.connectionShelf, Wallet.putApprovals, hshared, Storage.slot_put_self]
  rw [hslot]
  cases hhandled with
  | merged _ hmerged => exact (hmerged.brings restored?_oneBackup oneApproval_isSome).2

/-- If the approvals are not loaded and cannot be written, the restore fails, but then they are
loaded. -/
theorem loads_unwritten {w : Wallet} {own : String}
    (hauthentic : (Wallet.onLock (SessionLock.isAuthentic own) w).1 = .ok true)
    (hcomponents : w.core.components = [.approvals, .connections])
    (hunlocked : w.core.session.isUnlocked = true) (hunloaded : w.core.approvals = none)
    (hreadable : w.approvalShelf.slot.readable = true) (hempty : w.approvalShelf.slot.value = none)
    (hquota : w.approvalShelf.slot.quota = some 0) :
    ∃ v, Wallet.uploadBackup (approvalUpload none own) w =
        (.error (.storageWrite "quota exceeded"), v) ∧ v.core.approvals = some .empty := by
  rcases Option.isSome_iff_exists.1 hunlocked with ⟨key, hsecret⟩
  have hfails : ∃ s, approved w = (.error (.storageWrite "quota exceeded"), s) ∧
      s.entries = some .empty := by
    rw [approved, hsecret]
    exact Shelf.uploadBackup_unwritten restored?_oneBackup hunloaded hreadable hempty hquota
  rcases hfails with ⟨s, hafter, hentries⟩
  rw [uploadBackup_approvals hauthentic hcomponents, hafter]
  exact ⟨_, rfl, hentries⟩

/-- The session is set up by itself, and then nothing may be written into the slot of the
approvals. -/
def setUpAlone : Run where
  move
    | 0 => .call (.setupLock "fresh")
    | _ => .host (.setQuota "keeper.approvals" (some 0))

theorem setUpAlone_adopts : setUpAlone.system 2 = setUpAlone.after 1
    (System.run 0 (Wallet.finish .flag (Wallet.onLock (SessionLock.adopt "fresh")))
      (setUpAlone.system 0)).2 1 := by
  have hmove : setUpAlone.move 0 = .call (.setupLock "fresh") := rfl
  have hperform : Wallet.perform (.setupLock "fresh") (setUpAlone.system 0).wallet =
      Wallet.finish .flag (Wallet.onLock (SessionLock.adopt "fresh"))
        (setUpAlone.system 0).wallet := Wallet.perform_adopts_alone (by decide) rfl rfl rfl
  rw [setUpAlone.system_add 1 1, system_after_call hmove, System.run_congr hperform]

theorem setUpAlone_state :
    ((setUpAlone.wallet 2).core.components = [.approvals, .connections] ∧
      (setUpAlone.wallet 2).core.session.isUnlocked = true ∧
      (setUpAlone.wallet 2).core.approvals = none) ∧
    ((setUpAlone.wallet 2).approvalShelf.slot.readable = true ∧
      (setUpAlone.wallet 2).approvalShelf.slot.value = none ∧
      (setUpAlone.wallet 2).approvalShelf.slot.quota = some 0) ∧
    (setUpAlone.wallet 2).lock.verifier.readable = true := by
  rw [wallet, setUpAlone_adopts]
  decide +kernel

theorem setUpAlone_sealed : (setUpAlone.wallet 2).lock.verifier.value =
    some (SealedText.sealFresh SessionLock.knownText "fresh" .settings default).1 := by
  rw [wallet, setUpAlone_adopts]
  rfl

theorem sharing_state : (sharing.wallet 3).core.components = [.approvals, .connections] ∧
    (sharing.wallet 3).connectionShelf.slot.value = none := by
  rw [sharing, saving_saved]
  decide +kernel

/-- So a restore may write into a slot that the file has nothing for, and it may load a map that it
fails to write. -/
theorem restore_strays :
    ((sharing.wallet 3).connectionShelf.slot.value = none ∧
      ∃ v, Wallet.uploadBackup (approvalUpload none "password") (sharing.wallet 3) = (.ok (), v) ∧
        v.connectionShelf.slot.value.isSome) ∧
    (setUpAlone.wallet 2).core.approvals = none ∧
      ∃ v, Wallet.uploadBackup (approvalUpload none "fresh") (setUpAlone.wallet 2) =
          (.error (.storageWrite "quota exceeded"), v) ∧ v.core.approvals = some .empty := by
  -- The first wallet has one slot for both registries, the second has loaded neither.
  have hopen : sharing.Open 3 "password" := saving_open (by decide +kernel) rfl
  rcases sharing_state with ⟨hshared, hbare⟩
  have hquota := hopen.roomy.1
  rw [← sharing.config_eq 3] at hquota
  have hkeys : (sharing.wallet 3).config.storageKeys.connections =
      (sharing.wallet 3).config.storageKeys.approvals := by
    rw [sharing.config_eq 3]
    rfl
  rcases setUpAlone_state with
    ⟨⟨hcomponents, hunlocked, hunloaded⟩, ⟨hreadable, hempty, hfull⟩, hreads⟩
  exact ⟨⟨hbare, writes_shared hopen.authentic hshared hopen.unlocked hopen.loaded.1 hquota hkeys⟩,
    hunloaded,
    loads_unwritten (Wallet.isAuthentic_of_sealed (by decide) hreads setUpAlone_sealed) hcomponents
      hunlocked hunloaded hreadable hempty hfull⟩

end Run

end WalletTrust

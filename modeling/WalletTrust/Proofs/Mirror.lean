import WalletTrust.Proofs.Adopting
import WalletTrust.Proofs.EitherRegistry

/-!
# What Is Held Is What Is Kept

The registries in memory and the texts in their slots agree at all times.

A registry is loaded only while the session is unlocked, and its slot then holds it under the secret
of the session. Each act preserves that. Loading puts beside the slot what the slot holds. An edit
changes both, or neither if the write is refused. Unlocking changes the secret, but then nothing was
loaded, and locking forgets whatever was.

It takes three slots with three names. A verifier in the slot of a registry would be read as the
registry, and two registries in one slot would overwrite each other.

The statement is about texts that open and are read, so it goes through encryption, encoding and
JSON text. That all of these give back what they were given, for every text, is in `Sealing` and
`ReadBack`.

The two registries are not told apart. What an act of the wallet means for a registry is said by
`Registry.fares`, and the invariant is proved from that, once for both.

## Main definitions

* `Shelf.Mirrors`: The map that is loaded is what the slot holds.
* `Wallet.Mirrored`: A registry that is loaded is what its slot holds.

## Theorems

* `Shelf.Act.mirrors`, `SessionLock.Act.mirrors`: Acts on a shelf and on the lock preserve it.
* `Registry.mirrors`, `Registry.mirrors_acts`: So do the acts of a wallet, for either registry.
* `Run.mirrored`, `Run.held_is_kept`: It holds throughout, so what is forgotten can be loaded again.
* `Shelf.Mirrors.unloaded`: Nothing is loaded without the secret.
* `Run.held_is_kept_oddOrigin`: An origin with quotes, controls and characters of four bytes is
  approved, and its approval is in the slot as it is in memory.
-/

namespace WalletTrust

namespace Shelf

variable {α : Type} [Wire α] {label : ShelfLabel} {secret : Option String}
  {edits : OriginMap α → OriginMap α → Prop} {s t : Shelf α}

/-- The map that is loaded is what the slot holds under the secret. -/
def Mirrors (label : ShelfLabel) (secret value : Option String) (entries : Option (OriginMap α)) :
    Prop :=
  ∀ m, entries = some m → ∃ key, secret = some key ∧ Holds label key value m

theorem Act.mirrors (h : Act label secret edits s t)
    (hs : Mirrors label secret s.slot.value s.entries) :
    Mirrors label secret t.slot.value t.entries := by
  intro m hm
  cases h with
  | kept hentries hslot =>
      rw [hslot]
      exact hs m (hentries ▸ hm)
  | loaded key n hsecret hunloaded hholds hentries hslot =>
      rw [hslot]
      rcases Option.some.inj (hentries.symm.trans hm)
      exact ⟨key, hsecret, hholds⟩
  | edited key n next hsecret hbefore hedit hentries hholds =>
      rcases Option.some.inj (hentries.symm.trans hm)
      exact ⟨key, hsecret, hholds⟩
  | cleared key hsecret hedit hentries hslot =>
      -- What is loaded is emptied with the slot, and an empty slot holds the empty map.
      rw [hentries] at hm
      rcases Option.map_eq_some_iff.1 hm with ⟨_, _, rfl⟩
      rw [hslot]
      exact ⟨key, hsecret, rfl⟩

/-- Nothing is loaded without the secret. -/
theorem Mirrors.unloaded {value : Option String} {entries : Option (OriginMap α)}
    (h : Mirrors label none value entries) : entries = none := by
  rcases entries with _ | m
  · rfl
  · rcases h m rfl with ⟨_, hnone, _⟩
    cases hnone

theorem mirrors_none {value : Option String} :
    Mirrors label secret value (none : Option (OriginMap α)) := by
  rintro m ⟨⟩

end Shelf

/-- The lock matters to a registry only by the secret. That is another one only if there was none,
and then nothing was loaded. -/
theorem SessionLock.Act.mirrors {α : Type} [Wire α] {label : ShelfLabel} {value : Option String}
    {entries : Option (OriginMap α)} {deeds : Deed → Prop} {l l' : SessionLock}
    (h : SessionLock.Act deeds l l')
    (hl : Shelf.Mirrors label l.session.secret value entries) :
    Shelf.Mirrors label l'.session.secret value entries := by
  -- A session that changes was locked, and then the memory is empty.
  have hsecret : l'.session = l.session ∨ l.session.secret = none := by
    cases h with
    | still hsession hslot => exact .inl hsession
    | unlocked password verifier hdeed hlocked => exact .inr hlocked
    | setUp password hdeed hempty hslot hsession =>
        split at hsession
        · exact .inl hsession
        · next hlocked => exact .inr (Session.secret_eq_none hlocked)
  rcases hsecret with hsame | hlocked
  · rw [hsame]
    exact hl
  · rw [hlocked] at hl
    rw [hl.unloaded]
    exact Shelf.mirrors_none

namespace Registry

variable {α : Type} [Wire α] {deeds : Deed → Prop} {w v : Wallet}

/-- An act preserves that a registry is what its slot holds, whichever it is. -/
theorem mirrors (r : Registry α) (h : Wallet.Act deeds w v)
    (hkeys : w.config.storageKeys.Apart deeds)
    (hw : Shelf.Mirrors r.label w.core.session.secret (r.kept w) (r.entries w.core)) :
    Shelf.Mirrors r.label v.core.session.secret (r.kept v) (r.entries v.core) := by
  -- Only an edit has to write what it puts into memory.
  cases r.fares h hkeys with
  | spared hsession hkept hentries =>
      rw [hsession, hkept, hentries]
      exact hw
  | edited s hshelf hsession hkept hentries =>
      rw [hsession, hkept, hentries]
      exact hshelf.mirrors hw
  | lock l hlock hsession hkept hentries =>
      rw [hsession, hkept, hentries]
      exact hlock.mirrors hw
  | shut _ _ _ hentries =>
      rw [hentries]
      exact Shelf.mirrors_none

theorem mirrors_acts (r : Registry α) (h : Wallet.Acts deeds w v)
    (hkeys : w.config.storageKeys.Apart deeds)
    (hw : Shelf.Mirrors r.label w.core.session.secret (r.kept w) (r.entries w.core)) :
    Shelf.Mirrors r.label v.core.session.secret (r.kept v) (r.entries v.core) := by
  induction h with
  | refl => exact hw
  | tail hacts hact ih =>
      refine r.mirrors hact ?_ ih
      rw [Wallet.Acts.config hacts]
      exact hkeys

end Registry

namespace Wallet

variable {deeds : Deed → Prop} {written : String → Prop} {w v : Wallet}

/-- A registry that is loaded is what its slot holds under the secret of the session. -/
structure Mirrored (w : Wallet) : Prop where
  approvals : Shelf.Mirrors approvalsLabel w.core.session.secret
    (w.kept w.config.storageKeys.approvals) w.core.approvals
  connections : Shelf.Mirrors connectionsLabel w.core.session.secret
    (w.kept w.config.storageKeys.connections) w.core.connections

theorem Acts.mirrored (h : Acts deeds w v) (hkeys : w.config.storageKeys.Apart deeds)
    (hw : w.Mirrored) : v.Mirrored where
  approvals := Registry.approvals.mirrors_acts h hkeys hw.approvals
  connections := Registry.connections.mirrors_acts h hkeys hw.connections

theorem Outside.mirrored (h : w.Outside written v)
    (ha : ¬ written w.config.storageKeys.approvals)
    (hc : ¬ written w.config.storageKeys.connections) (hw : w.Mirrored) : v.Mirrored := by
  constructor
  · rw [h.session, h.config, h.approvals, h.kept _ ha]
    exact hw.approvals
  · rw [h.session, h.config, h.connections, h.kept _ hc]
    exact hw.connections

/-- What is forgotten while it is mirrored is loaded again, if the slot can be read. -/
structure Reloads (w : Wallet) : Prop where
  approvals : w.core.approvals.isSome →
    (w.host.storage.slot w.config.storageKeys.approvals).readable = true →
    Shelf.load approvalsLabel w.core.session.secret w.approvalShelf.unload =
      (.ok (), w.approvalShelf)
  connections : w.core.connections.isSome →
    (w.host.storage.slot w.config.storageKeys.connections).readable = true →
    Shelf.load connectionsLabel w.core.session.secret w.connectionShelf.unload =
      (.ok (), w.connectionShelf)

end Wallet

theorem Shelf.load_unload {α : Type} [Wire α] {label : ShelfLabel} {secret : Option String}
    {s : Shelf α} (h : Mirrors label secret s.slot.value s.entries) (hloaded : s.entries.isSome)
    (hreadable : s.slot.readable = true) : load label secret s.unload = (.ok (), s) := by
  rcases Option.isSome_iff_exists.1 hloaded with ⟨m, hm⟩
  rcases h m hm with ⟨key, rfl, hholds⟩
  have hload := load_held (s := s.unload) rfl hreadable hholds
  rw [hload, unload, ← hm]

theorem Wallet.Mirrored.reloads {w : Wallet} (h : w.Mirrored) : w.Reloads where
  approvals hloaded hreadable := Shelf.load_unload h.approvals hloaded hreadable
  connections hloaded hreadable := Shelf.load_unload h.connections hloaded hreadable

namespace Run

variable {run : Run}

/-- A registry that is loaded is what its slot holds, unless its slot is written to from outside. -/
theorem mirrored (hkeys : run.config.storageKeys.Distinct)
    (hwritten : ∀ t, ¬ run.WrittenAt t run.config.storageKeys.approvals ∧
      ¬ run.WrittenAt t run.config.storageKeys.connections) (t : Nat) :
    (run.wallet t).Mirrored := by
  -- At first nothing is loaded, whatever is kept.
  refine always ⟨Shelf.mirrors_none, Shelf.mirrors_none⟩ (fun deeds u hacts => ?_)
    (fun u hout => ?_) t
  · refine hacts.mirrored ?_
    rw [run.config_eq u]
    exact hkeys.apart deeds
  · refine hout.mirrored ?_ ?_
    · rw [run.config_eq u]
      exact (hwritten u).1
    · rw [run.config_eq u]
      exact (hwritten u).2

/-- At all times a registry that is loaded is what its slot holds, so what is forgotten can be
loaded again. -/
theorem held_is_kept (hkeys : run.config.storageKeys.Distinct)
    (hwritten : ∀ t, ¬ run.WrittenAt t run.config.storageKeys.approvals ∧
      ¬ run.WrittenAt t run.config.storageKeys.connections) (t : Nat) :
    (run.wallet t).Mirrored ∧ (run.wallet t).Reloads :=
  have hmirrored := mirrored hkeys hwritten t
  ⟨hmirrored, hmirrored.reloads⟩

/-- An origin is approved whose name has to be escaped in more than one way. -/
def oddOrigin : Run where
  move
    | 0 => .call (.setupPassword "password")
    | _ => .call (.approve { origin := "https://\"\\\n𝕒.test", canSkipApprove := true })

theorem oddOrigin_approved : (oddOrigin.wallet 2).isApproved "https://\"\\\n𝕒.test" = true := by
  rw [wallet, system_adopts_add (t := 0) (d := 1) rfl (by decide) rfl rfl rfl]
  decide +kernel

/-- The odd origin is approved, and its approval is in the slot as it is in memory. -/
theorem held_is_kept_oddOrigin :
    (oddOrigin.wallet 2).isApproved "https://\"\\\n𝕒.test" = true ∧
    (oddOrigin.wallet 2).core.approvals.isSome ∧
    (oddOrigin.wallet 2).Mirrored ∧ (oddOrigin.wallet 2).Reloads := by
  have hcalls : ∀ t name, ¬ oddOrigin.WrittenAt t name := by
    rintro (_ | t) name ⟨action, hmove, _⟩
    · cases hmove
    · cases hmove
  refine ⟨oddOrigin_approved, ?_, held_is_kept ⟨by decide, by decide, by decide⟩
    (fun t => ⟨hcalls t _, hcalls t _⟩) 2⟩
  have happroved := oddOrigin_approved
  rw [Wallet.isApproved, Wallet.permission?] at happroved
  rcases hmap : (oddOrigin.wallet 2).core.approvals with _ | m
  · rw [hmap] at happroved
    cases happroved
  · rfl

end Run

end WalletTrust

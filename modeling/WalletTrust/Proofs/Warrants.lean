import WalletTrust.Proofs.Maps
import WalletTrust.Proofs.Mirror

/-!
# Warrants

Trust that is vouched for, in memory and in the slots.

A warrant says which passwords the wallet is locked with, which permissions an origin may have, and
to which identities it may be connected. A wallet keeps to it if its secret is such a password and
if all that its registries hold is allowed, in memory and in what any of the passwords makes of
their slots. The slots count because a registry that is forgotten is loaded again, and then whatever
was in its slot is trusted.

An act keeps to a warrant if it is no deed, or if its deed does: an edit of a map in which all is
allowed gives another, and a password is set up or offered only if the warrant has it. It takes that
the warrant has one password at most. A text that opens with two of them might hold something else
under the second.

A warrant may grow: more permissions and more identities may be allowed, but no other password. So a
run can be followed with a warrant for each stage, of what the user has agreed to by then, and
whatever kept to the warrant of a stage keeps to those of all later ones.

## Main definitions

* `OriginMap.All`: All entries of a map pass a test.
* `Warrant`, `Deed.Warranted`, `Wallet.Warranted`: A warrant, and what keeps to it.

## Theorems

* `Wallet.registry_warranted`: What an act makes of either registry.
* `Wallet.Acts.warranted`: Acts that do warranted deeds keep to the warrant.
* `Shelf.Act.warranted`: An act on a shelf keeps to a warrant if its edits do.
* `Wallet.Warranted.mono`: More may be allowed later on.
-/

namespace WalletTrust

namespace OriginMap

variable {α : Type} {good : String → α → Prop} {m : OriginMap α} {origin : String} {value : α}

/-- All entries of a map pass a test. -/
def All (good : String → α → Prop) (m : OriginMap α) : Prop :=
  ∀ origin value, m.get? origin = some value → good origin value

theorem all_empty : All good (.empty : OriginMap α) := by
  rintro origin value ⟨⟩

theorem All.mono {more : String → α → Prop} (h : m.All good)
    (hmore : ∀ origin value, good origin value → more origin value) : m.All more :=
  fun origin value hget => hmore origin value (h origin value hget)

theorem All.insert (h : m.All good) (hvalue : good origin value) :
    (m.insert origin value).All good := by
  intro other v hget
  rcases eq_or_ne other origin with rfl | hother
  · rw [get?_insert_self] at hget
    rcases Option.some.inj hget
    exact hvalue
  · rw [get?_insert_of_ne hother] at hget
    exact h other v hget

theorem All.erase (h : m.All good) (origin : String) : (m.erase origin).All good := by
  intro other v hget
  rcases eq_or_ne other origin with rfl | hother
  · rw [get?_erase_self] at hget
    cases hget
  · rw [get?_erase_of_ne hother] at hget
    exact h other v hget

end OriginMap

/-- What a wallet may be locked with, and what its registries may hold. -/
structure Warrant where
  password : String → Prop
  approval : String → HostPermission → Prop
  connection : String → ConnectedIdentity → Prop

/-! ## Registries -/

namespace Shelf

variable {α : Type} [Wire α] {label : ShelfLabel} {secret value : Option String}
  {edits : OriginMap α → OriginMap α → Prop} {passwords : String → Prop}
  {good more : String → α → Prop} {entries : Option (OriginMap α)} {s t : Shelf α}

/-- All that a registry holds passes a test, in memory and under some passwords. -/
structure Warranted (label : ShelfLabel) (passwords : String → Prop) (good : String → α → Prop)
    (value : Option String) (entries : Option (OriginMap α)) : Prop where
  loaded : ∀ m, entries = some m → m.All good
  kept : ∀ key m, passwords key → Holds label key value m → m.All good

theorem warranted_empty : Warranted label passwords good none (none : Option (OriginMap α)) where
  loaded := by rintro m ⟨⟩
  kept := by
    rintro _ m _ rfl
    exact OriginMap.all_empty

theorem Warranted.mono (h : Warranted label passwords good value entries)
    (hmore : ∀ origin value, good origin value → more origin value) :
    Warranted label passwords more value entries where
  loaded m hm := (h.loaded m hm).mono hmore
  kept key m hkey hholds := (h.kept key m hkey hholds).mono hmore

theorem Warranted.unload (h : Warranted label passwords good value entries) :
    Warranted label passwords good value none where
  loaded := by rintro m ⟨⟩
  kept := h.kept

/-- An act keeps to a warrant if its edits do. -/
theorem Act.warranted (h : Act label secret edits s t)
    (hone : ∀ a b, passwords a → passwords b → a = b)
    (hsecret : ∀ key, secret = some key → passwords key)
    (hedits : ∀ m n, edits m n → m.All good → n.All good)
    (hs : Warranted label passwords good s.slot.value s.entries) :
    Warranted label passwords good t.slot.value t.entries := by
  cases h with
  | kept hentries hslot =>
      rw [hentries, hslot]
      exact hs
  | loaded key m hkey hunloaded hholds hentries hslot =>
      -- This is where what is kept has to be warranted and not only what is loaded.
      rw [hentries, hslot]
      refine ⟨fun n hn => ?_, hs.kept⟩
      rcases Option.some.inj hn
      exact hs.kept key m (hsecret key hkey) hholds
  | edited key m next hkey hbefore hedit hentries hholds =>
      have hnext : next.All good := hedits m next hedit (hs.loaded m hbefore)
      rw [hentries]
      refine ⟨fun n hn => ?_, fun other n hother hn => ?_⟩
      · rcases Option.some.inj hn
        exact hnext
      · -- The slot was sealed with the one password that counts.
        rcases hone other key hother (hsecret key hkey)
        rw [holds_unique hn hholds]
        exact hnext
  | cleared key hkey hedit hentries hslot =>
      rw [hentries, hslot]
      refine ⟨fun n hn => ?_, warranted_empty.kept⟩
      rcases Option.map_eq_some_iff.1 hn with ⟨_, _, rfl⟩
      exact OriginMap.all_empty

end Shelf

/-! ## Wallets -/

/-- A deed that keeps to a warrant. -/
def Deed.Warranted (g : Warrant) : Deed → Prop
  | .approvals m n => m.All g.approval → n.All g.approval
  | .connections m n => m.All g.connection → n.All g.connection
  | .unlock password => g.password password
  | .setUp password => g.password password
  | .lock => True

namespace Wallet

variable {deeds : Deed → Prop} {written : String → Prop} {g h : Warrant} {w v : Wallet}

/-- A wallet that keeps to a warrant. -/
structure Warranted (g : Warrant) (w : Wallet) : Prop where
  secret : ∀ key, w.core.session.secret = some key → g.password key
  approvals : Shelf.Warranted approvalsLabel g.password g.approval
    (w.kept w.config.storageKeys.approvals) w.core.approvals
  connections : Shelf.Warranted connectionsLabel g.password g.connection
    (w.kept w.config.storageKeys.connections) w.core.connections

/-- More may be allowed, but not with another password. -/
theorem Warranted.mono (hw : w.Warranted g) (hpassword : h.password = g.password)
    (ha : ∀ origin p, g.approval origin p → h.approval origin p)
    (hc : ∀ origin i, g.connection origin i → h.connection origin i) : w.Warranted h := by
  refine ⟨?_, ?_, ?_⟩
  · rw [hpassword]
    exact hw.secret
  · rw [hpassword]
    exact hw.approvals.mono ha
  · rw [hpassword]
    exact hw.connections.mono hc

/-- A registry keeps to a warrant if the edits of the acts do, whichever registry it is. -/
theorem registry_warranted {α : Type} [Wire α] (r : Registry α) {passwords : String → Prop}
    {good : String → α → Prop} (hact : Act deeds w v) (hkeys : w.config.storageKeys.Apart deeds)
    (hone : ∀ a b, passwords a → passwords b → a = b)
    (hsecret : ∀ key, w.core.session.secret = some key → passwords key)
    (hedits : ∀ m n, deeds (r.edit m n) → m.All good → n.All good)
    (hw : Shelf.Warranted r.label passwords good (r.kept w) (r.entries w.core)) :
    Shelf.Warranted r.label passwords good (r.kept v) (r.entries v.core) := by
  -- Only an edit changes what has to be warranted.
  cases r.fares hact hkeys with
  | spared _ hkept hentries =>
      rw [hkept, hentries]
      exact hw
  | edited s hshelf _ hkept hentries =>
      rw [hkept, hentries]
      exact hshelf.warranted hone hsecret hedits hw
  | lock _ _ _ hkept hentries =>
      rw [hkept, hentries]
      exact hw
  | shut _ _ hkept hentries =>
      rw [hkept, hentries]
      exact hw.unload

/-- The secret is a password of the warrant, if the deeds set up and offer no other. -/
theorem Act.secret_warranted (hact : Act deeds w v) (hkeys : w.config.storageKeys.Apart deeds)
    (hdeeds : ∀ d, deeds d → d.Warranted g)
    (hw : ∀ key, w.core.session.secret = some key → g.password key) :
    ∀ key, v.core.session.secret = some key → g.password key := by
  cases Registry.approvals.fares hact hkeys with
  | spared hsession | edited _ _ hsession =>
      rw [hsession]
      exact hw
  | lock l hlock hsession =>
      rw [hsession]
      cases hlock with
      | still hsame =>
          rw [hsame]
          exact hw
      | unlocked password _ hdeed _ _ hholding =>
          rw [hholding]
          rintro _ ⟨⟩
          exact hdeeds _ hdeed
      | setUp password hdeed _ _ hholding =>
          -- An unlocked session stays as it is when a password is set up.
          rw [hholding]
          split
          · exact hw
          · rintro _ ⟨⟩
            exact hdeeds _ hdeed
  | shut _ hsession =>
      rw [hsession]
      rintro key ⟨⟩

theorem Act.warranted (hact : Act deeds w v) (hkeys : w.config.storageKeys.Distinct)
    (hone : ∀ a b, g.password a → g.password b → a = b) (hdeeds : ∀ d, deeds d → d.Warranted g)
    (hw : w.Warranted g) : v.Warranted g where
  secret := hact.secret_warranted (hkeys.apart deeds) hdeeds hw.secret
  approvals := registry_warranted Registry.approvals hact (hkeys.apart deeds) hone hw.secret
    (fun m n => hdeeds (.approvals m n)) hw.approvals
  connections := registry_warranted Registry.connections hact (hkeys.apart deeds) hone hw.secret
    (fun m n => hdeeds (.connections m n)) hw.connections

/-- Acts that do warranted deeds keep to the warrant. -/
theorem Acts.warranted (hacts : Acts deeds w v) (hkeys : w.config.storageKeys.Distinct)
    (hone : ∀ a b, g.password a → g.password b → a = b) (hdeeds : ∀ d, deeds d → d.Warranted g)
    (hw : w.Warranted g) : v.Warranted g := by
  induction hacts with
  | refl => exact hw
  | tail hacts hact ih =>
      refine hact.warranted ?_ hone hdeeds ih
      rw [Acts.config hacts]
      exact hkeys

theorem Outside.warranted (hout : w.Outside written v)
    (ha : ¬ written w.config.storageKeys.approvals)
    (hc : ¬ written w.config.storageKeys.connections) (hw : w.Warranted g) : v.Warranted g where
  secret := by
    rw [hout.session]
    exact hw.secret
  approvals := by
    rw [hout.config, hout.kept _ ha, hout.approvals]
    exact hw.approvals
  connections := by
    rw [hout.config, hout.kept _ hc, hout.connections]
    exact hw.connections

end Wallet

end WalletTrust

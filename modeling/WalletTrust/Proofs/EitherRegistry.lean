import WalletTrust.Proofs.RunDeeds

/-!
# Either Registry

The approvals and the connections, seen as one kind of thing.

A wallet has two registries, and they differ in where they are: each has a label of its own, a
slot with a name of its own, and a place in memory. What becomes of them is the same. An act of the
wallet edits one of them and spares the other, or it touches neither, and it forgets both when the
session is locked. So whatever is preserved by the acts on a shelf is preserved for either
registry, and it is proved once.

`RegistryView` is what tells the two apart, and `Fares` is what an act may be to the registry that
is viewed. It hides which of the two it is. A `Registry` is a view that all acts fare by; this is
the only place where the cases of an act are gone through for the one and for the other.

The slots have to be two. An act on one registry spares the slot of the other only if that has
another name, and a verifier that is set up would be in the way of both.

## Main definitions

* `StorageKeys.Distinct`: The three slots have three names.
* `StorageKeys.Apart`: As many names as certain deeds need.
* `RegistryView`, `Registry`: Where a registry is, and that the acts of a wallet respect it.
* `RegistryView.Fares`: What an act is to a registry.
* `Registry.approvals`, `Registry.connections`: The two registries.

## Theorems

* `Wallet.kept_putLock`: The lock changes no text but that of the verifier.
* `Registry.approvals_fares`, `Registry.connections_fares`: An act edits one and spares the other.
-/

namespace WalletTrust

/-! ## The names of the slots -/

/-- The three slots have three names. -/
structure StorageKeys.Distinct (keys : StorageKeys) : Prop where
  approvals : keys.password ≠ keys.approvals
  connections : keys.password ≠ keys.connections
  registries : keys.approvals ≠ keys.connections

/-- The registries have two slots, and if a password may be set up then the verifier has a third. -/
structure StorageKeys.Apart (keys : StorageKeys) (deeds : Deed → Prop) : Prop where
  registries : keys.approvals ≠ keys.connections
  verifier : ∀ password, deeds (.setUp password) →
    keys.password ≠ keys.approvals ∧ keys.password ≠ keys.connections

theorem StorageKeys.Distinct.apart {keys : StorageKeys} (h : keys.Distinct)
    (deeds : Deed → Prop) : keys.Apart deeds where
  registries := h.registries
  verifier := fun _ _ => ⟨h.approvals, h.connections⟩

variable {α : Type} {deeds : Deed → Prop} {w v : Wallet}

/-- The lock changes no text but that of the verifier, and that only where a password is set up. -/
theorem Wallet.kept_putLock {l : SessionLock} {name : String} (h : SessionLock.Act deeds w.lock l)
    (hname : ∀ password, deeds (.setUp password) → w.config.storageKeys.password ≠ name) :
    (w.putLock l).kept name = w.kept name := by
  cases h with
  | still hsession hslot => exact kept_put (.inl hslot)
  | unlocked password verifier hdeed hlocked hverifier hsession hslot =>
      exact kept_put (.inl (congrArg Slot.value hslot))
  | setUp password hdeed => exact kept_put (.inr (hname password hdeed).symm)

/-! ## The view of a registry -/

/-- What tells a registry from the other: the label of its shelf, the name of its slot, where its
entries are in memory, and how its edits are called among the deeds. -/
structure RegistryView (α : Type) where
  label : ShelfLabel
  name : StorageKeys → String
  entries : Core → Option (OriginMap α)
  edit : OriginMap α → OriginMap α → Deed

namespace RegistryView

/-- The text in the slot of the registry. -/
def kept (r : RegistryView α) (w : Wallet) : Option String :=
  w.kept (r.name w.config.storageKeys)

/-- The registry as a shelf. -/
def shelf (r : RegistryView α) (w : Wallet) : Shelf α where
  entries := r.entries w.core
  slot := w.host.storage.slot (r.name w.config.storageKeys)
  entropy := w.host.entropy

/-- What an act is to a registry. It leaves it alone, or it is an act on its shelf; it changes the
session by the lock, which leaves the registry as it is, or it locks the session, and then the
registry is forgotten. -/
inductive Fares [Wire α] (r : RegistryView α) (deeds : Deed → Prop) (w v : Wallet) : Prop
  | spared (hsession : v.core.session = w.core.session) (hkept : r.kept v = r.kept w)
      (hentries : r.entries v.core = r.entries w.core)
  | edited (s : Shelf α) (hshelf : Shelf.Act r.label w.core.session.secret
        (fun m n => deeds (r.edit m n)) (r.shelf w) s) (hsession : v.core.session = w.core.session)
      (hkept : r.kept v = s.slot.value) (hentries : r.entries v.core = s.entries)
  | lock (l : SessionLock) (hlock : SessionLock.Act deeds w.lock l)
      (hsession : v.core.session = l.session) (hkept : r.kept v = r.kept w)
      (hentries : r.entries v.core = r.entries w.core)
  | shut (hdeed : deeds .lock) (hsession : v.core.session = .locked) (hkept : r.kept v = r.kept w)
      (hentries : r.entries v.core = none)

end RegistryView

/-- A registry of the wallet. At first it is not loaded, every act fares by its view, and nothing
from outside reaches its entries. -/
structure Registry (α : Type) [Wire α] extends RegistryView α where
  blank : entries {} = none
  fares : ∀ {deeds : Deed → Prop} {w v : Wallet}, Wallet.Act deeds w v →
    w.config.storageKeys.Apart deeds → toRegistryView.Fares deeds w v
  outside : ∀ {written : String → Prop} {w v : Wallet}, w.Outside written v →
    entries v.core = entries w.core

namespace Registry

/-- The view of the approvals. -/
def ofApprovals : RegistryView HostPermission where
  label := approvalsLabel
  name keys := keys.approvals
  entries core := core.approvals
  edit := .approvals

/-- The view of the connections. -/
def ofConnections : RegistryView ConnectedIdentity where
  label := connectionsLabel
  name keys := keys.connections
  entries core := core.connections
  edit := .connections

/-- An act on the approvals edits them, and one on the connections is in another slot. -/
theorem approvals_fares (h : Wallet.Act deeds w v) (hkeys : w.config.storageKeys.Apart deeds) :
    ofApprovals.Fares deeds w v := by
  -- An act on the other registry writes another slot.
  cases h with
  | apart h =>
      refine .spared h.session ?_ h.approvals
      rw [RegistryView.kept, RegistryView.kept, Wallet.kept, Wallet.kept, h.storage, h.config]
  | approvals s hshelf hv =>
      rw [hv]
      exact .edited s hshelf rfl (congrArg Slot.value (Storage.slot_put_self _ _ _)) rfl
  | connections s _ hv =>
      rw [hv]
      exact .spared rfl (Wallet.kept_put (.inr hkeys.registries)) rfl
  | lock l hlock hv =>
      rw [hv]
      exact .lock l hlock rfl (Wallet.kept_putLock hlock fun q hq => (hkeys.verifier q hq).1) rfl
  | shut hdeed hv =>
      rw [hv]
      exact .shut hdeed rfl rfl rfl

/-- An act on the connections edits them, and one on the approvals is in another slot. -/
theorem connections_fares (h : Wallet.Act deeds w v) (hkeys : w.config.storageKeys.Apart deeds) :
    ofConnections.Fares deeds w v := by
  -- An act on the other registry writes another slot.
  cases h with
  | apart h =>
      refine .spared h.session ?_ h.connections
      rw [RegistryView.kept, RegistryView.kept, Wallet.kept, Wallet.kept, h.storage, h.config]
  | approvals s _ hv =>
      rw [hv]
      exact .spared rfl (Wallet.kept_put (.inr hkeys.registries.symm)) rfl
  | connections s hshelf hv =>
      rw [hv]
      exact .edited s hshelf rfl (congrArg Slot.value (Storage.slot_put_self _ _ _)) rfl
  | lock l hlock hv =>
      rw [hv]
      exact .lock l hlock rfl (Wallet.kept_putLock hlock fun q hq => (hkeys.verifier q hq).2) rfl
  | shut hdeed hv =>
      rw [hv]
      exact .shut hdeed rfl rfl rfl

/-- Which origins are approved, and how. -/
def approvals : Registry HostPermission where
  toRegistryView := ofApprovals
  blank := rfl
  fares := approvals_fares
  outside h := h.approvals

/-- Which origins are connected, and to what. -/
def connections : Registry ConnectedIdentity where
  toRegistryView := ofConnections
  blank := rfl
  fares := connections_fares
  outside h := h.connections

variable [Wire α] {written : String → Prop}

/-- What is kept of a registry is not reached from outside, unless its slot is written to. -/
theorem kept_outside (r : Registry α) (h : w.Outside written v)
    (hname : ¬ written (r.name w.config.storageKeys)) : r.kept v = r.kept w := by
  rw [RegistryView.kept, RegistryView.kept, h.config, h.kept _ hname]

end Registry

end WalletTrust

import WalletTrust.Proofs.Linking
import WalletTrust.Proofs.Relocking

/-!
# Taking Everything Back

What is left of an origin that was revoked.

Revoking takes two steps. The approval is removed, and the approvals are loaded for that if they
have to be. Then the origin is disconnected if it is connected, and that question is put to the
memory alone. So it is answered with no as long as the connections are not loaded, whatever their
slot holds. Then revoking succeeds, but when the connections are loaded the origin is among them,
and its page was not told. Nothing else is ever left: whenever the connections are loaded, or have
nothing of the origin, revoking that succeeds leaves it neither approved nor connected.

Each step can be refused by a slot that is too small. Then nobody has more than before, and
revoking the origin again comes to the same as if it had not been refused.

## Main definitions

* `Shelf.Stores`, `Wallet.Stores`: The slots can be read, and hold the maps that are loaded, if any.
* `Wallet.Unlimited`: The slots of the registries have no quota.
* `Wallet.Loads`: Which maps are found when the registries are loaded.
* `Wallet.Overlooks`: The connection of an origin is in its slot, but not in memory.
* `Wallet.Revocation`: What revoking an origin comes to.

## Theorems

* `Shelf.Stores.remove`: An origin is removed, or the slot refuses the map that is left.
* `Wallet.Stores.unapprove`, `Wallet.Stores.disconnect`: The two steps.
* `Wallet.Stores.revoke_done`, `Wallet.Stores.revoke_refused`: What both come to.
* `Wallet.Stores.revocation`: All together, also when it is done again.
* `Run.unlockedAlone_overlooked`: An origin that is revoked before the connections are loaded stays
  connected.
* `Wallet.Stores.loadRegistries`: Both registries can be loaded, whatever was loaded before.
* `Wallet.Stores.revoke`, `Wallet.Stores.revoke_succeeds`: The origin is revoked, or one of the
  slots refuses what is left.
* `Wallet.Stores.remaining_connected`, `Wallet.Stores.remaining_unconnected`: What is left of the
  connections.
* `Wallet.Holding.of_remaining`: Who is trusted when the registries that are left are loaded.
-/

namespace WalletTrust

/-! ## Shelves -/

namespace Shelf

variable {α : Type} [Wire α] {label : ShelfLabel} {key : String} {m : OriginMap α} {s t : Shelf α}

/-- The slot can be read and holds a map under the secret, and no other map is loaded. -/
structure Stores (label : ShelfLabel) (key : String) (m : OriginMap α) (s : Shelf α) : Prop where
  readable : s.slot.readable = true
  holds : Holds label key s.slot.value m
  loaded : ∀ n, s.entries = some n → n = m

/-- What a shelf stores is in its slot and beside it. -/
theorem Stores.congr (h : s.Stores label key m) (hslot : t.slot = s.slot)
    (hentries : t.entries = s.entries) : t.Stores label key m where
  readable := hslot ▸ h.readable
  holds := hslot ▸ h.holds
  loaded := hentries ▸ h.loaded

theorem Stores.of_entries (h : s.Stores label key m) (hslot : t.slot = s.slot)
    (hentries : t.entries = some m) : t.Stores label key m where
  readable := hslot ▸ h.readable
  holds := hslot ▸ h.holds
  loaded _ hn := Option.some.inj (hn.symm.trans hentries)

/-- A shelf that stores a map loads it. -/
theorem Stores.load (h : s.Stores label key m) :
    load label (some key) s = (.ok (), { s with entries := some m }) := by
  rcases hentries : s.entries with _ | n
  · exact load_held hentries h.readable h.holds
  · rw [load_loaded _ hentries, ← h.loaded n hentries, ← hentries]

/-- An origin is removed, or the slot refuses the map that is left. -/
theorem Stores.remove [LawfulWire α] (h : s.Stores label key m) (origin : String) :
    (∃ t, remove label (some key) origin s = (.ok (m.get? origin), t) ∧
      t.Stores label key (m.erase origin) ∧ t.slot.quota = s.slot.quota) ∨
    ∃ cause t, remove label (some key) origin s = (.error (.storageWrite cause), t) ∧
      t.Stores label key m ∧ t.entries = some m ∧ s.slot.quota ≠ none := by
  -- Loaded or not, what is removed from is the map that the slot holds.
  have hloads : Shelf.remove label (some key) origin s =
      Shelf.remove label (some key) origin { s with entries := some m } := by
    rw [Shelf.remove, Op.bind_ok h.load, Op.bind_ok (load_loaded _ rfl)]
  rw [hloads, remove_loaded label (some key) origin rfl]
  rcases hget : m.get? origin with _ | v
  · rw [OriginMap.erase_absent hget]
    exact .inl ⟨_, rfl, h.of_entries rfl rfl, rfl⟩
  · dsimp only
    let loaded : Shelf α := { s with entries := some m }
    by_cases hroom : loaded.HasRoom label key (m.erase origin)
    · refine .inl ⟨_, Op.bind_ok (commit_fits hroom) _, ?_, rfl⟩
      exact ⟨h.readable, holds_sealed label key (m.erase origin) s.entropy,
        fun n hn => (Option.some.inj hn).symm⟩
    · refine .inr ⟨_, _, Op.bind_error (commit_full hroom) _, ?_, rfl, fun hquota => ?_⟩
      · exact ⟨h.readable, h.holds, fun n hn => (Option.some.inj hn).symm⟩
      · exact hroom (hasRoom_of_quota hquota label key _)

end Shelf

namespace Wallet

variable {w v u : Wallet} {key origin : String} {a b : OriginMap HostPermission}
  {c : OriginMap ConnectedIdentity}

/-! ## Both registries -/

/-- The session is unlocked with a secret, and two slots hold two maps under it. A registry that is
loaded is what its slot holds. -/
structure Stores (key : String) (a : OriginMap HostPermission) (c : OriginMap ConnectedIdentity)
    (w : Wallet) : Prop where
  keys : w.config.storageKeys.approvals ≠ w.config.storageKeys.connections
  secret : w.core.session.secret = some key
  approvals : w.approvalShelf.Stores approvalsLabel key a
  connections : w.connectionShelf.Stores connectionsLabel key c

/-- The slots of the registries have no quota. -/
def Unlimited (w : Wallet) : Prop :=
  w.approvalShelf.slot.quota = none ∧ w.connectionShelf.slot.quota = none

/-- To put the approvals into their slot leaves that of the connections, if the two have names of
their own. -/
theorem slot_putApprovals (h : w.config.storageKeys.approvals ≠ w.config.storageKeys.connections)
    (s : Shelf HostPermission) :
    (w.putApprovals s).connectionShelf.slot = w.connectionShelf.slot :=
  Storage.slot_put_of_ne h.symm _ _

/-- And the other way round. -/
theorem slot_putConnections (h : w.config.storageKeys.approvals ≠ w.config.storageKeys.connections)
    (s : Shelf ConnectedIdentity) :
    (w.putConnections s).approvalShelf.slot = w.approvalShelf.slot :=
  Storage.slot_put_of_ne h _ _

namespace Stores

/-- Other approvals are stored, and the same connections. -/
theorem putApprovals (h : w.Stores key a c) {s : Shelf HostPermission}
    (hs : s.Stores approvalsLabel key b) : (w.putApprovals s).Stores key b c where
  keys := h.keys
  secret := h.secret
  approvals := by rwa [approvalShelf_put]
  connections := h.connections.congr (slot_putApprovals h.keys s) rfl

/-- And the other way round. -/
theorem putConnections (h : w.Stores key a c) {d : OriginMap ConnectedIdentity}
    {s : Shelf ConnectedIdentity} (hs : s.Stores connectionsLabel key d) :
    (w.putConnections s).Stores key a d where
  keys := h.keys
  secret := h.secret
  approvals := h.approvals.congr (slot_putConnections h.keys s) rfl
  connections := by rwa [connectionShelf_put]

/-- Who leaves the registries and the session alone leaves what they store. -/
theorem of_apart (h : w.Stores key a c) (hapart : w.Apart v) : v.Stores key a c where
  keys := by rw [hapart.config]; exact h.keys
  secret := by rw [hapart.session]; exact h.secret
  approvals := h.approvals.congr (by rw [approvalShelf, hapart.storage, hapart.config]; rfl)
    hapart.approvals
  connections := h.connections.congr (by rw [connectionShelf, hapart.storage, hapart.config]; rfl)
    hapart.connections

/-- Forgetting what is loaded leaves what is stored. -/
theorem forget (h : w.Stores key a c) : (forgetRegistries w).2.Stores key a c where
  keys := h.keys
  secret := h.secret
  approvals := ⟨h.approvals.readable, h.approvals.holds, nofun⟩
  connections := ⟨h.connections.readable, h.connections.holds, nofun⟩

/-- The session is unlocked, so it lends its secret. -/
theorem lends (h : w.Stores key a c) : Wallet.secret w = (.ok (some key), w) :=
  congrArg (fun secret => (Except.ok secret, w)) h.secret

/-- Both registries can be loaded, whatever was loaded before. -/
theorem loadRegistries (h : w.Stores key a c) :
    ∃ v, loadRegistries w = (.ok (), v) ∧ v.Holding key a c := by
  have happrovals := loadApprovals_apply h.secret
  rw [h.approvals.load] at happrovals
  have hloaded : { w.approvalShelf with entries := some a }.Stores approvalsLabel key a :=
    h.approvals.of_entries rfl rfl
  have hconnections := loadConnections_apply (h.putApprovals hloaded).secret
  rw [(h.putApprovals hloaded).connections.load] at hconnections
  exact ⟨_, (Op.bind_ok happrovals _).trans hconnections, h.secret, rfl, rfl⟩

end Stores

/-- Whoever loads the registries finds two maps, also if the registries are forgotten before. -/
def Loads (w : Wallet) (key : String) (a : OriginMap HostPermission)
    (c : OriginMap ConnectedIdentity) : Prop :=
  ∀ u, u = w ∨ u = (forgetRegistries w).2 →
    ∃ v, loadRegistries u = (.ok (), v) ∧ v.Holding key a c

theorem Stores.loads (h : w.Stores key a c) : w.Loads key a c := by
  rintro u (rfl | rfl)
  · exact h.loadRegistries
  · exact h.forget.loadRegistries

/-! ## The two steps -/

/-- The origin loses its approval, or the slot refuses the approvals that are left. -/
theorem Stores.unapprove (h : w.Stores key a c) (origin : String) :
    (∃ x v, unapprove origin w = (.ok x, v) ∧ v.Stores key (a.erase origin) c ∧
      v.core.connections = w.core.connections ∧ v.told = w.told ∧ (w.Unlimited → v.Unlimited)) ∨
    ∃ cause v, unapprove origin w = (.error (.storageWrite cause), v) ∧ v.Stores key a c ∧
      v.core.connections = w.core.connections ∧ v.told = w.told ∧ ¬ w.Unlimited := by
  rw [Wallet.unapprove, Op.bind_ok h.lends]
  -- The removal fails in the write only, and then the slot has a limit.
  rcases h.approvals.remove origin with
    ⟨s, hremove, hs, hquota⟩ | ⟨cause, s, hremove, hs, _, hquota⟩
  · have hrun : onApprovals (Shelf.remove approvalsLabel (some key) origin) w =
        (.ok (a.get? origin), w.putApprovals s) := by rw [onApprovals_apply, hremove]
    refine .inl ⟨_, _, by rw [Op.bind_ok hrun, Op.pure_apply], h.putApprovals hs, rfl, rfl, ?_⟩
    rintro ⟨happrovals, hconnections⟩
    refine ⟨?_, ?_⟩
    · rw [approvalShelf_put, hquota, happrovals]
    · rw [slot_putApprovals h.keys, hconnections]
  · have hrun : onApprovals (Shelf.remove approvalsLabel (some key) origin) w =
        (.error (.storageWrite cause), w.putApprovals s) := by rw [onApprovals_apply, hremove]
    exact .inr ⟨cause, _, Op.bind_error hrun _, h.putApprovals hs, rfl, rfl,
      fun hunlimited => hquota hunlimited.1⟩

/-- An origin that is connected in memory is disconnected and told so, or the slot refuses the
connections that are left. -/
theorem Stores.disconnect (h : w.Stores key a c) (horigin : origin ≠ "")
    (hconnected : w.isConnected origin = true) :
    (∃ x v, disconnect origin w = (.ok x, v) ∧ v.Stores key a (c.erase origin) ∧
      v.told = w.told ++ [(origin, .disconnect)]) ∨
    ∃ cause v, disconnect origin w = (.error (.storageWrite cause), v) ∧ v.Stores key a c ∧
      v.core.connections.isSome ∧ v.told = w.told ∧ ¬ w.Unlimited := by
  -- The origin is found in memory, so there is nothing to load.
  rcases connections_of_isConnected hconnected with ⟨m, hm, hsome⟩
  rcases h.connections.loaded m hm
  have hload : loadConnections w = (.ok (), w) := by
    rw [loadConnections, Op.bind_ok (x := Wallet.secret) rfl, onConnections_apply,
      Shelf.load_loaded (s := w.connectionShelf) _ hm, putConnections_self]
  rw [Wallet.disconnect, if_neg horigin, Op.bind_ok hload, Op.bind_ok (x := Op.get) rfl,
    disconnectTarget?, if_pos hconnected, Op.bind_ok (x := Op.ofOption _ (some origin)) rfl,
    Op.bind_ok h.lends]
  rcases Option.isSome_iff_exists.1 hsome with ⟨i, hget⟩
  rcases h.connections.remove origin with
    ⟨s, hremove, hs, _⟩ | ⟨cause, s, hremove, hs, hloaded, hquota⟩
  · have hrun : onConnections (Shelf.remove connectionsLabel (some key) origin) w =
        (.ok (some i), w.putConnections s) := by rw [onConnections_apply, hremove, hget]
    rcases notify_tells origin .disconnect (w.putConnections s) with ⟨v, hnotify, happart, htold⟩
    refine .inl ⟨.of origin i, v, ?_, (h.putConnections hs).of_apart happart, htold⟩
    rw [Op.bind_ok hrun, Op.bind_ok (x := Op.ofOption _ (some i)) rfl, Op.bind_ok hnotify,
      Op.pure_apply]
  · have hrun : onConnections (Shelf.remove connectionsLabel (some key) origin) w =
        (.error (.storageWrite cause), w.putConnections s) := by rw [onConnections_apply, hremove]
    exact .inr ⟨cause, _, Op.bind_error hrun _, h.putConnections hs, congrArg Option.isSome hloaded,
      rfl, fun hunlimited => hquota hunlimited.2⟩

/-! ## Revoking -/

/-- An origin is connected according to its slot, but the connections are not loaded. -/
def Overlooks (w : Wallet) (origin : String) (c : OriginMap ConnectedIdentity) : Prop :=
  w.core.connections = none ∧ (c.get? origin).isSome

instance (w : Wallet) (origin : String) (c : OriginMap ConnectedIdentity) :
    Decidable (w.Overlooks origin c) :=
  inferInstanceAs (Decidable (_ ∧ _))

/-- The connections that are left when an origin is revoked. -/
def remaining (w : Wallet) (origin : String) (c : OriginMap ConnectedIdentity) :
    OriginMap ConnectedIdentity :=
  if w.Overlooks origin c then c else c.erase origin

/-- What the page of an origin is told when the origin is revoked. -/
def farewell (w : Wallet) (origin : String) (c : OriginMap ConnectedIdentity) :
    List (String × PageEvent) :=
  if (c.get? origin).isSome ∧ ¬ w.Overlooks origin c then [(origin, .disconnect)] else []

/-- What is left of the connections depends on whether they are in memory, and on nothing else of
the wallet. -/
theorem remaining_congr (h : v.core.connections.isSome = w.core.connections.isSome)
    (origin : String) (c : OriginMap ConnectedIdentity) :
    v.remaining origin c = w.remaining origin c ∧ v.farewell origin c = w.farewell origin c := by
  have hsame : v.Overlooks origin c ↔ w.Overlooks origin c := by
    rw [Overlooks, Overlooks, ← Option.isNone_iff_eq_none, ← Option.isNone_iff_eq_none,
      ← Option.not_isSome, ← Option.not_isSome, h]
  exact ⟨if_congr hsame rfl rfl, if_congr (and_congr_right' (not_congr hsame)) rfl rfl⟩

/-- Of an origin that is not connected in memory everything is left, and its page is told nothing.
-/
theorem Stores.remaining_unconnected (h : w.Stores key a c)
    (hunconnected : ¬ w.isConnected origin = true) :
    w.remaining origin c = c ∧ w.farewell origin c = [] := by
  by_cases hget : (c.get? origin).isSome
  · -- The slot has the origin, so it is for want of loading that the memory has not.
    have hoverlooks : w.Overlooks origin c := by
      refine ⟨?_, hget⟩
      rcases hm : w.core.connections with _ | m
      · rfl
      · rw [isConnected_of_get? hm, h.connections.loaded m hm] at hunconnected
        exact absurd hget hunconnected
    exact ⟨if_pos hoverlooks, if_neg fun hfarewell => hfarewell.2 hoverlooks⟩
  -- Nobody has the origin, so there is nothing to be removed.
  · refine ⟨?_, if_neg fun hfarewell => hget hfarewell.1⟩
    rw [remaining, if_neg fun hoverlooks => hget hoverlooks.2]
    exact OriginMap.erase_absent (Option.not_isSome_iff_eq_none.1 hget)

/-- An origin that is seen to be connected is disconnected, and told. -/
theorem Stores.remaining_connected (h : w.Stores key a c)
    (hconnected : w.isConnected origin = true) :
    w.remaining origin c = c.erase origin ∧ w.farewell origin c = [(origin, .disconnect)] := by
  rcases connections_of_isConnected hconnected with ⟨m, hm, hget⟩
  have hloaded : ¬ w.Overlooks origin c := fun hoverlooks => by
    cases hm.symm.trans hoverlooks.1
  rw [h.connections.loaded m hm] at hget
  exact ⟨if_neg hloaded, if_pos ⟨hget, hloaded⟩⟩

/-- The origin is revoked, or one of the slots refuses what is left. -/
theorem Stores.revoke (h : w.Stores key a c) (horigin : origin ≠ "") :
    (∃ v, revoke origin w = (.ok (), v) ∧
      v.Stores key (a.erase origin) (w.remaining origin c) ∧
      v.told = w.told ++ w.farewell origin c) ∨
    ∃ cause v b, revoke origin w = (.error (.storageWrite cause), v) ∧
      (b = a ∨ b = a.erase origin) ∧ v.Stores key b c ∧ v.told = w.told ∧
      v.core.connections.isSome = w.core.connections.isSome ∧ ¬ w.Unlimited := by
  rw [Wallet.revoke, if_neg horigin]
  rcases h.unapprove origin with
    ⟨x, u, hunapprove, hu, hconnections, htold, hunlimited⟩ |
    ⟨cause, u, hunapprove, hu, hconnections, htold, hlimited⟩
  · rw [Op.bind_ok hunapprove, Op.bind_ok (x := Op.get) rfl]
    -- What is overlooked is settled before, as the first step does not load the connections.
    have hsame := remaining_congr (congrArg Option.isSome hconnections) origin c
    rw [← hsame.1, ← hsame.2]
    by_cases hconnected : u.isConnected origin = true
    · rw [if_pos hconnected, (hu.remaining_connected hconnected).1,
        (hu.remaining_connected hconnected).2]
      rcases hu.disconnect horigin hconnected with
        ⟨y, v, hdisconnect, hv, hheard⟩ | ⟨cause, v, hdisconnect, hv, hloaded, hheard, hlimited⟩
      · exact .inl ⟨v, by rw [Op.bind_ok hdisconnect, Op.pure_apply], hv, by rw [hheard, htold]⟩
      · refine .inr ⟨cause, v, _, Op.bind_error hdisconnect _, .inr rfl, hv, hheard.trans htold, ?_,
          mt hunlimited hlimited⟩
        rcases connections_of_isConnected hconnected with ⟨m, hm, _⟩
        rw [hloaded, ← hconnections, hm, Option.isSome_some]
    · rw [if_neg hconnected, (hu.remaining_unconnected hconnected).1,
        (hu.remaining_unconnected hconnected).2, List.append_nil]
      exact .inl ⟨u, rfl, hu, htold⟩
  · exact .inr ⟨cause, u, a, Op.bind_error hunapprove _, .inl rfl, hu, htold,
      congrArg Option.isSome hconnections, hlimited⟩

/-- With slots that take everything an approval can be taken back. -/
theorem Stores.revoke_succeeds (h : w.Stores key a c) (horigin : origin ≠ "")
    (hunlimited : w.Unlimited) : ∃ v, Wallet.revoke origin w = (.ok (), v) := by
  rcases h.revoke horigin with ⟨v, hrun, _⟩ | ⟨_, _, _, _, _, _, _, _, hlimited⟩
  · exact ⟨v, hrun⟩
  · exact absurd hunlimited hlimited

/-- What is left once an origin is revoked, and what its page was told. -/
theorem Stores.revoke_done (h : w.Stores key a c) (horigin : origin ≠ "")
    (hdone : Wallet.revoke origin w = (.ok (), v)) :
    v.Stores key (a.erase origin) (w.remaining origin c) ∧
      v.told = w.told ++ w.farewell origin c := by
  rcases h.revoke horigin with ⟨u, hrun, hu⟩ | ⟨_, _, _, hrun, _⟩
  · rcases (Prod.mk.inj (hrun.symm.trans hdone)).2
    exact hu
  · cases hrun.symm.trans hdone

/-- What is left when a write is refused. -/
theorem Stores.revoke_refused {e : Error} (h : w.Stores key a c) (horigin : origin ≠ "")
    (hfails : Wallet.revoke origin w = (.error e, v)) :
    ∃ cause b, e = .storageWrite cause ∧ (b = a ∨ b = a.erase origin) ∧ v.Stores key b c ∧
      v.told = w.told ∧ v.core.connections.isSome = w.core.connections.isSome := by
  rcases h.revoke horigin with ⟨_, hrun, _⟩ | ⟨cause, u, b, hrun, hb, hu, htold, hloaded, _⟩
  · cases hrun.symm.trans hfails
  · rcases Prod.mk.inj (hrun.symm.trans hfails) with ⟨he, rfl⟩
    exact ⟨cause, b, (Except.error.inj he).symm, hb, hu, htold, hloaded⟩

/-- What revoking an origin comes to, in a wallet that stores two maps. -/
structure Revocation (w : Wallet) (key : String) (a : OriginMap HostPermission)
    (c : OriginMap ConnectedIdentity) (origin : String) : Prop where
  succeeds : w.Unlimited → ∃ v, revoke origin w = (.ok (), v)
  /-- The rest is as it was, and the page is told once that it is disconnected, if it was
  connected. -/
  revoked : ∀ v, revoke origin w = (.ok (), v) →
    v.Loads key (a.erase origin) (w.remaining origin c) ∧ v.told = w.told ++ w.farewell origin c
  /-- Whoever loads the registries then trusts the origin no more, unless it was overlooked. -/
  untrusted : ∀ v, revoke origin w = (.ok (), v) → ∀ u, u = v ∨ u = (forgetRegistries v).2 →
    ∃ x, loadRegistries u = (.ok (), x) ∧ x.isApproved origin = false ∧
      (x.isConnected origin = true ↔ w.Overlooks origin c) ∧
      ∀ other, other ≠ origin → x.permission? other = a.get? other ∧
        x.connection? other = (c.get? other).map (.of other)
  /-- A write was refused. Nobody has gained anything, and nobody is told anything. -/
  refused : ∀ e v, revoke origin w = (.error e, v) → (∃ cause, e = .storageWrite cause) ∧
    v.told = w.told ∧ (v.Loads key a c ∨ v.Loads key (a.erase origin) c)
  /-- Then revoking the origin once more comes to what it would have come to. -/
  again : ∀ e v u, revoke origin w = (.error e, v) → v.Outside (fun _ => False) u →
    u.approvalShelf.slot.readable = true → u.connectionShelf.slot.readable = true →
    (u.Unlimited → ∃ x, revoke origin u = (.ok (), x)) ∧
      ∀ x, revoke origin u = (.ok (), x) →
        x.Loads key (a.erase origin) (w.remaining origin c) ∧
          x.told = u.told ++ w.farewell origin c

/-- What comes from outside leaves what is stored, as long as it writes nothing and the slots can be
read. -/
theorem Stores.of_outside (h : v.Stores key a c) (hout : v.Outside (fun _ => False) u)
    (happrovals : u.approvalShelf.slot.readable = true)
    (hconnections : u.connectionShelf.slot.readable = true) : u.Stores key a c where
  keys := by rw [hout.config]; exact h.keys
  secret := by rw [hout.session]; exact h.secret
  -- Nothing is written from outside, so a slot that can be read has what it had.
  approvals := by
    have hvalue : u.approvalShelf.slot.value = v.approvalShelf.slot.value :=
      (congrArg (fun config : Config => u.kept config.storageKeys.approvals) hout.config).trans
        (hout.kept v.config.storageKeys.approvals id)
    exact ⟨happrovals, hvalue ▸ h.approvals.holds,
      fun n hn => h.approvals.loaded n (hout.approvals.symm.trans hn)⟩
  connections := by
    have hvalue : u.connectionShelf.slot.value = v.connectionShelf.slot.value :=
      (congrArg (fun config : Config => u.kept config.storageKeys.connections) hout.config).trans
        (hout.kept v.config.storageKeys.connections id)
    exact ⟨hconnections, hvalue ▸ h.connections.holds,
      fun n hn => h.connections.loaded n (hout.connections.symm.trans hn)⟩

/-- Who is trusted when the registries that are left are loaded. -/
theorem Holding.of_remaining {x : Wallet}
    (h : x.Holding key (a.erase origin) (w.remaining origin c)) : x.isApproved origin = false ∧
      (x.isConnected origin = true ↔ w.Overlooks origin c) ∧
      ∀ other, other ≠ origin → x.permission? other = a.get? other ∧
        x.connection? other = (c.get? other).map (.of other) := by
  -- Overlooked or not, what remains of the others is the same.
  have hremaining {other : String} (hother : other ≠ origin) :
      (w.remaining origin c).get? other = c.get? other := by
    rw [remaining]
    split
    · rfl
    · exact OriginMap.get?_erase_of_ne hother c
  refine ⟨?_, ?_, fun other hother => ⟨?_, ?_⟩⟩
  · rw [isApproved_of_get? h.approvals, OriginMap.get?_erase_self]
    rfl
  · rw [isConnected_of_get? h.connections, remaining]
    split
    · next hoverlooks => exact iff_of_true hoverlooks.2 hoverlooks
    · next hoverlooks =>
      rw [OriginMap.get?_erase_self]
      exact iff_of_false Bool.false_ne_true hoverlooks
  · rw [permission?, h.approvals, Option.bind_some, OriginMap.get?_erase_of_ne hother]
  · rw [connection?, h.connections, Option.bind_some, hremaining hother]

/-- Revoking an origin leaves it neither approved nor connected, unless its connection is overlooked
for not being loaded. -/
theorem Stores.revocation (h : w.Stores key a c) (horigin : origin ≠ "") :
    w.Revocation key a c origin := by
  refine ⟨h.revoke_succeeds horigin, fun v hdone => ?_, fun v hdone u hu => ?_,
    fun e v hfails => ?_, fun e v u hfails hout happrovals hconnections => ?_⟩
  · rcases h.revoke_done horigin hdone with ⟨hv, htold⟩
    exact ⟨hv.loads, htold⟩
  · rcases (h.revoke_done horigin hdone).1.loads u hu with ⟨x, hload, hx⟩
    exact ⟨x, hload, hx.of_remaining⟩
  · rcases h.revoke_refused horigin hfails with ⟨cause, b, he, rfl | rfl, hv, htold, _⟩
    · exact ⟨⟨cause, he⟩, htold, .inl hv.loads⟩
    · exact ⟨⟨cause, he⟩, htold, .inr hv.loads⟩
  · rcases h.revoke_refused horigin hfails with ⟨_, b, _, hb, hv, _, hloaded⟩
    have hu := hv.of_outside hout happrovals hconnections
    -- Removing the origin from the approvals once more is nothing new, and the connections are
    -- loaded now if they were loaded then.
    have herased : b.erase origin = a.erase origin := by
      rcases hb with rfl | rfl
      · rfl
      · exact OriginMap.erase_absent (OriginMap.get?_erase_self a origin)
    have hsame := remaining_congr ((congrArg Option.isSome hout.connections).trans hloaded)
      origin c
    refine ⟨hu.revoke_succeeds horigin, fun x hdone => ?_⟩
    rcases hu.revoke_done horigin hdone with ⟨hx, htold⟩
    rw [herased, hsame.1] at hx
    rw [hsame.2] at htold
    exact ⟨hx.loads, htold⟩

/-! ## Before the connections are loaded -/

/-- What a wallet holds that mirrors its slots is what they store. -/
theorem Holding.stores (h : w.Holding key a c) (hmirrored : w.Mirrored)
    (hkeys : w.config.storageKeys.approvals ≠ w.config.storageKeys.connections)
    (hlegible : w.Legible) : w.Stores key a c where
  keys := hkeys
  secret := h.secret
  approvals := by
    rcases hmirrored.approvals a h.approvals with ⟨_, hsecret, hholds⟩
    rcases Option.some.inj (h.secret.symm.trans hsecret)
    exact ⟨hlegible.approvals, hholds, fun n hn => Option.some.inj (hn.symm.trans h.approvals)⟩
  connections := by
    rcases hmirrored.connections c h.connections with ⟨_, hsecret, hholds⟩
    rcases Option.some.inj (h.secret.symm.trans hsecret)
    exact ⟨hlegible.connections, hholds,
      fun n hn => Option.some.inj (hn.symm.trans h.connections)⟩

/-- The session of a locked wallet is unlocked by itself: nothing is loaded yet, and all is stored.
-/
theorem Restorable.unlockSession (h : w.Restorable key a c) (hlocked : w.Locked)
    (hkeys : w.config.storageKeys.approvals ≠ w.config.storageKeys.connections)
    (hlegible : w.Legible) : ∃ v, onLock (SessionLock.unlock key) w = (.ok true, v) ∧
      v.Stores key a c ∧ v.core.connections = none := by
  -- Adopting the password loads nothing: the slots have the maps, the memory has none.
  rcases unlockSession_cases key hlocked with
    ⟨_, _, v, hopened, hsession, happrovals, hconnections⟩ | ⟨hno, _⟩
  · have hkept := unlockSession_unwritten key w
    rw [hopened] at hkept
    rcases Prod.mk.inj hkept with ⟨hconfig, hstorage⟩
    have hv := (legible_congr hconfig hstorage).2 hlegible
    have hrestorable := h.congr hconfig hstorage
    exact ⟨v, hopened, {
      keys := by rw [hconfig]; exact hkeys
      secret := congrArg Session.secret hsession
      approvals := ⟨hv.approvals, hrestorable.approvals, fun n hn => by
        cases happrovals.symm.trans hn⟩
      connections := ⟨hv.connections, hrestorable.connections, fun n hn => by
        cases hconnections.symm.trans hn⟩ }, hconnections⟩
  · exact absurd ⟨h.opens, hlegible.verifier⟩ hno

end Wallet

namespace Run

/-- An origin is approved and connected. The wallet is locked, and then the session is unlocked by
itself. -/
def unlockedAlone : Run where
  move
    | 0 => .host (.insertIdentity
        { commitment := "111", name := "Account", serialized := "secret" })
    | 1 => .call (.setupPassword "password")
    | 2 => .call (.approve { origin := "https://a.test", canSkipApprove := true })
    | 3 => .call (.connectIdentity "111" "https://a.test")
    | 4 => .call .logout
    | _ => .call (.openLock "password")

/-- What is stored of the origin. -/
def onlyApproval : OriginMap HostPermission :=
  OriginMap.empty.insert "https://a.test" { canSkipApprove := true }

def onlyConnection : OriginMap ConnectedIdentity :=
  OriginMap.empty.insert "https://a.test" { commitment := "111", name := "Account" }

theorem unlockedAlone_keys : unlockedAlone.config.storageKeys.Distinct :=
  ⟨by decide, by decide, by decide⟩

theorem unlockedAlone_unwritten (t : Nat) (name : String) : ¬ unlockedAlone.WrittenAt t name := by
  rintro ⟨action, hmove, hwrites⟩
  rcases t with _ | _ | _ | _ | _ | t
  all_goals
    cases hmove
    try exact hwrites

theorem unlockedAlone_holds :
    (unlockedAlone.wallet 4).Holding "password" onlyApproval onlyConnection ∧
    (unlockedAlone.wallet 4).Legible ∧ (unlockedAlone.wallet 4).Unlimited := by
  rw [wallet, system_adopts_add (t := 1) (d := 2) rfl (by decide) rfl rfl rfl]
  exact ⟨⟨by decide +kernel, by decide +kernel, by decide +kernel⟩,
    ⟨by decide +kernel, by decide +kernel, by decide +kernel⟩, by decide +kernel, by decide +kernel⟩

theorem unlockedAlone_stores :
    (unlockedAlone.wallet 4).Stores "password" onlyApproval onlyConnection := by
  rcases unlockedAlone_holds with ⟨hheld, hlegible, _⟩
  refine hheld.stores (mirrored unlockedAlone_keys (fun t =>
    ⟨unlockedAlone_unwritten t _, unlockedAlone_unwritten t _⟩) 4) ?_ hlegible
  rw [config_eq]
  exact unlockedAlone_keys.registries

/-- While the registries are loaded, revoking the origin takes everything back. -/
theorem revocation_loaded : ¬ (unlockedAlone.wallet 4).Overlooks "https://a.test" onlyConnection ∧
    (unlockedAlone.wallet 4).Unlimited ∧ (unlockedAlone.wallet 4).Revocation "password" onlyApproval
      onlyConnection "https://a.test" := by
  rcases unlockedAlone_holds with ⟨hheld, _, hunlimited⟩
  refine ⟨fun hoverlooks => ?_, hunlimited,
    Wallet.Stores.revocation unlockedAlone_stores (by decide)⟩
  cases hheld.connections.symm.trans hoverlooks.1

/-- Once the session is unlocked by itself, everything is stored and the connections are not loaded.
-/
theorem unlockedAlone_unloaded :
    (unlockedAlone.wallet 6).Stores "password" onlyApproval onlyConnection ∧
    (unlockedAlone.wallet 6).Unlimited ∧ (unlockedAlone.wallet 6).core.connections = none := by
  rcases unlockedAlone_holds with ⟨hheld, hlegible, hunlimited⟩
  -- What is held before the wallet is locked is in the slots, and there it stays.
  have hrestorable := restorable unlockedAlone_keys (fun t => ⟨unlockedAlone_unwritten t _,
    unlockedAlone_unwritten t _, unlockedAlone_unwritten t _⟩) hheld
  have hlocking : unlockedAlone.move 4 = .call .logout := rfl
  have hlocks : unlockedAlone.wallet 5 = (Wallet.logout (unlockedAlone.wallet 4)).2 := by
    rw [wallet_call hlocking, Wallet.perform, Wallet.finish, Op.bind_pure_state]
  rcases Wallet.logout_sleeps (unlockedAlone.wallet 4) with ⟨hconfig, hstorage, hlocked⟩
  rw [← hlocks] at hconfig hstorage hlocked
  have hkeys : (unlockedAlone.wallet 5).config.storageKeys.approvals ≠
      (unlockedAlone.wallet 5).config.storageKeys.connections := by
    rw [config_eq]
    exact unlockedAlone_keys.registries
  rcases (hrestorable.congr hconfig hstorage).unlockSession hlocked hkeys
    ((Wallet.legible_congr hconfig hstorage).2 hlegible) with ⟨v, hopened, hstores, hnone⟩
  have hunlocking : unlockedAlone.move 5 = .call (.openLock "password") := rfl
  have hunlocks : unlockedAlone.wallet 6 = v := by
    rw [wallet_call hunlocking, Wallet.perform, Wallet.finish, Op.bind_pure_state, hopened]
  have hkept := Wallet.unlockSession_unwritten "password" (unlockedAlone.wallet 5)
  rw [hopened] at hkept
  rcases Prod.mk.inj hkept with ⟨hconfig', hstorage'⟩
  rw [hunlocks]
  refine ⟨hstores, ?_, hnone⟩
  rw [Wallet.Unlimited, Wallet.approvalShelf, Wallet.connectionShelf, hconfig', hstorage', hconfig,
    hstorage]
  exact hunlimited

/-- Then revoking the origin succeeds, but it is still connected when the connections are loaded. So
it is not true that an origin that was revoked is not connected. -/
theorem unlockedAlone_overlooked : ¬ ∀ (run : Run) (t : Nat) (key origin : String)
    (a : OriginMap HostPermission) (c : OriginMap ConnectedIdentity),
    (run.wallet t).Stores key a c → origin ≠ "" → ∀ v,
    Wallet.revoke origin (run.wallet t) = (.ok (), v) →
    ∃ x, Wallet.loadRegistries v = (.ok (), x) ∧ x.isConnected origin = false := by
  intro hall
  rcases unlockedAlone_unloaded with ⟨hstores, hunlimited, hnone⟩
  -- The slot connects the page, and the memory does not know.
  have hoverlooks : (unlockedAlone.wallet 6).Overlooks "https://a.test" onlyConnection :=
    ⟨hnone, by decide +kernel⟩
  have horigin : "https://a.test" ≠ "" := by decide
  rcases hstores.revoke_succeeds horigin hunlimited with ⟨v, hrun⟩
  rcases hall _ 6 _ _ _ _ hstores horigin v hrun with ⟨x, hload, hunconnected⟩
  rcases (hstores.revoke_done horigin hrun).1.loadRegistries with ⟨x', hload', hx⟩
  rcases (Prod.mk.inj (hload.symm.trans hload')).2
  rw [hx.of_remaining.2.1.2 hoverlooks] at hunconnected
  cases hunconnected

end Run

end WalletTrust

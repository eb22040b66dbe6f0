import WalletTrust.Proofs.Maps
import WalletTrust.Proofs.Silence
import WalletTrust.Wallet.Registries

/-!
# Routine Operations

What nearly every operation of a wallet respects.

An operation is routine if it uses no identity, rejects at most what is in the queue, loads the
connections only while the session is unlocked, and leaves the entitlement of an origin alone unless
taking it away is its purpose. An origin is entitled to a commitment while the session is unlocked
and the origin is connected to the identity with that commitment.

The origins and commitments that an operation spares are a parameter, because that is where the
operations differ. An approval spares them all, connecting an origin spares the others, and clearing
the connections spares none. A page is told of what becomes of its origin, so whoever spares all
tells no page anything.

This module has the parts of a wallet one by one: its desktop, its lock, its two shelves and its
desk. `Calls` puts them together.

## Main definitions

* `Wallet.Entitled`: The session is unlocked and the origin is connected to the identity.
* `Wallet.Guarded`: Connections are loaded only while the session is unlocked.
* `Wallet.Keeps`, `Wallet.Steady`, `Wallet.Routine`: What operations respect, each more than the one
  before.
* `Shelf.Spares`: What an operation on the connections leaves alone.

## Theorems

* `Wallet.onDesktop_routine`, `Wallet.onLock_routine`, `Wallet.onApprovals_routine`,
  `Wallet.onConnections_routine`, `Wallet.onDesk_routine`: The operations of the components.
* `Shelf.load_spares`, `Shelf.commit_spares`: What loading and committing a map spare.
* `Wallet.Routine.weaken`, `Wallet.Routine.of_same`: Ways to see that an operation is routine.
-/

namespace WalletTrust

/-! ## The connections -/

namespace Shelf

variable {α : Type}

/-- An operation that looks at the map beside the slot first. -/
theorem held_bind {R : Shelf α → Shelf α → Prop} [Std.Refl R] {β : Type}
    {f : OriginMap α → Op (Shelf α) β}
    (h : ∀ s m, s.entries = some m → R s (f m s).2) : Op.Within R (held >>= f) := by
  intro s
  -- What is not loaded cannot be looked at, and then nothing happens.
  rcases he : s.entries with _ | m
  · have hrun : (held >>= f) s = (.error .notProvided, s) := by
      simp only [held, Op.bind_apply, Op.get, he, Op.ofOption, Op.fail]
    rw [hrun]
    exact Std.Refl.refl s
  · have hrun : (held >>= f) s = f m s := by
      simp only [held, Op.bind_apply, Op.get, he, Op.ofOption]
      rfl
    rw [hrun]
    exact h s m he

/-- The commitment that an origin is connected to. -/
def commitment? (s : Shelf ConnectedIdentity) (origin : String) : Option String :=
  (s.get? origin).map (·.commitment)

/-- Without the secret nothing is loaded, and the origins in `spared` keep their identities. -/
structure Spares (secret : Option String) (spared : String → String → Prop)
    (s t : Shelf ConnectedIdentity) : Prop where
  loaded : t.isLoaded → s.isLoaded ∨ secret.isSome
  kept : ∀ origin commitment, spared origin commitment →
    s.commitment? origin = some commitment → t.commitment? origin = some commitment

variable {secret : Option String} {spared : String → String → Prop}

instance : Std.Refl (Spares secret spared) := ⟨fun _ => ⟨.inl, fun _ _ _ => id⟩⟩

instance : Trans (Spares secret spared) (Spares secret spared) (Spares secret spared) :=
  ⟨fun h k => ⟨fun hl => (k.loaded hl).elim h.loaded .inr,
    fun o c hs hc => k.kept o c hs (h.kept o c hs hc)⟩⟩

/-- An operation that leaves the map alone. -/
theorem spares_of_same {β : Type} {x : Op (Shelf ConnectedIdentity) β}
    (h : Op.Within (Op.Same entries) x) : Op.Within (Spares secret spared) x :=
  h.mono fun s t hsame => by
    have hentries : t.entries = s.entries := hsame
    exact ⟨fun hl => .inl (by rw [isLoaded, ← hentries]; exact hl),
      fun o c _ hc => by rw [commitment?, get?, hentries]; exact hc⟩

theorem onSlot_same {β : Type} (x : Op Slot β) :
    Op.Within (Op.Same entries) (onSlot x : Op (Shelf α) β) :=
  .zoom_any fun _ _ => rfl

theorem sealWith_same (secret plain : String) (purpose : Purpose) :
    Op.Within (Op.Same entries) (sealWith secret plain purpose : Op (Shelf α) String) :=
  fun _ => rfl

/-- Loading what is not loaded takes the secret, and what is not loaded connects nothing. -/
theorem load_spares (label : ShelfLabel) :
    Op.Within (Spares secret spared) (load label secret) := by
  intro s
  -- A map that is loaded is not loaded again.
  rcases hloaded : s.isLoaded with _ | _
  · have hempty : s.entries = none := by
      simpa only [isLoaded, Option.isSome_eq_false_iff, Option.isNone_iff_eq_none] using hloaded
    refine ⟨fun hl => ?_, fun o c _ hc => ?_⟩
    · cases secret with
      | some key => exact .inr rfl
      -- Without the secret the loading fails, and the map stays away.
      | none =>
          simp only [load, Op.bind_apply, Op.get, hloaded] at hl
          exact .inl (hloaded ▸ hl)
    · rw [commitment?, get?, hempty] at hc
      cases hc
  · have hrun : load label secret s = (.ok (), s) := by
      simp only [load, Op.bind_apply, Op.get, hloaded]
      rfl
    rw [hrun]
    exact Std.Refl.refl s

/-- A commit puts the map beside the slot, if it has the secret, or leaves the one before there. -/
theorem commit_entries [Wire α] (label : ShelfLabel) (secret : Option String) (next : OriginMap α)
    (s : Shelf α) : (commit label secret next s).2.entries = s.entries ∨
      (secret.isSome ∧ (commit label secret next s).2.entries = some next) := by
  cases secret with
  | none => exact .inl rfl
  | some key =>
      rcases hw : Slot.write (SealedText.sealFresh next.text key label.purpose s.entropy).1
        s.slot with ⟨outcome, slot⟩
      -- The map changes only once it is written.
      cases outcome with
      | ok =>
          refine .inr ⟨rfl, ?_⟩
          simp only [commit, borrow, Op.ofOption, Op.bind_apply, Op.pure_apply, sealWith, Op.draw,
            onSlot, Op.zoom, hw, Op.modify]
      | error e =>
          refine .inl ?_
          simp only [commit, borrow, Op.ofOption, Op.bind_apply, Op.pure_apply, sealWith, Op.draw,
            onSlot, Op.zoom, hw]

/-- A map that is put beside the slot spares what it agrees on with the one before. -/
theorem commit_spares (label : ShelfLabel) {s : Shelf ConnectedIdentity}
    {m next : OriginMap ConnectedIdentity} (hm : s.entries = some m)
    (h : ∀ origin commitment, spared origin commitment → next.get? origin = m.get? origin) :
    Spares secret spared s (commit label secret next s).2 := by
  rcases commit_entries label secret next s with hsame | ⟨hsecret, hnext⟩
  · exact ⟨fun hl => .inl (by rw [isLoaded, ← hsame]; exact hl),
      fun o c _ hc => by rw [commitment?, get?, hsame]; exact hc⟩
  · -- The new map is there, and the spared origins read the same in it.
    refine ⟨fun _ => .inr hsecret, fun o c hs hc => ?_⟩
    rw [commitment?, get?, hm, Option.bind_some] at hc
    rw [commitment?, get?, hnext, Option.bind_some, h o c hs]
    exact hc

/-- Setting an origin spares the others. -/
theorem upsert_spares (label : ShelfLabel) (origin : String) (value : ConnectedIdentity) :
    Op.Within (Spares secret fun o _ => o ≠ origin) (upsert label secret origin value) := by
  unfold upsert
  refine .bind (load_spares label) fun _ => ?_
  refine held_bind fun s m hm => ?_
  split
  · exact Std.Refl.refl s
  · rw [Op.bind_pure_state]
    exact commit_spares label hm fun o _ hne => OriginMap.get?_insert_of_ne hne m value

/-- So does removing one. -/
theorem remove_spares (label : ShelfLabel) (origin : String) :
    Op.Within (Spares secret fun o _ => o ≠ origin) (remove label secret origin) := by
  unfold remove
  refine .bind (load_spares label) fun _ => ?_
  refine held_bind fun s m hm => ?_
  cases m.get? origin with
  | none => exact Std.Refl.refl s
  | some value =>
      dsimp only
      rw [Op.bind_pure_state]
      exact commit_spares label hm fun o _ hne => OriginMap.get?_erase_of_ne hne m

/-- Clearing spares nobody. -/
theorem clear_spares : Op.Within (Spares secret fun _ _ => False)
    (clear secret : Op (Shelf ConnectedIdentity) Unit) := by
  unfold clear
  refine .bind (.ofOption _ _) fun _ => ?_
  refine .bind (spares_of_same (onSlot_same _)) fun _ => ?_
  -- Clearing leaves an empty map, loaded if there was one.
  refine .modify fun s => ⟨fun hl => .inl ?_, fun _ _ h => h.elim⟩
  simpa only [isLoaded, Option.isSome_map] using hl

/-- A backup takes nothing away from what it is made of. -/
theorem downloadBackup_spares (label : ShelfLabel) (password : String) :
    Op.Within (Spares secret spared)
      (downloadBackup label secret password : Op (Shelf ConnectedIdentity) _) := by
  unfold downloadBackup
  refine .bind (spares_of_same (onSlot_same _)) fun sealed => ?_
  cases sealed with
  | none => exact .pure _
  | some sealed =>
      refine .bind (.ofOption _ _) fun key => ?_
      refine .bind (.ofExcept _) fun plain => ?_
      refine .bind (spares_of_same (sealWith_same _ _ _)) fun _ => ?_
      exact .pure _

/-- Restoring spares nobody either, as there is no telling what the backup holds. -/
theorem uploadBackup_spares (label : ShelfLabel) (blob password : String) :
    Op.Within (Spares secret fun _ _ => False)
      (uploadBackup label secret blob password : Op (Shelf ConnectedIdentity) Unit) := by
  unfold uploadBackup
  refine .bind (.ofOption _ _) fun uploaded => ?_
  refine .bind (load_spares label) fun _ => ?_
  exact held_bind fun s m hm => commit_spares label hm fun _ _ h => h.elim

end Shelf

/-! ## The wallet -/

namespace Wallet

variable {α : Type} {spared : String → String → Prop} {w v : Wallet}

/-- The uses of identities that the record of the host shows. -/
def uses (w : Wallet) : List Use :=
  w.host.desktop.uses

/-- The messages to pages that the record of the host shows. -/
def told (w : Wallet) : List (String × PageEvent) :=
  w.host.desktop.told

/-- The session is unlocked and the origin is connected to the identity with the commitment. -/
def Entitled (w : Wallet) (origin commitment : String) : Prop :=
  w.core.session.isUnlocked ∧ (w.connection? origin).map (·.commitment) = some commitment

/-- The commitment that an origin is connected to, as the registry has it. -/
theorem commitment_eq (w : Wallet) (origin : String) : (w.connection? origin).map (·.commitment) =
    (w.core.connections.bind (·.get? origin)).map (·.commitment) := by
  rw [connection?, Option.map_map]
  rfl

/-- Connections are loaded only while the session is unlocked. -/
def Guarded (w : Wallet) : Prop :=
  w.core.connections.isSome → w.core.session.isUnlocked

/-- The connections stay guarded and the spared origins entitled. -/
structure Keeps (spared : String → String → Prop) (w v : Wallet) : Prop where
  guarded : w.Guarded → v.Guarded
  entitled : ∀ origin commitment, spared origin commitment →
    w.Entitled origin commitment → v.Entitled origin commitment

/-- Moreover, no identity is used, and no page is told anything if all are spared. -/
structure Steady (spared : String → String → Prop) (w v : Wallet) : Prop
    extends Keeps spared w v where
  uses : v.uses = w.uses
  told : (∀ origin commitment, spared origin commitment) → v.told = w.told

/-- Moreover, what was in the queue stays there or is rejected. -/
structure Routine (spared : String → String → Prop) (w v : Wallet) : Prop
    extends Steady spared w v where
  queue : w.core.queue.Ordinary v.core.queue

theorem Keeps.of_core (h : v.core = w.core) : Keeps spared w v where
  guarded := by rw [Guarded, Guarded, h]; exact id
  entitled := fun o c _ => by rw [Entitled, Entitled, connection?, connection?, h]; exact id

theorem Keeps.trans {u : Wallet} (h : Keeps spared w v) (k : Keeps spared v u) :
    Keeps spared w u where
  guarded := k.guarded ∘ h.guarded
  entitled := fun o c hs he => k.entitled o c hs (h.entitled o c hs he)

instance : Std.Refl (Steady spared) :=
  ⟨fun _ => { toKeeps := .of_core rfl, uses := rfl, told := fun _ => rfl }⟩

instance : Trans (Steady spared) (Steady spared) (Steady spared) :=
  ⟨fun h k => {
    toKeeps := h.toKeeps.trans k.toKeeps
    uses := k.uses.trans h.uses
    told := fun hall => (k.told hall).trans (h.told hall) }⟩

instance : Std.Refl (Routine spared) := ⟨fun w => ⟨Std.Refl.refl w, .refl _⟩⟩

instance : Trans (Routine spared) (Routine spared) (Routine spared) :=
  ⟨fun h k => ⟨Trans.trans h.toSteady k.toSteady, h.queue.trans k.queue⟩⟩

/-- It is enough to spare the origins that are entitled, if not all are spared in the end. -/
theorem Routine.weaken {also : String → String → Prop} (h : Routine spared w v)
    (hsub : ∀ o c, also o c → w.Entitled o c → spared o c)
    (hall : (∀ o c, also o c) → ∀ o c, spared o c) : Routine also w v where
  uses := h.uses
  told := fun halso => h.told (hall halso)
  guarded := h.guarded
  entitled := fun o c ha he => h.entitled o c (hsub o c ha he) he
  queue := h.queue

theorem Routine.within {also : String → String → Prop} {x : Op Wallet α}
    (h : Op.Within (Routine spared) x) (hsub : ∀ o c, also o c → spared o c) :
    Op.Within (Routine also) x :=
  h.mono fun _ _ hr => hr.weaken (fun o c ha _ => hsub o c ha) fun halso o c => hsub o c (halso o c)

/-- A change outside of the session, the connections and the queue. -/
theorem Routine.of_same (hreleased : v.host.desktop.released = w.host.desktop.released)
    (hsession : v.core.session = w.core.session)
    (hconnections : v.core.connections = w.core.connections)
    (hqueue : v.core.queue = w.core.queue) : Routine spared w v where
  uses := congrArg Prod.fst hreleased
  told := fun _ => congrArg Prod.snd hreleased
  guarded := fun h => by rw [Guarded, hsession, hconnections]; exact h
  entitled := fun o c _ h => by rw [Entitled, connection?, hsession, hconnections]; exact h
  queue := by rw [hqueue]; exact .refl _

/-! ## The components -/

theorem onDesktop_routine {x : Op Desktop α} (hx : Desktop.Silent x) :
    Op.Within (Routine spared) (onDesktop x) :=
  .zoom hx fun _ _ h => .of_same h rfl rfl rfl

theorem onLock_routine {x : Op SessionLock α} (hx : Op.Within SessionLock.Firm x) :
    Op.Within (Routine spared) (onLock x) :=
  .zoom hx fun _ _ h => {
    uses := congrArg Prod.fst h.1
    told := fun _ => congrArg Prod.snd h.1
    guarded := fun hg hloaded => h.2 (hg hloaded)
    entitled := fun _ _ _ he => ⟨h.2 he.1, he.2⟩
    queue := .refl _ }

theorem onApprovals_routine (x : Op (Shelf HostPermission) α) :
    Op.Within (Routine spared) (onApprovals x) :=
  .zoom_any fun _ _ => .of_same rfl rfl rfl rfl

/-- An operation on the connections that borrows the secret of the session. -/
theorem onConnections_routine {x : Option String → Op (Shelf ConnectedIdentity) α}
    (hx : ∀ secret, Op.Within (Shelf.Spares secret spared) (x secret)) :
    Op.Within (Routine spared) (secret >>= fun key => onConnections (x key)) := by
  intro w
  have h := hx w.core.session.secret {
    entries := w.core.connections
    slot := w.host.storage.slot w.config.storageKeys.connections
    entropy := w.host.entropy }
  refine {
    uses := rfl
    told := fun _ => rfl
    guarded := fun hg hloaded => (h.loaded hloaded).elim hg id
    entitled := fun o c hs he => ⟨he.1, ?_⟩
    queue := .refl _ }
  -- The connections are the entries of the shelf, so the shelf's law carries over.
  have hcommitment := he.2
  rw [commitment_eq] at hcommitment ⊢
  exact h.kept o c hs hcommitment

theorem onConnections_bind {β : Type} {x : Option String → Op (Shelf ConnectedIdentity) α}
    {f : α → Op Wallet β} (hx : ∀ secret, Op.Within (Shelf.Spares secret spared) (x secret))
    (hf : ∀ a, Op.Within (Routine spared) (f a)) :
    Op.Within (Routine spared) (secret >>= fun key => onConnections (x key) >>= f) :=
  Op.Within.bind (x := secret >>= fun key => onConnections (x key)) (onConnections_routine hx) hf

/-- What is silent at the desk is steady in the wallet. -/
theorem onDesk_steady {x : Op Desk α} (hx : Desk.Silent x) : Op.Within (Steady spared) (onDesk x) :=
  .zoom hx fun _ _ h => {
    guarded := id
    entitled := fun _ _ _ => id
    uses := congrArg Prod.fst h
    told := fun _ => congrArg Prod.snd h }

/-- An operation on the desk that rejects at most. -/
theorem onDesk_routine {x : Op Desk α} (hx : Desk.Silent x)
    (hqueue : ∀ d : Desk, d.queue.Ordinary (x d).2.queue) : Op.Within (Routine spared) (onDesk x) :=
  fun w => ⟨onDesk_steady hx w, hqueue { queue := w.core.queue, desktop := w.host.desktop }⟩

end Wallet

end WalletTrust

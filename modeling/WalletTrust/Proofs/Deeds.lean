import WalletTrust.Proofs.Shelves
import WalletTrust.Wallet.Registries

/-!
# Deeds

What can be done to the secret, the registries and what is kept of them.

Five things: a registry is edited, the session is unlocked, a password is set up, the session is
locked. Everything else that an operation does is either loading what is kept already, or has
nothing to do with the matter. So an operation is a sequence of acts, each of which is a deed or no
deed at all, and what one can say about an operation is which deeds it may do.

The deeds are a parameter. That they are is what makes statements about runs short: a registry that
no deed edits holds what it held or what its slot holds, and a session that no deed unlocks stays
locked.

Locking is one act, though the secret is dropped before the registries are forgotten. Nobody sees
the wallet in between.

## Main definitions

* `Deed`: What can be done.
* `Deed.Leaves`, `Deed.Concerns`: What a deed means for an origin.
* `SessionLock.Act`, `Wallet.Act`, `Wallet.Acts`: The acts of an operation that does certain deeds.
* `SessionLock.Still`: An operation on the lock that does no deed.
* `Wallet.approvalShelf`, `Wallet.connectionShelf`, `Wallet.lock`: The parts that the components
  work on.

## Theorems

* `SessionLock.unlock_cases`, `SessionLock.setupPassword_acts`: The deeds of the lock.
* `Wallet.onApprovals_acts`, `Wallet.onConnections_acts`, `Wallet.onLock_acts`: From the acts of a
  component to the acts of the wallet.
-/

namespace WalletTrust

open Op (Within)
open Relation (ReflTransGen)

/-- What can be done to the secret and the registries. -/
inductive Deed where
  /-- The approvals are edited, from one map to another. -/
  | approvals (m next : OriginMap HostPermission)
  | connections (m next : OriginMap ConnectedIdentity)
  /-- The session is unlocked with a password. -/
  | unlock (password : String)
  | setUp (password : String)
  | lock

/-- A deed that changes the secret. -/
def Deed.OfSession : Deed → Prop
  | .approvals _ _ => False
  | .connections _ _ => False
  | _ => True

/-- A deed leaves an origin as it is. -/
def Deed.Leaves (origin : String) : Deed → Prop
  | .approvals m next => next.get? origin = m.get? origin
  | .connections m next => next.get? origin = m.get? origin
  | _ => True

/-- A deed edits one origin at most. -/
def Deed.Concerns (origin : String) (d : Deed) : Prop :=
  ¬ d.OfSession ∧ ∀ other, other ≠ origin → d.Leaves other

/-! ## The lock -/

/-- A slot that was to be written, with the value that it holds now. -/
def Slot.tried (value : Option String) (s : Slot) : Slot :=
  { s with value, sets := s.sets + 1 }

/-- A session that is not unlocked lends no secret. -/
theorem Session.secret_eq_none {s : Session} (h : ¬ s.isUnlocked = true) : s.secret = none :=
  Option.not_isSome_iff_eq_none.1 h

namespace SessionLock

variable {α β : Type} {deeds : Deed → Prop} {l l' : SessionLock} {password : String}

/-- One act of an operation on the lock. -/
inductive Act (deeds : Deed → Prop) (l l' : SessionLock) : Prop
  | still (hsession : l'.session = l.session) (hslot : l'.verifier.value = l.verifier.value)
  | unlocked (password verifier : String) (hdeed : deeds (.unlock password))
      (hlocked : l.session.secret = none) (hverifier : l.verifier.value = some verifier)
      (hsession : l'.session = .holding password) (hslot : l'.verifier = l.verifier)
  /-- The first verifier is written, and the session unlocked with its password. -/
  | setUp (password : String) (hdeed : deeds (.setUp password)) (hempty : l.verifier.value = none)
      (hslot : l'.verifier.value.isSome)
      (hsession : l'.session = if l.session.isUnlocked then l.session else .holding password)

/-- Who is allowed more does what is allowed. -/
theorem Act.mono {more : Deed → Prop} (h : ∀ d, deeds d → more d) (hact : Act deeds l l') :
    Act more l l' := by
  cases hact with
  | still hsession hslot => exact .still hsession hslot
  | unlocked password verifier hdeed hlocked hverifier hsession hslot =>
      exact .unlocked password verifier (h _ hdeed) hlocked hverifier hsession hslot
  | setUp password hdeed hempty hslot hsession =>
      exact .setUp password (h _ hdeed) hempty hslot hsession

/-- An operation that leaves the session and the verifier as they are. -/
abbrev Still (x : Op SessionLock α) : Prop :=
  Within (Op.Same fun l => (l.session, l.verifier)) x

/-- The verifier is read as it is, or cannot be read. -/
theorem read_cases (l : SessionLock) :
    (l.verifier.readable = true ∧ onVerifier Slot.read l = (.ok l.verifier.value, l)) ∨
      ∃ e, onVerifier Slot.read l = (.error e, l) := by
  simp only [onVerifier, Op.zoom, Slot.read]
  split
  · next hreads => exact .inl ⟨hreads, rfl⟩
  · exact .inr ⟨_, rfl⟩

/-- A verifier is written, or the slot refuses it for its size. -/
theorem write_cases (text : String) (l : SessionLock) :
    onVerifier (Slot.write text) l =
        (.ok (), { l with verifier := l.verifier.tried (some text) }) ∨
      ∃ e, onVerifier (Slot.write text) l =
        (.error e, { l with verifier := l.verifier.tried l.verifier.value }) := by
  simp only [onVerifier, Op.zoom, Slot.write]
  split
  · exact .inl rfl
  · exact .inr ⟨_, rfl⟩

/-- To read the verifier is to change nothing. -/
theorem read_still : Still (onVerifier Slot.read) := by
  intro l
  rcases read_cases l with ⟨_, hrun⟩ | ⟨e, hrun⟩
  · rw [hrun]
    rfl
  · rw [hrun]
    rfl

/-- Neither does it to ask for the status, which is read off the verifier and the session. -/
theorem status_still : Still status := by
  unfold status
  refine .bind read_still fun _ => ?_
  refine .bind .get fun _ => ?_
  exact .pure _

theorem state_still : Still state := by
  unfold state
  refine .bind .get fun lock => ?_
  refine .ite (fun _ => ?_) fun _ => ?_
  · exact .pure _
  · refine .bind read_still fun verifier => ?_
    cases verifier with
    | some _ => exact .pure _
    | none => exact .pure _

/-- A status that is announced is an event of the desktop, and those are not counted among the
deeds. -/
theorem announce_still : Still announce := by
  unfold announce
  refine .bind (.attempt status_still) fun outcome => ?_
  cases outcome with
  | ok status => exact .ignore (.zoom_any fun _ _ => rfl)
  | error => exact .pure _

theorem isAuthentic_still (password : String) : Still (isAuthentic password) := by
  unfold isAuthentic
  refine .ite (fun _ => ?_) fun _ => ?_
  · exact .fail _
  · refine .bind read_still fun verifier => ?_
    cases verifier with
    | none => exact .fail _
    | some verifier =>
        refine .ite (fun _ => ?_) fun _ => ?_
        · exact .pure _
        · exact .fail _

theorem ensureUnlocked_still : Still ensureUnlocked := by
  unfold ensureUnlocked
  refine .bind .get fun _ => ?_
  refine .ite (fun _ => ?_) fun _ => ?_
  · exact .pure _
  · exact .fail _

/-- To seal a text uses up random bytes, and these are no part of what is kept. -/
theorem sealWith_still (secret plain : String) (purpose : Purpose) :
    Still (sealWith secret plain purpose) :=
  fun _ => rfl

theorem sealText_still (plain : String) (purpose : Purpose) : Still (sealText plain purpose) := by
  unfold sealText
  refine .bind .get fun lock => ?_
  cases lock.session.secret with
  | some secret => exact sealWith_still secret plain purpose
  | none => exact .fail _

theorem openText_still (sealed : String) (purpose : Purpose) : Still (openText sealed purpose) := by
  unfold openText
  refine .bind .get fun lock => ?_
  cases lock.session.secret with
  | some secret => exact .ofExcept _
  | none => exact .fail _

/-- A password is authentic only if there is a verifier. -/
theorem verifier_of_isAuthentic {b : Bool} {l' : SessionLock}
    (h : isAuthentic password l = (.ok b, l')) : ∃ verifier, l.verifier.value = some verifier := by
  rw [isAuthentic] at h
  split at h
  · cases congrArg Prod.fst h
  · rcases read_cases l with ⟨_, hread⟩ | ⟨e, hread⟩
    · rw [Op.bind_ok hread] at h
      rcases hverifier : l.verifier.value with _ | verifier
      · rw [hverifier] at h
        cases congrArg Prod.fst h
      · exact ⟨verifier, rfl⟩
    · rw [Op.bind_error hread] at h
      cases congrArg Prod.fst h

/-- A session that is unlocked stays as it is, whatever the password. -/
theorem unlock_unlocked (password : String) (h : l.session.isUnlocked = true) :
    unlock password l = (.ok true, l) := by
  rw [unlock, Op.bind_ok (x := Op.get) rfl, if_pos h, Op.pure_apply]

/-- Unlocking leaves everything as it is, or it unlocks a locked session that has a verifier. -/
theorem unlock_cases (password : String) (l : SessionLock) :
    ((unlock password l).2.session = l.session ∧
      (unlock password l).2.verifier = l.verifier) ∨
    ∃ verifier, l.session.secret = none ∧ l.verifier.value = some verifier ∧
      (unlock password l).2.session = .holding password ∧
      (unlock password l).2.verifier = l.verifier := by
  rcases hunlocked : l.session.isUnlocked with _ | _
  · have hlocked : ¬ l.session.isUnlocked = true := by rw [hunlocked]; exact Bool.false_ne_true
    have hstill := isAuthentic_still password l
    rcases hcheck : isAuthentic password l with ⟨outcome, t⟩
    rw [hcheck] at hstill
    rcases Prod.mk.inj hstill with ⟨hsession, hverifier⟩
    have hstart : unlock password l = (do
        let _ ← isAuthentic password
        Op.modify fun s => { s with session := .holding password }
        announce
        return true : Op SessionLock Bool) l := by
      rw [unlock, Op.bind_ok (x := Op.get) rfl, if_neg hlocked]
    rw [hstart]
    cases outcome with
    | error e =>
        rw [Op.bind_error hcheck]
        exact .inl ⟨hsession, hverifier⟩
    | ok b =>
        rcases verifier_of_isAuthentic hcheck with ⟨verifier, hvalue⟩
        -- The announcement comes after the change and changes nothing more.
        have hannounced := announce_still { t with session := .holding password }
        rcases Prod.mk.inj hannounced with ⟨hafter, hslot⟩
        rw [Op.bind_ok hcheck, Op.bind_ok (x := Op.modify _) rfl, Op.bind_ok (announce_ok _),
          Op.pure_apply]
        exact .inr ⟨verifier, Session.secret_eq_none hlocked, hvalue, hafter,
          hslot.trans hverifier⟩
  · rw [unlock_unlocked password hunlocked]
    exact .inl ⟨rfl, rfl⟩

/-- Unlocking does one deed at most, and only if the password is the right one. -/
theorem unlock_acts (password : String) (l : SessionLock) :
    Act (fun d => d = .unlock password) l (unlock password l).2 := by
  rcases unlock_cases password l with
    ⟨hsession, hslot⟩ | ⟨verifier, hlocked, hverifier, hsession, hslot⟩
  · exact .still hsession (congrArg Slot.value hslot)
  · exact .unlocked password verifier rfl hlocked hverifier hsession hslot

/-- A verifier that was just sealed is opened, unless the session is unlocked already. -/
theorem unlock_fresh {e : Entropy} (hp : password ≠ "") (hreads : l.verifier.readable = true)
    (hsealed : l.verifier.value = some (SealedText.sealFresh knownText password .settings e).1) :
    (unlock password l).2.session =
        (if l.session.isUnlocked then l.session else .holding password) ∧
      (unlock password l).2.verifier = l.verifier := by
  rcases hunlocked : l.session.isUnlocked with _ | _
  · have hstill := announce_still { l with session := .holding password }
    rw [unlock_sealed hp hreads hsealed hunlocked]
    exact Prod.mk.inj hstill
  · rw [unlock_unlocked password hunlocked]
    exact ⟨rfl, rfl⟩

/-- Setting up a password writes the first verifier and unlocks with it, or does nothing. -/
theorem setupPassword_acts (password : String) (l : SessionLock) :
    Act (fun d => d = .setUp password) l (setupPassword password l).2 := by
  rw [setupPassword]
  -- Nothing happens to a lock that has a verifier, cannot be read or is given no password.
  split
  · exact .still rfl rfl
  next hp =>
  rcases read_cases l with ⟨hreads, hread⟩ | ⟨e, hread⟩
  · rw [Op.bind_ok hread]
    rcases hempty : l.verifier.value with _ | verifier
    · -- The verifier is sealed with the password itself, so unlocking with it cannot fail.
      rw [if_neg (by exact Bool.false_ne_true)]
      let fresh := SealedText.sealFresh knownText password .settings l.entropy
      have hseal : sealWith password knownText .settings l =
          (.ok fresh.1, { l with entropy := fresh.2 }) := rfl
      rw [Op.bind_ok hseal]
      rcases write_cases fresh.1 { l with entropy := fresh.2 } with hwrite | ⟨e, hwrite⟩
      · rw [Op.bind_ok hwrite]
        rcases unlock_fresh (l := { l with
          verifier := l.verifier.tried (some fresh.1)
          entropy := fresh.2 }) hp hreads rfl with ⟨hsession, hslot⟩
        refine .setUp password rfl hempty ?_ hsession
        rw [hslot]
        rfl
      · rw [Op.bind_error hwrite]
        exact .still rfl rfl
    · exact .still rfl rfl
  · rw [Op.bind_error hread]
    exact .still rfl rfl

end SessionLock

/-! ## The parts of a wallet -/

namespace Wallet

variable {α β : Type} {deeds : Deed → Prop} {w v : Wallet}

/-- The part that the operations on the lock work on. -/
def lock (w : Wallet) : SessionLock where
  session := w.core.session
  verifier := w.host.storage.slot w.config.storageKeys.password
  entropy := w.host.entropy
  desktop := w.host.desktop

def putLock (l : SessionLock) (w : Wallet) : Wallet :=
  { w with
    host :=
      { w.host with
        storage := w.host.storage.put w.config.storageKeys.password l.verifier
        entropy := l.entropy
        desktop := l.desktop }
    core := { w.core with session := l.session } }

/-- The part that the operations on the approvals work on. -/
def approvalShelf (w : Wallet) : Shelf HostPermission where
  entries := w.core.approvals
  slot := w.host.storage.slot w.config.storageKeys.approvals
  entropy := w.host.entropy

def putApprovals (s : Shelf HostPermission) (w : Wallet) : Wallet :=
  { w with
    host :=
      { w.host with
        storage := w.host.storage.put w.config.storageKeys.approvals s.slot
        entropy := s.entropy }
    core := { w.core with approvals := s.entries } }

/-- The part that the operations on the connections work on. -/
def connectionShelf (w : Wallet) : Shelf ConnectedIdentity where
  entries := w.core.connections
  slot := w.host.storage.slot w.config.storageKeys.connections
  entropy := w.host.entropy

def putConnections (s : Shelf ConnectedIdentity) (w : Wallet) : Wallet :=
  { w with
    host :=
      { w.host with
        storage := w.host.storage.put w.config.storageKeys.connections s.slot
        entropy := s.entropy }
    core := { w.core with connections := s.entries } }

/-- The wallet after one slot was written to: the slot, the randomness and what is loaded of the
registries are others. Both registries are put back in this way, each into its own slot. -/
def rewritten (name : String) (slot : Slot) (entropy : Entropy)
    (a : Option (OriginMap HostPermission)) (c : Option (OriginMap ConnectedIdentity))
    (w : Wallet) : Wallet :=
  { w with
    host := { w.host with storage := w.host.storage.put name slot, entropy }
    core := { w.core with approvals := a, connections := c } }

/-- Of two writes to one slot the second counts. -/
theorem put_put (name : String) (a b : Slot) (s : Storage) :
    (s.put name a).put name b = s.put name b := by
  simp only [Storage.put, Storage.mk.injEq]
  funext other
  split
  · rfl
  · rfl

/-! ## Acts -/

/-- The configuration, the slots, the secret and the registries are as they were. -/
structure Apart (w v : Wallet) : Prop where
  config : v.config = w.config
  storage : v.host.storage = w.host.storage
  session : v.core.session = w.core.session
  approvals : v.core.approvals = w.core.approvals
  connections : v.core.connections = w.core.connections

/-- Who leaves the registries and the session alone twice leaves them alone. -/
theorem Apart.trans {u : Wallet} (h : w.Apart v) (k : v.Apart u) : w.Apart u where
  config := k.config.trans h.config
  storage := k.storage.trans h.storage
  session := k.session.trans h.session
  approvals := k.approvals.trans h.approvals
  connections := k.connections.trans h.connections

/-- The wallet without the secret and the registries. -/
def shut (w : Wallet) : Wallet :=
  { w with core := { w.core with session := .locked, approvals := none, connections := none } }

/-- One act of an operation that does the deeds in `deeds`. -/
inductive Act (deeds : Deed → Prop) (w v : Wallet) : Prop
  | apart (h : w.Apart v)
  | approvals (s : Shelf HostPermission)
      (h : Shelf.Act approvalsLabel w.core.session.secret (fun m n => deeds (.approvals m n))
        w.approvalShelf s) (hv : v = w.putApprovals s)
  | connections (s : Shelf ConnectedIdentity)
      (h : Shelf.Act connectionsLabel w.core.session.secret (fun m n => deeds (.connections m n))
        w.connectionShelf s) (hv : v = w.putConnections s)
  | lock (l : SessionLock) (h : SessionLock.Act deeds w.lock l) (hv : v = w.putLock l)
  | shut (hdeed : deeds .lock) (hv : v = w.shut)

/-- The acts of an operation, one after the other. -/
def Acts (deeds : Deed → Prop) : Wallet → Wallet → Prop :=
  ReflTransGen (Act deeds)

instance : Std.Refl (Acts deeds) := ⟨fun _ => .refl⟩

instance : Trans (Acts deeds) (Acts deeds) (Acts deeds) := ⟨ReflTransGen.trans⟩

/-- Deeds that are done one after the other are deeds still. -/
theorem Acts.trans {u : Wallet} (h : Acts deeds w v) (k : Acts deeds v u) : Acts deeds w u :=
  ReflTransGen.trans h k

/-- No deeds at all. -/
def Harmless : Deed → Prop := fun _ => False

/-- Who is allowed more does what is allowed, however many deeds there are. -/
theorem Acts.mono {more : Deed → Prop} (h : ∀ d, deeds d → more d) (hacts : Acts deeds w v) :
    Acts more w v := by
  refine ReflTransGen.mono (fun w v hact => ?_) w v hacts
  cases hact with
  | apart happart => exact .apart happart
  | approvals s hshelf hv => exact .approvals s (hshelf.mono fun m n => h _) hv
  | connections s hshelf hv => exact .connections s (hshelf.mono fun m n => h _) hv
  | lock l hlock hv => exact .lock l (hlock.mono h) hv
  | shut hdeed hv => exact .shut (h _ hdeed) hv

/-- Whoever does no harm is allowed anything. -/
theorem Acts.of_harmless (h : Acts Harmless w v) : Acts deeds w v :=
  h.mono fun _ hnone => hnone.elim

/-- An operation that leaves the registries and the session alone does no deed. -/
theorem acts_of_apart {x : Op Wallet α} (h : ∀ w : Wallet, w.Apart (x w).2) :
    Within (Acts deeds) x :=
  fun w => .single (.apart (h w))

/-- What happens at the desk is no deed. -/
theorem onDesk_acts (x : Op Desk α) : Within (Acts deeds) (onDesk x) :=
  acts_of_apart fun _ => ⟨rfl, rfl, rfl, rfl, rfl⟩

/-- Neither is what happens to windows and pages. -/
theorem onDesktop_acts (x : Op Desktop α) : Within (Acts deeds) (onDesktop x) :=
  acts_of_apart fun _ => ⟨rfl, rfl, rfl, rfl, rfl⟩

/-- The registry of approvals is what was put there. -/
theorem approvalShelf_put (s : Shelf HostPermission) (w : Wallet) :
    (w.putApprovals s).approvalShelf = s := by
  simp only [approvalShelf, putApprovals, Storage.slot_put_self]

/-- Of two changes to the registry of approvals the second counts. -/
theorem putApprovals_put (s t : Shelf HostPermission) (w : Wallet) :
    (w.putApprovals s).putApprovals t = w.putApprovals t := by
  simp only [putApprovals, put_put]

/-- To put the registry of approvals back as it is changes nothing. -/
theorem putApprovals_self (w : Wallet) : w.putApprovals w.approvalShelf = w := by
  simp only [putApprovals, approvalShelf, Storage.put_slot]

theorem connectionShelf_put (s : Shelf ConnectedIdentity) (w : Wallet) :
    (w.putConnections s).connectionShelf = s := by
  simp only [connectionShelf, putConnections, Storage.slot_put_self]

theorem putConnections_put (s t : Shelf ConnectedIdentity) (w : Wallet) :
    (w.putConnections s).putConnections t = w.putConnections t := by
  simp only [putConnections, put_put]

theorem putConnections_self (w : Wallet) : w.putConnections w.connectionShelf = w := by
  simp only [putConnections, connectionShelf, Storage.put_slot]

/-- The session is what was put there. -/
theorem lock_putLock (l : SessionLock) (w : Wallet) : (w.putLock l).lock = l := by
  simp only [lock, putLock, Storage.slot_put_self]

theorem putLock_self (w : Wallet) : w.putLock w.lock = w := by
  simp only [putLock, lock, Storage.put_slot]

/-- What an operation on the session does to the wallet. -/
theorem onLock_apply (x : Op SessionLock α) (w : Wallet) :
    onLock x w = ((x w.lock).1, w.putLock (x w.lock).2) := rfl

/-- What an operation on the approvals does to the wallet: it is lent the slot and the map, and both
are put back. -/
theorem onApprovals_apply (x : Op (Shelf HostPermission) α) (w : Wallet) :
    onApprovals x w = ((x w.approvalShelf).1, w.putApprovals (x w.approvalShelf).2) := rfl

/-- And so for the connections. -/
theorem onConnections_apply (x : Op (Shelf ConnectedIdentity) α) (w : Wallet) :
    onConnections x w = ((x w.connectionShelf).1, w.putConnections (x w.connectionShelf).2) := rfl

/-- What an operation on the approvals does with the secret of the session, the wallet does. -/
theorem onApprovals_acts {x : Op (Shelf HostPermission) α}
    (h : Shelf.Acts approvalsLabel w.core.session.secret (fun m n => deeds (.approvals m n))
      w.approvalShelf (x w.approvalShelf).2) : Acts deeds w (onApprovals x w).2 := by
  -- Between the acts the wallet is the one it was, with the shelf put back as it is by then.
  have hacts : Acts deeds (w.putApprovals w.approvalShelf) (onApprovals x w).2 :=
    ReflTransGen.lift (p := Act deeds) (fun s => w.putApprovals s)
      (fun s t hact => .approvals t (by rw [approvalShelf_put]; exact hact)
        (putApprovals_put s t w).symm) _ _ h
  rw [putApprovals_self] at hacts
  exact hacts

theorem onConnections_acts {x : Op (Shelf ConnectedIdentity) α}
    (h : Shelf.Acts connectionsLabel w.core.session.secret (fun m n => deeds (.connections m n))
      w.connectionShelf (x w.connectionShelf).2) : Acts deeds w (onConnections x w).2 := by
  have hacts : Acts deeds (w.putConnections w.connectionShelf) (onConnections x w).2 :=
    ReflTransGen.lift (p := Act deeds) (fun s => w.putConnections s)
      (fun s t hact => .connections t (by rw [connectionShelf_put]; exact hact)
        (putConnections_put s t w).symm) _ _ h
  rw [putConnections_self] at hacts
  exact hacts

/-- An operation on the approvals that borrows the secret of the session. -/
theorem lendApprovals_acts {x : Option String → Op (Shelf HostPermission) α}
    (h : ∀ secret, Within (Shelf.Acts approvalsLabel secret fun m n => deeds (.approvals m n))
      (x secret)) : Within (Acts deeds) (secret >>= fun key => onApprovals (x key)) :=
  fun w => onApprovals_acts (h w.core.session.secret w.approvalShelf)

/-- An operation on the connections that borrows the secret of the session. -/
theorem lendConnections_acts {x : Option String → Op (Shelf ConnectedIdentity) α}
    (h : ∀ secret, Within (Shelf.Acts connectionsLabel secret fun m n => deeds (.connections m n))
      (x secret)) : Within (Acts deeds) (secret >>= fun key => onConnections (x key)) :=
  fun w => onConnections_acts (h w.core.session.secret w.connectionShelf)

/-- A deed of the session is a deed of the wallet. -/
theorem onLock_acts {x : Op SessionLock α} (h : SessionLock.Act deeds w.lock (x w.lock).2) :
    Acts deeds w (onLock x w).2 :=
  .single (.lock _ h rfl)

/-- Whoever leaves the session as it is does no deed. -/
theorem onLock_still {x : Op SessionLock α} (h : SessionLock.Still x) :
    Within (Acts deeds) (onLock x) := by
  intro w
  rcases Prod.mk.inj (h w.lock) with ⟨hsession, hslot⟩
  exact onLock_acts (.still hsession (congrArg Slot.value hslot))

/-! ## What acts leave alone -/

/-- The configuration is settled when the wallet is set up, and no deed changes it. -/
theorem Act.config (h : Act deeds w v) : v.config = w.config := by
  cases h with
  | apart happart => exact happart.config
  | approvals s hshelf hv => rw [hv]; rfl
  | connections s hshelf hv => rw [hv]; rfl
  | lock l hlock hv => rw [hv]; rfl
  | shut hdeed hv => rw [hv]; rfl

theorem Acts.config (h : Acts deeds w v) : v.config = w.config := by
  induction h with
  | refl => rfl
  | tail _ hact ih => exact hact.config.trans ih

/-- Only deeds that are meant to change the session do. -/
theorem Act.session (h : Act deeds w v) (hdeeds : ∀ d, deeds d → ¬ d.OfSession) :
    v.core.session = w.core.session := by
  cases h with
  | apart happart => exact happart.session
  | approvals s hshelf hv => rw [hv]; rfl
  | connections s hshelf hv => rw [hv]; rfl
  | lock l hlock hv =>
      rw [hv]
      cases hlock with
      | still hsession hslot => exact hsession
      | unlocked password verifier hdeed => exact absurd trivial (hdeeds _ hdeed)
      | setUp password hdeed => exact absurd trivial (hdeeds _ hdeed)
  | shut hdeed hv => exact absurd trivial (hdeeds _ hdeed)

/-- Without a deed of the session the session stays what it is. -/
theorem Acts.session (h : Acts deeds w v) (hdeeds : ∀ d, deeds d → ¬ d.OfSession) :
    v.core.session = w.core.session := by
  induction h with
  | refl => rfl
  | tail _ hact ih => exact (hact.session hdeeds).trans ih

/-- The text in a slot. -/
def kept (w : Wallet) (name : String) : Option String :=
  (w.host.storage.slot name).value

/-- A write to one slot leaves every other slot, and its own too if it writes what was there. -/
theorem kept_put {storage : Storage} {other name : String} {slot : Slot}
    (h : slot.value = (storage.slot other).value ∨ name ≠ other) :
    ((storage.put other slot).slot name).value = (storage.slot name).value := by
  rcases eq_or_ne name other with rfl | hother
  · rw [Storage.slot_put_self, h.resolve_right fun hne => hne rfl]
  · rw [Storage.slot_put_of_ne hother]

/-- An act changes a text only as a deed: it edits a registry, with the secret, or it sets up the
password. -/
theorem Act.kept (h : Act deeds w v) (name : String) : v.kept name = w.kept name ∨
    (w.core.session.secret.isSome ∧ ((name = w.config.storageKeys.approvals ∧
        ∃ m n, deeds (.approvals m n)) ∨
      (name = w.config.storageKeys.connections ∧ ∃ m n, deeds (.connections m n)))) ∨
    (name = w.config.storageKeys.password ∧ ∃ p, deeds (.setUp p)) := by
  cases h with
  | apart happart => exact .inl (by rw [Wallet.kept, Wallet.kept, happart.storage])
  | approvals s hshelf hv =>
      rw [hv]
      rcases hshelf.slot_value with hsame | ⟨hsecret, hdeed⟩
      · exact .inl (kept_put (.inl hsame))
      · rcases eq_or_ne name w.config.storageKeys.approvals with hname | hother
        · exact .inr (.inl ⟨hsecret, .inl ⟨hname, hdeed⟩⟩)
        · exact .inl (kept_put (.inr hother))
  | connections s hshelf hv =>
      rw [hv]
      rcases hshelf.slot_value with hsame | ⟨hsecret, hdeed⟩
      · exact .inl (kept_put (.inl hsame))
      · rcases eq_or_ne name w.config.storageKeys.connections with hname | hother
        · exact .inr (.inl ⟨hsecret, .inr ⟨hname, hdeed⟩⟩)
        · exact .inl (kept_put (.inr hother))
  | lock l hlock hv =>
      -- The slot may be a registry's too, so it is told apart by its name and not by what is in it.
      rw [hv]
      rcases eq_or_ne name w.config.storageKeys.password with hname | hother
      · cases hlock with
        | still hsession hslot => exact .inl (kept_put (.inl hslot))
        | unlocked password verifier hdeed hlocked hverifier hsession hslot =>
            exact .inl (kept_put (.inl (congrArg Slot.value hslot)))
        | setUp password hdeed => exact .inr (.inr ⟨hname, password, hdeed⟩)
      · exact .inl (kept_put (.inr hother))
  | shut hdeed hv => exact .inl (by rw [hv]; rfl)

/-- While the session is left alone, a text changes only with the secret. -/
theorem Acts.kept_of_locked (h : Acts deeds w v) (hdeeds : ∀ d, deeds d → ¬ d.OfSession)
    (hlocked : w.core.session.secret = none) (name : String) : v.kept name = w.kept name := by
  induction h with
  | refl => rfl
  | tail hacts hact ih =>
      have hsession := Acts.session hacts hdeeds
      rcases hact.kept name with hsame | ⟨hsecret, _⟩ | ⟨_, p, hdeed⟩
      · exact hsame.trans ih
      · rw [hsession, hlocked] at hsecret
        cases hsecret
      · exact absurd trivial (hdeeds _ hdeed)

/-- While the registries are left alone, a text changes only where the password is set up. -/
theorem Acts.kept_of_session (h : Acts deeds w v) (hdeeds : ∀ d, deeds d → d.OfSession)
    (name : String) : v.kept name = w.kept name ∨
    (name = w.config.storageKeys.password ∧ ∃ p, deeds (.setUp p)) := by
  induction h with
  | refl => exact .inl rfl
  | tail hacts hact ih =>
      rcases hact.kept name with hsame | ⟨_, ⟨_, m, n, hdeed⟩ | ⟨_, m, n, hdeed⟩⟩ | hsets
      · rw [hsame]
        exact ih
      · exact (hdeeds _ hdeed).elim
      · exact (hdeeds _ hdeed).elim
      · rw [Acts.config hacts] at hsets
        exact .inr hsets

/-- What is no registry's changes only where the password is set up. -/
theorem Acts.kept_of_other (h : Acts deeds w v) {name : String}
    (ha : name ≠ w.config.storageKeys.approvals) (hc : name ≠ w.config.storageKeys.connections) :
    v.kept name = w.kept name ∨ ∃ p, deeds (.setUp p) := by
  induction h with
  | refl => exact .inl rfl
  | tail hacts hact ih =>
      rcases hact.kept name with hsame | ⟨_, ⟨hname, _⟩ | ⟨hname, _⟩⟩ | ⟨_, hsets⟩
      · rw [hsame]
        exact ih
      · rw [Acts.config hacts] at hname
        exact absurd hname ha
      · rw [Acts.config hacts] at hname
        exact absurd hname hc
      · exact .inr hsets

/-- Whoever does no harm leaves all slots as they are. -/
theorem Acts.kept_of_harmless (h : Acts Harmless w v) (name : String) :
    v.kept name = w.kept name := by
  rcases Acts.kept_of_session h (fun _ hnone => hnone.elim) name with hsame | ⟨_, _, hnone⟩
  · exact hsame
  · exact hnone.elim

/-- And so with the session. -/
theorem Acts.session_of_harmless (h : Acts Harmless w v) : v.core.session = w.core.session :=
  Acts.session h fun _ hnone => hnone.elim

end Wallet

end WalletTrust

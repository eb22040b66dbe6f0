import WalletTrust.Proofs.RunDeeds

/-!
# A Locked Wallet

What a wallet refuses while its session is locked.

The secret, the signal and the two registries go together: the signal follows the secret, and
without the secret nothing is loaded. Each act preserves that. So the first thing that a mutation of
a registry does, which is to load it or to borrow the secret, fails while the session is locked, and
whatever called it fails with it and has written nothing.

An operation that is refused need not leave the wallet as it is. A backup that is refused has had
its password checked, and a component of the host may have been given its data. What is the same is
the storage, and so that is what a refusal is said to keep.

Refusals are put together like operations: what would have come after a refusal does not come, and
what comes before it has to leave the storage alone.

## Main definitions

* `Wallet.Lockfast`: The signal follows the secret, and nothing is loaded without it.
* `Wallet.Refused`: An operation fails and leaves the storage as it is.
* `Call.Mutates`, `Waiting.Mutates`: The calls and the parts of flows that mutate a registry.

## Theorems

* `Wallet.Acts.lockfast`: Acts preserve it.
* `Wallet.perform_locked`, `Wallet.resume_locked`: A mutation fails while the session is locked.
* `Wallet.Refused.bind`, `Wallet.Refused.after`, `Wallet.Refused.ite`: Refusals in a sequence and in
  a choice.
* `Wallet.Locked.approve`, `Wallet.Locked.connectIdentity`, `Wallet.Locked.revoke`,
  `Wallet.Locked.uploadBackup`: The mutations, one by one.
* `Wallet.Outside.lockfast`: Nothing from outside reaches into memory.
-/

namespace WalletTrust

open Op (Within)

/-! ## Nothing is loaded without the secret -/

namespace Shelf

variable {α : Type} [Wire α] {label : ShelfLabel} {edits : OriginMap α → OriginMap α → Prop}
  {s t : Shelf α}

/-- Without a secret nothing is loaded, whatever is done. -/
theorem Act.unloaded (h : Act label none edits s t) (hs : s.entries = none) : t.entries = none := by
  cases h with
  | kept hentries hslot => rw [hentries, hs]
  | loaded key m hsecret => cases hsecret
  | edited key m next hsecret => cases hsecret
  | cleared key hsecret => cases hsecret

end Shelf

namespace Wallet

variable {α β : Type} {deeds : Deed → Prop} {written : String → Prop} {w v : Wallet}

/-- The session is locked and nothing is loaded. -/
structure Locked (w : Wallet) : Prop where
  secret : w.core.session.secret = none
  approvals : w.core.approvals = none
  connections : w.core.connections = none

/-- A wallet that is locked has a session that is. -/
theorem Locked.isUnlocked (h : w.Locked) : w.core.session.isUnlocked = false := by
  rw [Session.isUnlocked, h.secret]
  rfl

/-- The signal follows the secret, and nothing is loaded without it. -/
structure Lockfast (w : Wallet) : Prop where
  signal : w.core.session.signal = w.core.session.isUnlocked
  locked : w.core.session.secret = none → w.Locked

/-- A session that holds a secret has the signal that goes with it. -/
theorem lockfast_holding {password : String} (h : w.core.session = .holding password) :
    w.Lockfast where
  signal := by rw [h]; rfl
  locked hnone := by rw [h] at hnone; cases hnone

/-- Only the session and what is loaded matter. -/
theorem Lockfast.congr (h : w.Lockfast) (hsession : v.core.session = w.core.session)
    (ha : w.core.approvals = none → w.core.session.secret = none → v.core.approvals = none)
    (hc : w.core.connections = none → w.core.session.secret = none → v.core.connections = none) :
    v.Lockfast where
  signal := by rw [hsession]; exact h.signal
  locked hnone := by
    rw [hsession] at hnone
    have hw := h.locked hnone
    exact ⟨hsession ▸ hnone, ha hw.approvals hnone, hc hw.connections hnone⟩

/-- An act that takes the secret takes what was loaded with it. -/
theorem Act.lockfast (h : Act deeds w v) (hw : w.Lockfast) : v.Lockfast := by
  -- The secret comes and goes with its signal, and nothing is loaded by an act that lacks it.
  cases h with
  | apart happart =>
      exact hw.congr happart.session (fun h _ => happart.approvals.trans h)
        fun h _ => happart.connections.trans h
  | approvals s hshelf hv =>
      rw [hv]
      refine hw.congr rfl (fun hnone hlocked => ?_) fun hnone _ => hnone
      rw [hlocked] at hshelf
      exact hshelf.unloaded hnone
  | connections s hshelf hv =>
      rw [hv]
      refine hw.congr rfl (fun hnone _ => hnone) fun hnone hlocked => ?_
      rw [hlocked] at hshelf
      exact hshelf.unloaded hnone
  | lock l hlock hv =>
      rw [hv]
      cases hlock with
      | still hsession hslot => exact hw.congr hsession (fun h _ => h) fun h _ => h
      | unlocked password verifier hdeed hlocked hverifier hsession hslot =>
          exact lockfast_holding hsession
      | setUp password hdeed hempty hslot hsession =>
          split at hsession
          · exact hw.congr hsession (fun h _ => h) fun h _ => h
          · exact lockfast_holding hsession
  | shut hdeed hv =>
      rw [hv]
      exact ⟨rfl, fun _ => ⟨rfl, rfl, rfl⟩⟩

/-- By induction on the acts. -/
theorem Acts.lockfast (h : Acts deeds w v) (hw : w.Lockfast) : v.Lockfast := by
  induction h with
  | refl => exact hw
  | tail _ hact ih => exact hact.lockfast ih

/-- Nothing from outside reaches into memory. -/
theorem Outside.lockfast (h : w.Outside written v) (hw : w.Lockfast) : v.Lockfast :=
  hw.congr h.session (fun hnone _ => h.approvals.trans hnone)
    fun hnone _ => h.connections.trans hnone

/-- What is asked of a wallet of which nothing is loaded is answered as if nothing were trusted. -/
structure TrustsNobody (w : Wallet) : Prop where
  isApproved : ∀ origin, w.isApproved origin = false
  canSkipApprove : ∀ origin, w.canSkipApprove origin = false
  isConnected : ∀ origin, w.isConnected origin = false
  approvalEntries : w.approvalEntries = []
  connectionList : w.connectionList = []

/-- Where nothing is loaded, nobody is found. -/
theorem Locked.trustsNobody (h : w.Locked) : w.TrustsNobody where
  isApproved origin := by rw [Wallet.isApproved, permission?, h.approvals]; rfl
  canSkipApprove origin := by rw [Wallet.canSkipApprove, permission?, h.approvals]; rfl
  isConnected origin := by rw [Wallet.isConnected, connection?, h.connections]; rfl
  approvalEntries := by rw [Wallet.approvalEntries, h.approvals]; rfl
  connectionList := by rw [Wallet.connectionList, h.connections]; rfl

/-! ## Refusals -/

/-- An operation fails and leaves the storage as it is. -/
def Refused (x : Op Wallet α) (w : Wallet) : Prop :=
  ∃ e v, x w = (.error e, v) ∧ v.host.storage = w.host.storage

namespace Refused

variable {x : Op Wallet α}

/-- Who fails without having done anything is refused. -/
theorem of_unchanged {e : Error} (h : x w = (.error e, w)) : Refused x w :=
  ⟨e, w, h, rfl⟩

/-- What would have come after a refusal does not come. -/
theorem bind (h : Refused x w) (f : α → Op Wallet β) : Refused (x >>= f) w := by
  rcases h with ⟨e, v, hrun, hstorage⟩
  exact ⟨e, v, Op.bind_error hrun f, hstorage⟩

/-- What comes first leaves the storage as it is and, if it succeeds, what follows is refused. -/
theorem after {f : α → Op Wallet β} (hstorage : (x w).2.host.storage = w.host.storage)
    (h : ∀ a v, x w = (.ok a, v) → Refused (f a) v) : Refused (x >>= f) w := by
  rcases hrun : x w with ⟨outcome, v⟩
  rw [hrun] at hstorage
  cases outcome with
  | error e => exact ⟨e, v, Op.bind_error hrun f, hstorage⟩
  | ok a =>
      rcases h a v hrun with ⟨e, u, hrest, hsame⟩
      exact ⟨e, u, (Op.bind_ok hrun f).trans hrest, hsame.trans hstorage⟩

theorem mapError (h : Refused x w) (f : Error → Error) : Refused (x.mapError f) w := by
  rcases h with ⟨e, v, hrun, hstorage⟩
  exact ⟨f e, v, Op.mapError_of_error hrun f, hstorage⟩

/-- A choice is refused if each of its branches is. -/
theorem ite {c : Prop} [Decidable c] {y : Op Wallet α} (hx : c → Refused x w)
    (hy : ¬ c → Refused y w) : Refused (if c then x else y) w := by
  split
  · next h => exact hx h
  · next h => exact hy h

theorem fail (e : Error) : Refused (Op.fail e : Op Wallet α) w :=
  of_unchanged rfl

/-- What is checked before may end it, or the refusal comes afterwards. -/
theorem ofExcept {r : Except Error α} {f : α → Op Wallet β}
    (h : ∀ a, r = .ok a → Refused (f a) w) : Refused (Op.ofExcept r >>= f) w := by
  refine after rfl fun a v hrun => ?_
  rcases Prod.mk.inj hrun with ⟨hr, rfl⟩
  exact h a hr

theorem finish (h : Refused x w) (answer : α → Answer) : Refused (Wallet.finish answer x) w :=
  h.bind _

end Refused

/-- A registry that is not loaded refuses whatever has to borrow the secret. -/
theorem lendApprovals_refused {x : Option String → Op (Shelf HostPermission) α} {e : Error}
    (h : w.Locked) (hx : x none w.approvalShelf = (.error e, w.approvalShelf)) :
    Refused (secret >>= fun key => onApprovals (x key)) w := by
  have hrun : (secret >>= fun key => onApprovals (x key)) w = onApprovals (x none) w := by
    rw [← h.secret]
    rfl
  refine .of_unchanged (e := e) (hrun.trans ?_)
  rw [onApprovals_apply, hx, putApprovals_self]

/-- A shelf that is lent no secret refuses, and so does whoever lends it none. -/
theorem lendConnections_refused {x : Option String → Op (Shelf ConnectedIdentity) α} {e : Error}
    (h : w.Locked) (hx : x none w.connectionShelf = (.error e, w.connectionShelf)) :
    Refused (secret >>= fun key => onConnections (x key)) w := by
  have hrun : (secret >>= fun key => onConnections (x key)) w = onConnections (x none) w := by
    rw [← h.secret]
    rfl
  refine .of_unchanged (e := e) (hrun.trans ?_)
  rw [onConnections_apply, hx, putConnections_self]

/-- An operation on the lock that is no deed keeps what is in memory and what is stored. -/
theorem onLock_same {x : Op SessionLock α} (hx : SessionLock.Still x) (w : Wallet) :
    (onLock x w).2.core = w.core ∧ (onLock x w).2.host.storage = w.host.storage := by
  have hstill := hx w.lock
  rcases Prod.mk.inj hstill with ⟨hsession, hslot⟩
  have hcore : (onLock x w).2.core = { w.core with session := (x w.lock).2.session } := rfl
  have hstorage : (onLock x w).2.host.storage =
    w.host.storage.put w.config.storageKeys.password (x w.lock).2.verifier := rfl
  rw [hcore, hstorage, hsession, hslot]
  exact ⟨rfl, Storage.put_slot _ _⟩

/-- A file that is uploaded holds data for a registry. -/
def Restores (w : Wallet) (upload : UploadBackup) : Prop :=
  ∃ json file c data, BackupFile.decodeContent upload.content = .ok json ∧
    BackupFile.ofText? json = some file ∧ c ∈ w.core.components ∧
    (c = .approvals ∨ c = .connections) ∧ Assoc.lookup c.key file = some (some data)

/-! ## The mutations -/

namespace Locked

theorem loadApprovals (h : w.Locked) : Refused loadApprovals w :=
  lendApprovals_refused h (Shelf.load_locked h.approvals)

theorem loadConnections (h : w.Locked) : Refused loadConnections w :=
  lendConnections_refused h (Shelf.load_locked h.connections)

/-- No origin is approved while the session is locked. The slot is not written. -/
theorem approve (h : w.Locked) (entry : ApprovalEntry) : Refused (approve entry) w := by
  unfold Wallet.approve
  refine .ite (fun _ => ?_) fun _ => ?_
  · exact .fail _
  · exact Refused.bind
      (x := Wallet.secret >>= fun key => onApprovals (Shelf.upsert _ key entry.origin _))
      (lendApprovals_refused h (Shelf.upsert_locked _ _ h.approvals)) _

/-- Nor is the flag of one that was approved changed. -/
theorem setPermission (h : w.Locked) (origin : String) (flag : Bool) :
    Refused (setPermission origin flag) w := by
  unfold Wallet.setPermission
  refine .ite (fun _ => ?_) fun _ => ?_
  · exact .fail _
  · exact h.loadApprovals.bind _

-- There is no load before it here: without the secret the removal itself cannot load the map.
theorem unapprove (h : w.Locked) (origin : String) : Refused (unapprove origin) w :=
  Refused.bind (x := Wallet.secret >>= fun key => onApprovals (Shelf.remove _ key origin))
    (lendApprovals_refused h (Shelf.remove_locked _ h.approvals)) _

theorem clearApprovals (h : w.Locked) : Refused clearApprovals w :=
  lendApprovals_refused (e := .notProvided) h rfl

/-- No origin is connected. -/
theorem connectIdentity (h : w.Locked) (commitment origin : String) :
    Refused (connectIdentity commitment origin) w := by
  unfold Wallet.connectIdentity
  refine .ite (fun _ => ?_) fun _ => ?_
  · exact .fail _
  · refine .after rfl fun found v hrun => ?_
    rcases (Prod.mk.inj hrun).2
    cases found with
    | none => exact (Refused.fail _).bind _
    | some i =>
        exact Refused.bind
          (x := Wallet.secret >>= fun key => onConnections (Shelf.upsert _ key origin _))
          (lendConnections_refused h (Shelf.upsert_locked _ _ h.connections)) _

/-- None is disconnected either: the connections cannot even be looked at. -/
theorem disconnect (h : w.Locked) (target : String) : Refused (disconnect target) w := by
  unfold Wallet.disconnect
  refine .ite (fun _ => ?_) fun _ => ?_
  · exact .fail _
  · exact h.loadConnections.bind _

theorem clearConnections (h : w.Locked) : Refused clearConnections w :=
  h.loadConnections.bind _

/-- Revoking fails at its first step, which is to take back the approval. -/
theorem revoke (h : w.Locked) (origin : String) : Refused (revoke origin) w := by
  unfold Wallet.revoke
  refine .ite (fun _ => ?_) fun _ => ?_
  · exact .fail _
  · exact (h.unapprove origin).bind _

/-- A backup of a registry is refused. -/
theorem uploadComponent (h : w.Locked) {c : BackupComponent}
    (hc : c = .approvals ∨ c = .connections) (blob password : String) :
    Refused (uploadComponent c blob password) w := by
  rcases hc with rfl | rfl
  · rcases Shelf.uploadBackup_locked approvalsLabel blob password
      (show w.approvalShelf.entries = none from h.approvals) with ⟨e, hrun⟩
    exact lendApprovals_refused (x := fun key => Shelf.uploadBackup _ key blob password) h hrun
  · rcases Shelf.uploadBackup_locked connectionsLabel blob password
      (show w.connectionShelf.entries = none from h.connections) with ⟨e, hrun⟩
    exact lendConnections_refused (x := fun key => Shelf.uploadBackup _ key blob password) h hrun

/-- What is in memory is what matters. -/
theorem of_core (h : w.Locked) (hcore : v.core = w.core) : v.Locked := by
  exact ⟨by rw [hcore]; exact h.secret, by rw [hcore]; exact h.approvals,
    by rw [hcore]; exact h.connections⟩

/-- Giving a component of the host its backup changes nothing of the wallet. -/
theorem uploadForeign_same {c : BackupComponent} (hc : ¬ (c = .approvals ∨ c = .connections))
    (blob password : String) (w : Wallet) :
    (Wallet.uploadComponent c blob password w).2.core = w.core ∧
      (Wallet.uploadComponent c blob password w).2.host.storage = w.host.storage := by
  rcases c with _ | _ | ⟨key, held, refuses⟩
  · exact absurd (.inl rfl) hc
  · exact absurd (.inr rfl) hc
  · cases refuses with
    | true => exact ⟨rfl, rfl⟩
    | false => exact ⟨rfl, rfl⟩

/-- Restoring is refused if it comes to data for a registry. -/
theorem restore (h : w.Locked) {file : BackupFile} {c : BackupComponent} {data : String}
    {components : List BackupComponent} (hmem : c ∈ components)
    (hc : c = .approvals ∨ c = .connections) (hdata : Assoc.lookup c.key file = some (some data))
    (password : String) : Refused (restore file password components) w := by
  -- The wallet changes with every component before that one, though not in what matters.
  induction components generalizing w with
  | nil => cases hmem
  | cons head rest ih =>
      rw [Wallet.restore]
      split
      · next found hfound =>
        by_cases hhead : head = .approvals ∨ head = .connections
        · exact (h.uploadComponent hhead _ _).bind _
        · -- A component of the host takes its backup and changes nothing of the wallet.
          have hrest : c ∈ rest := (List.mem_cons.1 hmem).resolve_left fun hsame =>
            hhead (hsame ▸ hc)
          rcases uploadForeign_same hhead found password w with ⟨hcore, hstorage⟩
          refine .after hstorage fun _ v hrun => ih (h.of_core ?_) hrest
          rw [← hcore, hrun]
      · next hnone =>
        have hrest : c ∈ rest := (List.mem_cons.1 hmem).resolve_left fun hsame =>
          hnone data (hsame ▸ hdata)
        exact ih h hrest

/-- A file that holds data for a registry is refused. -/
theorem uploadBackup (h : w.Locked) {upload : UploadBackup} (hrestores : w.Restores upload) :
    Refused (uploadBackup upload) w := by
  rcases hrestores with ⟨json, file, c, data, hcontent, hfile, hmem, hc, hdata⟩
  rcases onLock_same (SessionLock.isAuthentic_still upload.password) w with ⟨hcore, hstorage⟩
  refine .after hstorage fun _ v hrun => ?_
  rw [hrun] at hcore
  refine .ofExcept fun text htext => ?_
  rcases Except.ok.inj (hcontent.symm.trans htext)
  rw [hfile]
  refine .ite (fun _ => ?_) fun _ => ?_
  · refine (h.of_core hcore).restore (c := c) ?_ hc hdata _
    rw [hcore]
    exact hmem
  · exact .fail _

/-- An answer that comes when the session has been locked approves nobody. -/
theorem approvalAnswered (h : w.Locked) (origin : String) (changeIdentity : Bool)
    (outcome : Except Error Json) :
    Refused (approvalAnswered origin changeIdentity outcome) w :=
  .ofExcept fun _ _ => .ofExcept fun _ _ => (h.approve _).bind _

/-- Nor does it connect anybody. -/
theorem choiceAnswered (h : w.Locked) (origin : String) (outcome : Except Error Json) :
    Refused (choiceAnswered origin outcome) w := by
  refine .ofExcept fun _ _ => .ofExcept fun choice _ => ?_
  rcases chosenCommitment_cases choice w with ⟨e, hrun⟩ | ⟨commitment, hrun, _⟩
  · exact (Refused.of_unchanged hrun).bind _
  · refine .after (by rw [hrun]) fun a v hsame => ?_
    rcases (Prod.mk.inj (hrun.symm.trans hsame)).2
    exact (h.connectIdentity a origin).bind _

end Locked

end Wallet

/-- A call that mutates a registry; one that restores a file does if there is data for one. -/
def Call.Mutates (w : Wallet) : Call → Prop
  | .approve _ => True
  | .setPermission _ _ => True
  | .unapprove _ => True
  | .clearApprovals => True
  | .connectIdentity _ _ => True
  | .disconnect _ => True
  | .clearConnections => True
  | .revoke _ => True
  | .uploadBackup upload => w.Restores upload
  | .uploadComponent c _ _ => c = .approvals ∨ c = .connections
  | _ => False

/-- A part of a flow that mutates a registry, with the answer that it has waited for. -/
def Waiting.Mutates (w : Wallet) (on : Waiting) : Prop :=
  ∃ id channel errand, on.asked? = some (id, channel, errand) ∧ errand.Connects ∧
    (w.core.queue.answer? channel).isSome

namespace Wallet

variable {w v : Wallet} {on next : Waiting} {origin : String} {changeIdentity : Bool}

/-- A call that mutates a registry fails while the session is locked, and writes nothing. -/
theorem perform_locked {call : Call} (hcall : call.Mutates w) (h : w.Locked) :
    Refused (perform call) w := by
  cases call with
  | approve entry => exact (h.approve entry).finish _
  | setPermission origin flag => exact (h.setPermission origin flag).finish _
  | unapprove origin => exact (h.unapprove origin).finish _
  | clearApprovals => exact h.clearApprovals.finish _
  | connectIdentity commitment origin => exact (h.connectIdentity commitment origin).finish _
  | disconnect target => exact (h.disconnect target).finish _
  | clearConnections => exact h.clearConnections.finish _
  | revoke origin => exact (h.revoke origin).finish _
  | uploadBackup upload => exact (h.uploadBackup hcall).finish _
  | uploadComponent c blob password => exact (h.uploadComponent hcall blob password).finish _
  | _ => exact hcall.elim

/-- Whatever errand connects is refused. -/
theorem fulfil_locked {errand : Errand} (hconnects : errand.Connects) (h : w.Locked) (id : UInt64)
    (outcome : Except Error Json) : Refused (fulfil id errand outcome) w := by
  cases errand with
  | approval origin changeIdentity => exact h.approvalAnswered origin changeIdentity outcome
  | identityChoice origin => exact h.choiceAnswered origin outcome
  | _ => exact hconnects.elim

/-- A part of a flow that mutates a registry fails while the session is locked. -/
theorem resume_locked (hmutates : on.Mutates w) (h : w.Locked) : Refused (resume on) w := by
  rcases hmutates with ⟨id, channel, errand, hasked, hconnects, hanswered⟩
  refine Refused.mapError ?_ _
  rcases goOn_looks hasked w with ⟨e, v, hrun, happart, _⟩ | ⟨v, hrun, happart, _, _, hanswers⟩
  · exact ⟨e, v, hrun, happart.storage⟩
  · -- A window that has come up does not unlock the session.
    rcases Option.isSome_iff_exists.1 hanswered with ⟨outcome, hanswer⟩
    have hv : v.Locked := ⟨by rw [happart.session]; exact h.secret,
      happart.approvals.trans h.approvals, happart.connections.trans h.connections⟩
    rcases fulfil_locked hconnects hv id outcome with ⟨e, u, hfulfil, hstorage⟩
    refine ⟨e, u, ?_, hstorage.trans happart.storage⟩
    rw [hrun, awaitAnswer_some ((hanswers channel).trans hanswer), hfulfil]

end Wallet

end WalletTrust

import WalletTrust.Proofs.Linking
import WalletTrust.Proofs.RunDeeds

/-!
# Which Slots Are Written To

The steps of a connect request as equations, with the slots that each step writes to.

`Deeds` says which maps an operation may leave behind. For a connect request this is not enough:
where nothing is to be written, the slot must not even be tried. So the slots that are tried are
counted apart from those that hold another text afterwards. A write that is refused for its size
tells the two apart.

The steps are taken with the session unlocked and both registries loaded, and then there is nothing
left to load. What is looked up for the choice of an identity comes to one lookup, whether the
identity is named or the selected one is meant.

That a step touches some slots is a statement about the whole storage: all other slots hold what
they held and have been tried as often. So the statements about several steps are put together by
joining the lists of slots, and a step that has nothing to write has two empty lists.

## Main definitions

* `Wallet.Touches`: Only some slots are tried, and only some hold another text.
* `IdentityBook.chosen`: The identity that a choice means.

## Theorems

* `Shelf.upsert_room`: Setting a value is a matter of room.
* `Wallet.connect_unlocked`, `Wallet.seekApproval_known`, `Wallet.seekApproval_unknown`,
  `Wallet.chooseIdentity_kept`, `Wallet.chooseIdentity_asks`: What a connect request begins with.
* `Wallet.approvalAnswered_decoded`, `Wallet.approve_room`, `Wallet.choiceAnswered_decoded`,
  `Wallet.choiceAnswered_room`: What its answers lead to.
* `Wallet.undergo_touches`: What comes from outside without writing.
* `Wallet.touches_rewritten`, `Wallet.touches_refused`: A write that is taken, and one that is
  refused.
* `Shelf.not_hasRoom`: What is sealed is not empty, so where nothing may be written there is no
  room.
* `Wallet.loadRegistries_again`: There is nothing to load where both registries are loaded.
* `Wallet.find?_commitment`: An identity that is found is found again by its commitment.
-/

namespace WalletTrust

namespace Shelf

variable {α : Type} [Wire α] {label : ShelfLabel} {key origin : String} {m : OriginMap α} {v : α}
  {s : Shelf α}

/-- Setting a value in a map that is loaded is a matter of room. -/
theorem upsert_room [DecidableEq α] (label : ShelfLabel) (key origin : String) (v : α)
    (h : s.entries = some m) :
    ((m.get? origin = some v ∨ s.HasRoom label key (m.insert origin v)) ∧
      ∃ b t, upsert label (some key) origin v s = (.ok b, t) ∧
        t.entries = some (m.insert origin v)) ∨
    (¬ s.HasRoom label key (m.insert origin v) ∧
      ∃ t, upsert label (some key) origin v s = (.error (.storageWrite "quota exceeded"), t) ∧
        t.entries = some m ∧ t.slot.value = s.slot.value) := by
  rw [upsert_loaded label (some key) h]
  split
  · next hsame =>
    -- The value is there already, and setting it again leaves the map as it is.
    have hinsert : m.insert origin v = m := by
      simp only [OriginMap.insert, Assoc.insert_of_lookup m.sorted hsame]
    exact .inl ⟨.inl hsame, false, s, rfl, by rw [h, hinsert]⟩
  · by_cases hroom : s.HasRoom label key (m.insert origin v)
    · exact .inl ⟨.inr hroom, true, _, Op.bind_ok (commit_fits hroom) _, rfl⟩
    · exact .inr ⟨hroom, _, Op.bind_error (commit_full hroom) _, h, rfl⟩

/-- What is sealed is not empty, so where nothing may be written there is no room. -/
theorem not_hasRoom (label : ShelfLabel) (key : String) (m : OriginMap α)
    (h : s.slot.quota = some 0) : ¬ s.HasRoom label key m := by
  intro hroom
  rw [HasRoom, Slot.admits, h] at hroom
  have hempty := Nat.le_zero.1 (of_decide_eq_true hroom)
  rw [String.utf8ByteSize_eq_zero_iff] at hempty
  have hopens := SealedText.open_sealFresh m.text key label.purpose s.entropy
  rw [hempty] at hopens
  cases hopens

end Shelf

/-- The identity that a choice means: the one that it names, or else the selected one. -/
def IdentityBook.chosen (b : IdentityBook) (choice : IdentityChoice) : Except Error Identity :=
  if b.available then
    ((choice.commitment.or b.selected).bind b.find?).elim (.error .identityMissing) .ok
  else .error (.internal "identity store unavailable")

/-- What is kept of an identity that an origin is connected to. -/
def Identity.connected (i : Identity) : ConnectedIdentity :=
  { commitment := i.commitment, name := i.name }

namespace Wallet

variable {w v u : Wallet} {origin key : String} {changeIdentity : Bool}
  {a : OriginMap HostPermission} {c : OriginMap ConnectedIdentity}
  {tried written tried' written' : List String}

/-! ## Slots -/

/-- The session is as it was, only some slots are tried, and only some hold another text. -/
structure Touches (tried written : List String) (w v : Wallet) : Prop where
  config : v.config = w.config
  session : v.core.session = w.core.session
  sets : ∀ name ∉ tried, (v.host.storage.slot name).sets = (w.host.storage.slot name).sets
  kept : ∀ name ∉ written, v.kept name = w.kept name

/-- Who leaves the storage alone touches no slot. -/
theorem Touches.of_apart (h : w.Apart v) : Touches [] [] w v where
  config := h.config
  session := h.session
  sets _ _ := by rw [h.storage]
  kept _ _ := by rw [Wallet.kept, Wallet.kept, h.storage]

/-- Two steps touch what the one touches and what the other does. -/
theorem Touches.trans (h : Touches tried written w v) (k : Touches tried' written' v u) :
    Touches (tried ++ tried') (written ++ written') w u where
  config := k.config.trans h.config
  session := k.session.trans h.session
  sets name hname := by
    rw [List.mem_append, not_or] at hname
    exact (k.sets name hname.2).trans (h.sets name hname.1)
  kept name hname := by
    rw [List.mem_append, not_or] at hname
    exact (k.kept name hname.2).trans (h.kept name hname.1)

/-- It is no error to name more slots than are touched. -/
theorem Touches.mono (h : Touches tried written w v) (htried : tried ⊆ tried')
    (hwritten : written ⊆ written') : Touches tried' written' w v where
  config := h.config
  session := h.session
  sets name hname := h.sets name fun hmem => hname (htried hmem)
  kept name hname := h.kept name fun hmem => hname (hwritten hmem)

/-- Whoever writes to a slot touches that slot. -/
theorem touches_rewritten (name : String) (slot : Slot) (entropy : Entropy)
    (a : Option (OriginMap HostPermission)) (c : Option (OriginMap ConnectedIdentity))
    (w : Wallet) : Touches [name] [name] w (w.rewritten name slot entropy a c) where
  config := rfl
  session := rfl
  sets _ hname := congrArg Slot.sets (Storage.slot_put_of_ne (List.ne_of_not_mem_cons hname) _ _)
  kept _ hname := kept_put (.inr (List.ne_of_not_mem_cons hname))

/-- A slot that is tried and keeps its text holds no other. -/
theorem Touches.unwritten {name : String} (h : Touches tried [name] w v)
    (hkept : v.kept name = w.kept name) : Touches tried [] w v where
  config := h.config
  session := h.session
  sets := h.sets
  kept other _ := by
    by_cases hother : other = name
    · rw [hother, hkept]
    · exact h.kept other fun hmem => hother (List.mem_singleton.1 hmem)

/-- If the write is refused, the slot is tried and nothing is written. -/
theorem touches_refused {name : String} {slot : Slot} {entropy : Entropy}
    {a : Option (OriginMap HostPermission)} {c : Option (OriginMap ConnectedIdentity)}
    (h : slot.value = w.kept name) : Touches [name] [] w (w.rewritten name slot entropy a c) :=
  (touches_rewritten name slot entropy a c w).unwritten
    ((congrArg Slot.value (Storage.slot_put_self _ _ _)).trans h)

/-- A change of the approvals touches their slot at most. -/
theorem putApprovals_touches (s : Shelf HostPermission) (w : Wallet) :
    Touches [w.config.storageKeys.approvals] [w.config.storageKeys.approvals] w
      (w.putApprovals s) :=
  touches_rewritten _ _ _ _ _ w

theorem putConnections_touches (s : Shelf ConnectedIdentity) (w : Wallet) :
    Touches [w.config.storageKeys.connections] [w.config.storageKeys.connections] w
      (w.putConnections s) :=
  touches_rewritten _ _ _ _ _ w

/-- If their text is the same after that, it was not written. -/
theorem putApprovals_refused {s : Shelf HostPermission}
    (h : s.slot.value = w.approvalShelf.slot.value) :
    Touches [w.config.storageKeys.approvals] [] w (w.putApprovals s) :=
  touches_refused h

theorem putConnections_refused {s : Shelf ConnectedIdentity}
    (h : s.slot.value = w.connectionShelf.slot.value) :
    Touches [w.config.storageKeys.connections] [] w (w.putConnections s) :=
  touches_refused h

theorem onSlot_touches (slot : String) {f : Slot → Slot}
    (h : ∀ s, (f s).value = s.value ∧ (f s).sets = s.sets) (w : Wallet) :
    Touches [] [] w (onSlot slot (Op.modify f) w).2 where
  config := rfl
  session := rfl
  sets name _ := by
    have hput : ((onSlot slot (Op.modify f) w).2.host.storage.slot name) =
      (w.host.storage.put slot (f (w.host.storage.slot slot))).slot name := rfl
    rw [hput]
    by_cases hname : name = slot
    · rw [hname, Storage.slot_put_self, (h _).2]
    · rw [Storage.slot_put_of_ne hname]
  kept name _ := kept_put (.inl (h _).1)

/-- What comes from outside and writes nothing touches no slot. -/
theorem undergo_touches {action : HostAction} (h : ∀ name, ¬ action.Writes name) (w : Wallet) :
    Touches [] [] w (undergo action w).2 := by
  have hapart {f : Host → Host} (h : ∀ host, (f host).storage = host.storage) :
      Touches [] [] w (onHost f w).2 := .of_apart ⟨rfl, h w.host, rfl, rfl, rfl⟩
  -- Limits and faults of a slot are no writes, and the rest does not get at slots.
  cases action with
  | setFault part broken =>
      refine hapart fun host => ?_
      cases part with
      | _ => rfl
  | setReadable slot readable =>
      exact onSlot_touches slot (f := fun s => { s with readable }) (fun _ => ⟨rfl, rfl⟩) w
  | setClearable slot clearable =>
      exact onSlot_touches slot (f := fun s => { s with clearable }) (fun _ => ⟨rfl, rfl⟩) w
  | setQuota slot bytes =>
      exact onSlot_touches slot (f := fun s => { s with quota := bytes }) (fun _ => ⟨rfl, rfl⟩) w
  | write slot value => exact absurd rfl (h slot)
  | writeSealed slot plain secret purpose => exact absurd rfl (h slot)
  | erase slot => exact absurd rfl (h slot)
  | useProver prover =>
      refine hapart fun host => ?_
      rw [Host.useProver]
      split
      · rfl
      · rfl
  | useSandbox sandbox =>
      refine hapart fun host => ?_
      rw [Host.useSandbox]
      split
      · rfl
      · rfl
  | _ => exact .of_apart ⟨rfl, rfl, rfl, rfl, rfl⟩

/-- The window that has come is not the reason why another fails to. -/
theorem settled_opened {on : Waiting} {cause : Error}
    (h : (on.settled w).host.desktop.opened = .error cause) :
    w.host.desktop.opened = .error cause := by
  cases on with
  | window id channel ticket errand =>
      exact Desktop.opened_error (Desk.completeOpening_obstacles id
        { queue := w.core.queue, desktop := w.host.desktop }) h
  | _ => exact h

/-- The window is no affair of the registries. -/
theorem settled_shelves (on : Waiting) (w : Wallet) :
    (on.settled w).approvalShelf = w.approvalShelf ∧
      (on.settled w).connectionShelf = w.connectionShelf := by
  cases on with
  | _ => exact ⟨rfl, rfl⟩

/-! ## The beginning -/

/-- There is nothing to load where both registries are loaded. -/
theorem loadRegistries_again (ha : w.core.approvals = some a) (hc : w.core.connections = some c) :
    loadRegistries w = (.ok (), w) := by
  have happrovals : loadApprovals w = (.ok (), w) := by
    rw [loadApprovals, Op.bind_ok (x := secret) rfl, onApprovals_apply,
      Shelf.load_loaded (s := w.approvalShelf) _ ha, putApprovals_self]
  rw [loadRegistries, Op.bind_ok happrovals, loadConnections, Op.bind_ok (x := secret) rfl,
    onConnections_apply, Shelf.load_loaded (s := w.connectionShelf) _ hc, putConnections_self]

/-- With the session unlocked and the registries loaded, the request comes to its first question at
once. -/
theorem connect_unlocked (horigin : origin ≠ "") (hunlocked : w.core.session.isUnlocked = true)
    (ha : w.core.approvals = some a) (hc : w.core.connections = some c) (changeIdentity : Bool) :
    connect origin changeIdentity w =
      (seekApproval origin changeIdentity).mapError .ofConnect w := by
  have hstart : startConnect origin changeIdentity w = seekApproval origin changeIdentity w := by
    rw [startConnect, if_neg horigin, Op.bind_ok (x := Op.get) rfl, if_pos hunlocked,
      Op.bind_ok (loadRegistries_again ha hc)]
  rw [connect, Op.mapError, Op.mapError, hstart]

/-- A page that is approved is not asked about again. -/
theorem seekApproval_known (horigin : origin ≠ "") (h : w.isApproved origin = true)
    (changeIdentity : Bool) :
    seekApproval origin changeIdentity w = chooseIdentity origin changeIdentity w := by
  rw [seekApproval, Op.bind_ok (x := Op.get) rfl, if_pos h, Op.bind_ok (approve_again horigin h)]

/-- Any other is. -/
theorem seekApproval_unknown (h : w.isApproved origin = false) (changeIdentity : Bool) :
    seekApproval origin changeIdentity w =
      ask .approve (originPayload origin) (.approval origin changeIdentity) w := by
  rw [seekApproval, Op.bind_ok (x := Op.get) rfl, if_neg (by rw [h]; exact Bool.false_ne_true)]

theorem connection?_of_get? (hc : w.core.connections = some c) (origin : String) :
    w.connection? origin = (c.get? origin).map (Connection.of origin) := by
  rw [connection?, hc, Option.bind_some]

/-- A page that is connected keeps its identity, unless another is to be chosen. -/
theorem chooseIdentity_kept {i : ConnectedIdentity} (hc : w.core.connections = some c)
    (hget : c.get? origin = some i) :
    chooseIdentity origin false w = (.ok (.finished (.connection (some (.of origin i)))), w) := by
  have hconnection := connection?_of_get? hc origin
  rw [hget] at hconnection
  rw [chooseIdentity, Op.bind_ok (x := Op.get) rfl, hconnection]
  rfl

/-- Without a connection, or to change it, the user is asked for an identity. -/
theorem chooseIdentity_asks (hc : w.core.connections = some c)
    (h : changeIdentity = true ∨ c.get? origin = none) : chooseIdentity origin changeIdentity w =
      ask .connectIdentity (originPayload origin) (.identityChoice origin) w := by
  have hconnection := connection?_of_get? hc origin
  rw [chooseIdentity, Op.bind_ok (x := Op.get) rfl, hconnection]
  rcases h with rfl | hnone
  · cases c.get? origin with
    | none => rfl
    | some i => rfl
  · rw [hnone]
    rfl

/-! ## The answers -/

/-- An origin is approved if there is room. -/
theorem approve_room (p : HostPermission) (horigin : origin ≠ "")
    (hkey : w.core.session.secret = some key) (ha : w.core.approvals = some a)
    (habsent : a.get? origin = none) :
    (w.approvalShelf.HasRoom approvalsLabel key (a.insert origin p) ∧
      ∃ s, approve { origin, canSkipApprove := p.canSkipApprove } w =
          (.ok (), w.putApprovals s) ∧ s.entries = some (a.insert origin p)) ∨
    (¬ w.approvalShelf.HasRoom approvalsLabel key (a.insert origin p) ∧
      ∃ s, approve { origin, canSkipApprove := p.canSkipApprove } w =
          (.error (.storageWrite "quota exceeded"), w.putApprovals s) ∧
        s.entries = some a ∧ s.slot.value = w.approvalShelf.slot.value) := by
  have hsecret : secret w = (.ok (some key), w) := by rw [← hkey]; rfl
  rw [approve, if_neg horigin, Op.bind_ok hsecret]
  rcases Shelf.upsert_room approvalsLabel key origin p (s := w.approvalShelf) ha with
    ⟨hroom, b, s, hrun, hentries⟩ | ⟨hfull, s, hrun, hkept⟩
  · have hput : onApprovals (Shelf.upsert approvalsLabel (some key) origin p) w =
        (.ok b, w.putApprovals s) := by rw [onApprovals_apply, hrun]
    -- The origin was not approved, so it is for the room that the write succeeds.
    have hnew : a.get? origin ≠ some p := fun hsame => by cases habsent.symm.trans hsame
    exact .inl ⟨hroom.resolve_left hnew, s, by rw [Op.bind_ok hput, Op.pure_apply], hentries⟩
  · have hput : onApprovals (Shelf.upsert approvalsLabel (some key) origin p) w =
        (.error (.storageWrite "quota exceeded"), w.putApprovals s) := by
      rw [onApprovals_apply, hrun]
    exact .inr ⟨hfull, s, Op.bind_error hput _, hkept⟩

/-- An answer that cannot be decoded approves nobody. -/
theorem approvalAnswered_malformed {data : Json} {e : Error}
    (h : (decodeData {} data : Except Error HostPermission) = .error e) :
    approvalAnswered origin changeIdentity (.ok data) w = (.error e, w) := by
  rw [approvalAnswered, Op.bind_ok (x := Op.ofExcept (.ok data)) rfl, h]
  rfl

/-- What an acceptance says is what the origin is approved with. -/
theorem approvalAnswered_decoded (origin : String) (changeIdentity : Bool) {data : Json}
    {p : HostPermission} (h : decodeData {} data = .ok p) (w : Wallet) :
    approvalAnswered origin changeIdentity (.ok data) w =
      (approve { origin, canSkipApprove := p.canSkipApprove } >>= fun _ =>
        chooseIdentity origin changeIdentity) w := by
  rw [approvalAnswered, Op.bind_ok (x := Op.ofExcept (.ok data)) rfl, h]
  rfl

/-- An identity that is found is found again by its commitment. -/
theorem find?_commitment {b : IdentityBook} {commitment : String} {found : Identity}
    (h : b.find? commitment = some found) : b.find? found.commitment = some found := by
  rw [commitment_of_find? h, h]

/-- Whatever is looked up for a choice comes to one lookup. -/
theorem chosen_apply (choice : IdentityChoice) (w : Wallet) :
    (do Op.ofOption .identityMissing (← identity (← chosenCommitment choice)) : Op Wallet Identity)
      w = (w.host.identities.chosen choice, w) := by
  have hidentity (commitment : String) :
      identity commitment w = (w.host.identities.lookup commitment, w) := rfl
  have hselected : selectedIdentity w = (w.host.identities.lookupSelected, w) := rfl
  simp only [IdentityBook.lookup, IdentityBook.lookupSelected] at hidentity hselected
  rw [IdentityBook.chosen]
  -- Every lookup asks first whether the store answers, so this is decided once for all of them.
  by_cases havailable : w.host.identities.available = true
  · simp only [if_pos havailable] at hidentity hselected ⊢
    rcases choice with ⟨_ | commitment⟩
    · rw [chosenCommitment, Option.none_or, Op.bind_assoc, Op.bind_ok hselected]
      rcases hfound : w.host.identities.selected.bind w.host.identities.find? with _ | found
      · rfl
      · -- The selected identity is looked up again by the commitment that it was found by.
        rcases Option.bind_eq_some_iff.1 hfound with ⟨commitment, _, hfind⟩
        have hagain := hidentity found.commitment
        rw [find?_commitment hfind] at hagain
        exact Op.bind_ok hagain _
    · exact (Op.bind_ok (hidentity commitment) _).trans (Op.ofOption_apply _ _ w)
  · simp only [if_neg havailable] at hidentity hselected ⊢
    rcases choice with ⟨_ | commitment⟩
    · rw [chosenCommitment, Op.bind_assoc]
      exact Op.bind_error hselected _
    · exact Op.bind_error (hidentity commitment) _

/-- And chooses nothing. -/
theorem choiceAnswered_malformed {data : Json} {e : Error}
    (h : (decodeData {} data : Except Error IdentityChoice) = .error e) :
    choiceAnswered origin (.ok data) w = (.error e, w) := by
  rw [choiceAnswered, Op.bind_ok (x := Op.ofExcept (.ok data)) rfl, h]
  rfl

/-- The origin is connected to the identity that is chosen. -/
theorem choiceAnswered_decoded {data : Json} {choice : IdentityChoice} (horigin : origin ≠ "")
    (h : decodeData {} data = .ok choice) : choiceAnswered origin (.ok data) w = (do
      let found ← Op.ofExcept (w.host.identities.chosen choice)
      let _ ← onConnections (Shelf.upsert connectionsLabel (← secret) origin found.connected)
      notify origin (.connect found.name)
      return .finished (.connection (some (.of origin found.connected))) :
        Op Wallet Progress) w := by
  have hchosen : (do
      Op.ofOption .identityMissing (← identity (← chosenCommitment choice)) :
        Op Wallet Identity) w = Op.ofExcept (w.host.identities.chosen choice) w :=
    chosen_apply choice w
  refine Eq.trans ?_ (Op.bind_congr hchosen _)
  rw [choiceAnswered, Op.bind_ok (x := Op.ofExcept (.ok data)) rfl, h,
    Op.bind_ok (x := Op.ofExcept (.ok choice)) rfl]
  -- Both sides now look up, write and tell in the same order, and only the brackets differ.
  simp only [connectIdentity, if_neg horigin, Op.bind_assoc]
  rfl

/-- Nor does one that names an identity that is not to be found. -/
theorem choiceAnswered_unfound {data : Json} {choice : IdentityChoice} {e : Error}
    (horigin : origin ≠ "") (h : decodeData {} data = .ok choice)
    (hchosen : w.host.identities.chosen choice = .error e) :
    choiceAnswered origin (.ok data) w = (.error e, w) := by
  rw [choiceAnswered_decoded horigin h, hchosen]
  rfl

/-- The identity that is chosen replaces any other, if there is room. -/
theorem choiceAnswered_room {data : Json} {choice : IdentityChoice} {found : Identity}
    (horigin : origin ≠ "") (hkey : w.core.session.secret = some key)
    (hc : w.core.connections = some c) (h : decodeData {} data = .ok choice)
    (hchosen : w.host.identities.chosen choice = .ok found) :
    ((c.get? origin = some found.connected ∨
        w.connectionShelf.HasRoom connectionsLabel key (c.insert origin found.connected)) ∧
      ∃ s v, choiceAnswered origin (.ok data) w =
          (.ok (.finished (.connection (some (.of origin found.connected)))), v) ∧
        (w.putConnections s).Apart v ∧ v.core.queue = w.core.queue ∧
        s.entries = some (c.insert origin found.connected)) ∨
    (¬ w.connectionShelf.HasRoom connectionsLabel key (c.insert origin found.connected) ∧
      ∃ s, choiceAnswered origin (.ok data) w =
          (.error (.storageWrite "quota exceeded"), w.putConnections s) ∧
        s.entries = some c ∧ s.slot.value = w.connectionShelf.slot.value) := by
  have hsecret : secret w = (.ok (some key), w) := by rw [← hkey]; rfl
  rw [choiceAnswered_decoded horigin h, hchosen, Op.bind_ok (x := Op.ofExcept (.ok found)) rfl,
    Op.bind_ok hsecret]
  -- The identity is found, so all depends on whether the slot takes the map.
  rcases Shelf.upsert_room connectionsLabel key origin found.connected (s := w.connectionShelf) hc
    with ⟨hroom, b, s, hrun, hentries⟩ | ⟨hfull, s, hrun, hkept⟩
  · have hput : onConnections (Shelf.upsert connectionsLabel (some key) origin found.connected) w =
        (.ok b, w.putConnections s) := by rw [onConnections_apply, hrun]
    let v := (notify origin (.connect found.name) (w.putConnections s)).2
    have hnotify : notify origin (.connect found.name) (w.putConnections s) = (.ok (), v) := rfl
    exact .inl ⟨hroom, s, v, by rw [Op.bind_ok hput, Op.bind_ok hnotify, Op.pure_apply],
      ⟨rfl, rfl, rfl, rfl, rfl⟩, rfl, hentries⟩
  · have hput : onConnections (Shelf.upsert connectionsLabel (some key) origin found.connected) w =
        (.error (.storageWrite "quota exceeded"), w.putConnections s) := by
      rw [onConnections_apply, hrun]
    exact .inr ⟨hfull, s, Op.bind_error hput _, hkept⟩

end Wallet

end WalletTrust

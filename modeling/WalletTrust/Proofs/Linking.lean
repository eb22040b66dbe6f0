import WalletTrust.Proofs.CallDeeds

/-!
# Connecting and Disconnecting

How the operations end that approve, connect and disconnect, and what the pages hear of it.

An operation that fails has edited nothing and told nobody, and one that succeeds has done both. So
the outcome tells what became of an origin, and the pages are told just what happened. There is one
exception: an origin is revoked in two steps, and if the second is refused for the size of the slot
then the first has been made, and the page has not heard of it.

Each operation has one theorem that lists its ends, with everything that a caller may want to know
of each: the outcome, the state, the deeds that were done, and what was told. The theorems are built
on each other as the operations are, so the gate's operations are done without looking into the
registries' again. What is told is an equation and not a membership, since the order of the messages
matters for `Replay`.

## Main definitions

* `Wallet.Disconnects`: An origin is removed from the connections and told so.

## Theorems

* `Wallet.approve_ok`: An origin that was approved is approved.
* `Wallet.connectIdentity_cases`, `Wallet.disconnect_cases`, `Wallet.revoke_cases`,
  `Wallet.clearConnections_cases`, `Wallet.choiceAnswered_cases`: How the operations end.
* `Wallet.revoke_concerns`: Revoking an origin is nothing to another.
* `Wallet.perform_told`, `Wallet.resume_told`: Which calls and parts tell the pages nothing.
* `Wallet.disconnect_refused`: Of an origin that is connected, with the secret, only the size of a
  map is in the way.
* `Wallet.notify_tells`: A page is told, whether or not it can be reached.
* `Wallet.resume_choice`: Whoever waits for a choice goes on to the same end, if there is an answer.
-/

namespace WalletTrust

/-- From a map that is loaded an origin is removed, or the slot refuses the map that is left. -/
theorem Shelf.remove_refused {α : Type} [Wire α] {label : ShelfLabel} {key origin : String}
    {m : OriginMap α} {s t : Shelf α} {e : Error} (h : s.entries = some m)
    (hrun : remove label (some key) origin s = (.error e, t)) :
    ∃ cause, e = .storageWrite cause := by
  rw [remove_loaded label (some key) origin h] at hrun
  rcases hget : m.get? origin with _ | v
  · rw [hget] at hrun
    cases congrArg Prod.fst hrun
  · rw [hget] at hrun
    dsimp only at hrun
    by_cases hroom : s.HasRoom label key (m.erase origin)
    · rw [Op.bind_ok (commit_fits hroom)] at hrun
      cases congrArg Prod.fst hrun
    · rw [Op.bind_error (commit_full hroom)] at hrun
      exact ⟨_, (Except.error.inj (congrArg Prod.fst hrun)).symm⟩

namespace Wallet

open Op (Within)

variable {α : Type} {deeds : Deed → Prop} {w v : Wallet} {origin : String}

/-- What an operation on the approvals did, the wallet did. -/
theorem onApprovals_ran (deeds : Deed → Prop) {x : Op (Shelf HostPermission) α}
    {outcome : Except Error α} {s : Shelf HostPermission} (hrun : x w.approvalShelf = (outcome, s))
    (h : Shelf.Acts approvalsLabel w.core.session.secret (fun m n => deeds (.approvals m n))
      w.approvalShelf s) :
    onApprovals x w = (outcome, w.putApprovals s) ∧ Acts deeds w (w.putApprovals s) := by
  have hput : onApprovals x w = (outcome, w.putApprovals s) := by rw [onApprovals_apply, hrun]
  have hacts : Acts deeds w (onApprovals x w).2 := onApprovals_acts (by rw [hrun]; exact h)
  rw [hput] at hacts
  exact ⟨hput, hacts⟩

theorem onConnections_ran (deeds : Deed → Prop) {x : Op (Shelf ConnectedIdentity) α}
    {outcome : Except Error α} {s : Shelf ConnectedIdentity}
    (hrun : x w.connectionShelf = (outcome, s))
    (h : Shelf.Acts connectionsLabel w.core.session.secret (fun m n => deeds (.connections m n))
      w.connectionShelf s) :
    onConnections x w = (outcome, w.putConnections s) ∧ Acts deeds w (w.putConnections s) := by
  have hput : onConnections x w = (outcome, w.putConnections s) := by
    rw [onConnections_apply, hrun]
  have hacts : Acts deeds w (onConnections x w).2 := onConnections_acts (by rw [hrun]; exact h)
  rw [hput] at hacts
  exact ⟨hput, hacts⟩

theorem connection?_congr (h : v.core.connections = w.core.connections) (origin : String) :
    v.connection? origin = w.connection? origin := by
  rw [connection?, connection?, h]

theorem isConnected_of_get? {m : OriginMap ConnectedIdentity} (h : w.core.connections = some m)
    (origin : String) : w.isConnected origin = (m.get? origin).isSome := by
  rw [isConnected, connection?, h, Option.isSome_map]
  rfl

/-- An origin that is connected is so in the connections that are loaded. -/
theorem connections_of_isConnected (h : w.isConnected origin = true) :
    ∃ m, w.core.connections = some m ∧ (m.get? origin).isSome := by
  rcases hm : w.core.connections with _ | m
  · rw [isConnected, connection?, hm] at h
    cases h
  · rw [isConnected_of_get? hm] at h
    exact ⟨m, rfl, h⟩

/-- A page is told, whether or not it can be reached. -/
theorem notify_tells (origin : String) (event : PageEvent) (w : Wallet) :
    ∃ v, notify origin event w = (.ok (), v) ∧ w.Apart v ∧
      v.told = w.told ++ [(origin, event)] :=
  ⟨(notify origin event w).2, rfl, ⟨rfl, rfl, rfl, rfl, rfl⟩,
    Desktop.pushEvent_told origin event w.host.desktop⟩

/-! ## Approving -/

/-- An origin that was approved is approved. -/
theorem approve_ok {entry : ApprovalEntry} {u : Unit} (h : approve entry w = (.ok u, v)) :
    v.isApproved entry.origin = true := by
  rw [approve] at h
  split at h
  · cases congrArg Prod.fst h
  · rcases Op.bind_cases h with ⟨key, w', hsecret, hset⟩
    rcases Op.bind_cases hset with ⟨b, v', hupsert, hdone⟩
    rcases Prod.mk.inj hdone with ⟨_, rfl⟩
    rcases Prod.mk.inj hupsert with ⟨hok, rfl⟩
    rcases Shelf.upsert_ok (Prod.ext hok rfl) with ⟨m, hm, hget⟩
    rw [isApproved_of_get? hm, hget]
    rfl

/-! ## Connecting -/

/-- An origin is connected, and told so, or nothing happens. -/
theorem connectIdentity_cases (commitment origin : String) (w : Wallet) :
    (∃ e v, connectIdentity commitment origin w = (.error e, v) ∧ Acts Harmless w v ∧
      v.told = w.told) ∨
    ∃ i v, connectIdentity commitment origin w = (.ok (.of origin i), v) ∧
      v.connection? origin = some (.of origin i) ∧
      v.told = w.told ++ [(origin, .connect i.name)] ∧
      Acts (fun d => ∃ m, d = .connections m (m.insert origin i)) w v := by
  rw [connectIdentity]
  split
  · exact .inl ⟨_, w, rfl, Std.Refl.refl w, rfl⟩
  have hidentity : identity commitment w = (w.host.identities.lookup commitment, w) := rfl
  rcases hlookup : w.host.identities.lookup commitment with e | found
  · rw [hlookup] at hidentity
    exact .inl ⟨e, w, Op.bind_error hidentity _, Std.Refl.refl w, rfl⟩
  rw [hlookup] at hidentity
  rw [Op.bind_ok hidentity]
  rcases found with _ | found
  · exact .inl ⟨_, w, rfl, Std.Refl.refl w, rfl⟩
  rw [Op.bind_ok (x := Op.ofOption _ (some found)) rfl, Op.bind_ok (x := secret) rfl]
  -- From here on the identity is known, and only the write of the map can fail.
  let i : ConnectedIdentity := { commitment := found.commitment, name := found.name }
  have hedits := Shelf.upsert_acts connectionsLabel w.core.session.secret origin i w.connectionShelf
  have hcases := Shelf.upsert_cases connectionsLabel w.core.session.secret origin i
    w.connectionShelf
  rcases hupsert : Shelf.upsert connectionsLabel w.core.session.secret origin i
    w.connectionShelf with ⟨outcome, s⟩
  rw [hupsert] at hedits hcases
  cases outcome with
  | error e =>
      have huntouched := hcases.resolve_left fun hok => by cases hok
      rcases onConnections_ran Harmless hupsert huntouched with ⟨hrun, hacts⟩
      exact .inl ⟨e, _, Op.bind_error hrun _, hacts, rfl⟩
  | ok b =>
      rcases onConnections_ran (fun d => ∃ m, d = .connections m (m.insert origin i))
        hupsert (hedits.mono fun m next hnext => ⟨m, by rw [hnext.2]⟩) with ⟨hrun, hacts⟩
      rcases notify_tells origin (.connect i.name) (w.putConnections s) with
        ⟨v, hnotify, happart, htold⟩
      refine .inr ⟨i, v, by rw [Op.bind_ok hrun, Op.bind_ok hnotify, Op.pure_apply], ?_, htold,
        hacts.trans (.single (.apart happart))⟩
      -- Telling the page leaves the map as it was written.
      rcases Shelf.upsert_ok hupsert with ⟨m, hm, hget⟩
      have hloaded : (w.putConnections s).core.connections = some m := hm
      rw [connection?_congr happart.connections, connection?, hloaded, Option.bind_some, hget]
      rfl

/-! ## Disconnecting -/

/-- An origin is removed from the connections and told so. -/
structure Disconnects (target origin : String) (m : OriginMap ConnectedIdentity) (w v : Wallet) :
    Prop where
  before : w.core.connections.isSome → w.core.connections = some m
  meant : w.isConnected target = true → origin = target
  connected : (m.get? origin).isSome
  after : v.core.connections = some (m.erase origin)
  approvals : v.core.approvals = w.core.approvals
  told : v.told = w.told ++ [(origin, .disconnect)]
  acts : Acts (fun d => d = .connections m (m.erase origin)) w v

/-- The origin that is meant by a target is connected. -/
theorem disconnectTarget?_connected {m : OriginMap ConnectedIdentity} {target : String}
    (hm : w.core.connections = some m) (h : w.disconnectTarget? target = some origin) :
    (m.get? origin).isSome := by
  rw [disconnectTarget?] at h
  split at h
  · next hconnected =>
    rcases Option.some.inj h
    rw [isConnected_of_get? hm] at hconnected
    exact hconnected
  · rw [hm, Option.bind_some] at h
    rcases Option.map_eq_some_iff.1 h with ⟨e, hfind, rfl⟩
    rw [m.get?_of_mem (List.mem_of_find?_eq_some hfind)]
    rfl

/-- The connections are loaded, or nothing happens. -/
theorem loadConnections_cases (w : Wallet) :
    (∃ e v, loadConnections w = (.error e, v) ∧ Acts Harmless w v ∧ v.told = w.told) ∨
    ∃ m v, loadConnections w = (.ok (), v) ∧ v.core.connections = some m ∧
      (w.core.connections.isSome → w.core.connections = some m) ∧ Acts Harmless w v ∧
      v.told = w.told ∧ v.host.storage = w.host.storage ∧ v.core.session = w.core.session ∧
      v.core.approvals = w.core.approvals := by
  have hacts : Acts Harmless w (loadConnections w).2 := loadConnections_acts w
  rcases hload : Shelf.load connectionsLabel w.core.session.secret w.connectionShelf with
    ⟨outcome, s⟩
  have hrun : loadConnections w = (outcome, w.putConnections s) := by
    rw [loadConnections, Op.bind_ok (x := secret) rfl, onConnections_apply, hload]
  rw [hrun] at hacts
  cases outcome with
  | error e => exact .inl ⟨e, _, hrun, hacts, rfl⟩
  | ok _ =>
      rcases Shelf.load_ok hload with ⟨m, hm, hslot⟩
      have hstorage : (w.putConnections s).host.storage = w.host.storage := by
        rw [putConnections, hslot]
        exact Storage.put_slot _ _
      refine .inr ⟨m, _, hrun, hm, fun hloaded => ?_, hacts, rfl, hstorage, rfl, rfl⟩
      -- A map that is there is not loaded again.
      rcases Option.isSome_iff_exists.1 hloaded with ⟨n, hn⟩
      have hsame : Shelf.load connectionsLabel w.core.session.secret w.connectionShelf =
          (.ok (), w.connectionShelf) := Shelf.load_loaded _ hn
      rw [hload] at hsame
      rw [(Prod.mk.inj hsame).2] at hm
      exact hm

/-- An origin is disconnected, and told so, or nothing happens. -/
theorem disconnect_cases (target : String) (w : Wallet) :
    (∃ e v, disconnect target w = (.error e, v) ∧ Acts Harmless w v ∧ v.told = w.told) ∨
    ∃ origin m c v, disconnect target w = (.ok c, v) ∧ w.Disconnects target origin m v := by
  rw [disconnect]
  -- One way out after the other: nobody is named, the map cannot be loaded, nobody is meant.
  split
  · exact .inl ⟨_, w, rfl, Std.Refl.refl w, rfl⟩
  rcases loadConnections_cases w with
    ⟨e, u, hload, hacts, htold⟩ | ⟨m, u, hload, hm, hbefore, hacts, htold, _, _, happrovals⟩
  · exact .inl ⟨e, u, Op.bind_error hload _, hacts, htold⟩
  rw [Op.bind_ok hload, Op.bind_ok (x := Op.get) rfl]
  rcases hmeant : u.disconnectTarget? target with _ | origin
  · exact .inl ⟨_, u, rfl, hacts, htold⟩
  rw [Op.bind_ok (x := Op.ofOption _ (some origin)) rfl, Op.bind_ok (x := secret) rfl]
  rcases Option.isSome_iff_exists.1 (disconnectTarget?_connected hm hmeant) with ⟨i, hget⟩
  rcases Shelf.remove_cases connectionsLabel u.core.session.secret origin u.connectionShelf with
    ⟨e, s, hremove, huntouched⟩ | ⟨n, s, hremove, hn, hafter, hedits⟩
  · rcases onConnections_ran Harmless hremove huntouched with ⟨hrun, hkept⟩
    exact .inl ⟨e, _, Op.bind_error hrun _, hacts.trans hkept, htold⟩
  · -- The map in memory is the one from which the origin is removed.
    have hentries : u.connectionShelf.entries = some m := hm
    rcases Option.some.inj (hentries.symm.trans (hn (by rw [Shelf.isLoaded, hentries]; rfl)))
    rw [hget] at hremove
    rcases onConnections_ran (fun d => d = .connections m (m.erase origin)) hremove
      (hedits.mono fun _ _ hedit => by rw [hedit.1, hedit.2]) with ⟨hrun, hedited⟩
    rcases notify_tells origin .disconnect (u.putConnections s) with ⟨v, hnotify, happart, hheard⟩
    refine .inr ⟨origin, m, .of origin i, v, ?_, {
      before := hbefore
      meant := fun hconnected => ?_
      connected := by rw [hget]; rfl
      after := happart.connections.trans hafter
      approvals := happart.approvals.trans happrovals
      told := hheard.trans (congrArg (· ++ [(origin, PageEvent.disconnect)]) htold)
      acts := hacts.of_harmless.trans (hedited.trans (.single (.apart happart))) }⟩
    · rw [Op.bind_ok hrun, Op.bind_ok (x := Op.ofOption _ (some i)) rfl, Op.bind_ok hnotify,
        Op.pure_apply]
    -- An origin that was connected before is meant as such, whatever has been loaded since.
    · rcases connections_of_isConnected hconnected with ⟨c, hc, _⟩
      have hcn := hbefore (by rw [hc]; rfl)
      rw [isConnected_of_get? hcn] at hconnected
      rw [disconnectTarget?, isConnected_of_get? hm, if_pos hconnected] at hmeant
      exact (Option.some.inj hmeant).symm

/-- The deeds of taking back an approval. -/
def Unapproves (origin : String) : Deed → Prop :=
  fun d => ∃ m, d = .approvals m (m.erase origin)

/-- An origin loses its approval, or nothing happens. -/
theorem unapprove_cases (origin : String) (w : Wallet) :
    (∃ e v, unapprove origin w = (.error e, v) ∧ Acts Harmless w v ∧ v.told = w.told) ∨
    ∃ b, ∃ m : OriginMap HostPermission, ∃ v, unapprove origin w = (.ok b, v) ∧
      v.core.approvals = some (m.erase origin) ∧ v.core.connections = w.core.connections ∧
      v.core.session = w.core.session ∧ v.told = w.told ∧ Acts (Unapproves origin) w v := by
  rw [unapprove, Op.bind_ok (x := secret) rfl]
  rcases Shelf.remove_cases approvalsLabel w.core.session.secret origin w.approvalShelf with
    ⟨e, s, hremove, huntouched⟩ | ⟨m, s, hremove, _, hafter, hedits⟩
  · rcases onApprovals_ran Harmless hremove huntouched with ⟨hrun, hacts⟩
    exact .inl ⟨e, _, Op.bind_error hrun _, hacts, rfl⟩
  · rcases onApprovals_ran (Unapproves origin) hremove
      (hedits.mono fun n next hedit => ⟨n, by rw [hedit.2, hedit.1]⟩) with ⟨hrun, hacts⟩
    exact .inr ⟨(m.get? origin).isSome, m, w.putApprovals s, by rw [Op.bind_ok hrun, Op.pure_apply],
      hafter, rfl, rfl, rfl, hacts⟩

/-- Of an origin that is connected, with the secret, only the size of a map is in the way. -/
theorem disconnect_refused {m : OriginMap ConnectedIdentity} {e : Error} (horigin : origin ≠ "")
    (hm : w.core.connections = some m) (hget : (m.get? origin).isSome)
    (hunlocked : w.core.session.isUnlocked = true) (h : disconnect origin w = (.error e, v)) :
    ∃ cause, e = .storageWrite cause := by
  -- The map is in memory and the origin in the map, so all that is left to fail is the write.
  have hload : loadConnections w = (.ok (), w) := by
    rw [loadConnections, Op.bind_ok (x := secret) rfl, onConnections_apply,
      Shelf.load_loaded (s := w.connectionShelf) _ hm, putConnections_self]
  have hmeant : w.disconnectTarget? origin = some origin := by
    rw [disconnectTarget?, isConnected_of_get? hm, if_pos hget]
  rw [disconnect, if_neg horigin, Op.bind_ok hload, Op.bind_ok (x := Op.get) rfl, hmeant,
    Op.bind_ok (x := Op.ofOption _ (some origin)) rfl, Op.bind_ok (x := secret) rfl] at h
  rcases Option.isSome_iff_exists.1 hunlocked with ⟨key, hkey⟩
  rcases hremove : Shelf.remove connectionsLabel w.core.session.secret origin w.connectionShelf with
    ⟨outcome, s⟩
  have hrun : onConnections (Shelf.remove connectionsLabel w.core.session.secret origin) w =
      (outcome, w.putConnections s) := by
    rw [onConnections_apply, hremove]
  rcases outcome with cause | removed
  · rw [Op.bind_error hrun] at h
    rw [hkey] at hremove
    rcases Except.error.inj (congrArg Prod.fst h)
    exact Shelf.remove_refused (s := w.connectionShelf) hm hremove
  · rcases Shelf.remove_cases connectionsLabel w.core.session.secret origin w.connectionShelf with
      ⟨e, s, herror, _⟩ | ⟨n, s, hok, hn, _⟩
    · cases herror.symm.trans hremove
    · have hentries : w.connectionShelf.entries = some m := hm
      rcases Option.some.inj (hentries.symm.trans (hn (by rw [Shelf.isLoaded, hentries]; rfl)))
      rcases Option.isSome_iff_exists.1 hget with ⟨i, hi⟩
      rw [hremove] at hok
      rcases Except.ok.inj (congrArg Prod.fst hok)
      rcases notify_tells origin .disconnect (w.putConnections s) with ⟨u, hnotify, _, _⟩
      rw [Op.bind_ok hrun, hi, Op.bind_ok (x := Op.ofOption _ (some i)) rfl] at h
      cases congrArg Prod.fst h

/-- Nothing happens; or an origin loses its approval only, as the slot refuses the connections that
are left; or it loses its approval and its connection, and is told so if it had one. -/
theorem revoke_cases (hw : w.Guarded) (origin : String) :
    (∃ e v, revoke origin w = (.error e, v) ∧ Acts Harmless w v ∧ v.told = w.told) ∨
    (∃ cause v, revoke origin w = (.error (.storageWrite cause), v) ∧
      Acts (Unapproves origin) w v ∧ v.told = w.told) ∨
    ∃ m : OriginMap HostPermission, ∃ v, revoke origin w = (.ok (), v) ∧
      v.core.approvals = some (m.erase origin) ∧
      v.isConnected origin = false ∧
      ((Acts (Unapproves origin) w v ∧ v.told = w.told) ∨
        ∃ u n, Acts (Unapproves origin) w u ∧ u.told = w.told ∧
          u.Disconnects origin origin n v) := by
  rw [revoke]
  split
  · exact .inl ⟨_, w, rfl, Std.Refl.refl w, rfl⟩
  next horigin =>
  rcases unapprove_cases origin w with
    ⟨e, u, hrun, hacts, htold⟩ | ⟨b, a, u, hrun, hunapproved, hconnections, hsession, htold, hacts⟩
  · exact .inl ⟨e, u, Op.bind_error hrun _, hacts, htold⟩
  rw [Op.bind_ok hrun, Op.bind_ok (x := Op.get) rfl]
  refine .inr ?_
  split
  · next hconnected =>
    rcases connections_of_isConnected hconnected with ⟨m, hc, hget⟩
    rcases disconnect_cases origin u with
      ⟨e, v, hdisconnect, hkept, hheard⟩ | ⟨o, n, c, v, hdisconnect, hdone⟩
    · -- The approval is gone by now, and the connection stays.
      have hunlocked : u.core.session.isUnlocked = true := by
        rw [hsession]
        exact hw (by rw [← hconnections, hc]; rfl)
      rcases disconnect_refused horigin hc hget hunlocked hdisconnect with ⟨cause, rfl⟩
      exact .inl ⟨cause, v, Op.bind_error hdisconnect _, hacts.trans hkept.of_harmless,
        hheard.trans htold⟩
    · rcases hdone.meant hconnected
      refine .inr ⟨a, v, by rw [Op.bind_ok hdisconnect, Op.pure_apply],
        hdone.approvals.trans hunapproved, ?_, .inr ⟨u, n, hacts, htold, hdone⟩⟩
      rw [isConnected_of_get? hdone.after, n.get?_erase_self]
      rfl
  -- Nothing of the page is connected in memory, so the approval is all there is to take back.
  · next hunconnected =>
    exact .inr ⟨a, u, rfl, hunapproved, Bool.eq_false_iff.2 hunconnected, .inl ⟨hacts, htold⟩⟩

/-- What is taken back of an origin is its own. -/
theorem revoke_concerns (hw : w.Guarded) (origin : String) :
    Acts (Deed.Concerns origin) w (revoke origin w).2 := by
  -- Both edits erase at the origin alone.
  have happroval (d : Deed) (hd : Unapproves origin d) : d.Concerns origin := by
    rcases hd with ⟨m, rfl⟩
    exact ⟨id, fun other hother => OriginMap.get?_erase_of_ne hother m⟩
  have hconnection (n : OriginMap ConnectedIdentity) :
      (Deed.connections n (n.erase origin)).Concerns origin :=
    ⟨id, fun other hother => OriginMap.get?_erase_of_ne hother n⟩
  rcases revoke_cases hw origin with
    ⟨e, v, hrun, hacts, _⟩ | ⟨cause, v, hrun, hacts, _⟩ |
    ⟨a, v, hrun, _, _, ⟨hacts, _⟩ | ⟨u, n, hacts, _, hdone⟩⟩
  · rw [hrun]
    exact hacts.of_harmless
  · rw [hrun]
    exact hacts.mono happroval
  · rw [hrun]
    exact hacts.mono happroval
  · rw [hrun]
    refine (hacts.mono happroval).trans (hdone.acts.mono ?_)
    rintro _ rfl
    exact hconnection n

theorem notifyDisconnected_tells (origins : List String) (w : Wallet) :
    ∃ v, notifyDisconnected origins w = (.ok (), v) ∧ w.Apart v ∧
      v.told = w.told ++ origins.map fun o => (o, .disconnect) := by
  induction origins generalizing w with
  | nil => exact ⟨w, rfl, ⟨rfl, rfl, rfl, rfl, rfl⟩, (List.append_nil _).symm⟩
  | cons origin rest ih =>
      rcases notify_tells origin .disconnect w with ⟨u, hnotify, happart, htold⟩
      rcases ih u with ⟨v, hrest, hapart, hheard⟩
      refine ⟨v, by rw [notifyDisconnected, Op.bind_ok hnotify, hrest], happart.trans hapart, ?_⟩
      rw [hheard, htold, List.map_cons, List.append_assoc]
      rfl

/-- All origins are disconnected and told so, or nothing happens. -/
theorem clearConnections_cases (hw : w.Guarded)
    (hclearable : (w.host.storage.slot w.config.storageKeys.connections).clearable = true) :
    (∃ e v, clearConnections w = (.error e, v) ∧ Acts Harmless w v ∧ v.told = w.told) ∨
    ∃ u m v, clearConnections w = (.ok (), v) ∧ Acts Harmless w u ∧ u.core.connections = some m ∧
      v.core.connections = some .empty ∧
      v.told = w.told ++ m.entries.map (fun e => (e.1, .disconnect)) ∧
      Acts (fun d => ∃ n, d = .connections n .empty) u v := by
  rcases loadConnections_cases w with
    ⟨e, u, hload, hacts, htold⟩ | ⟨m, u, hload, hm, _, hacts, htold, hstorage, _, _⟩
  · exact .inl ⟨e, u, Op.bind_error hload _, hacts, htold⟩
  have hlist : u.connectionList.map (·.origin) = m.entries.map (·.1) := by
    rw [connectionList, hm, Option.map_some, Option.getD_some, List.map_map]
    rfl
  -- What is loaded is loaded with the secret, and then nothing is in the way of clearing the slot.
  have hroutine : Routine (fun _ _ => True) w (loadConnections w).2 := loadConnections_routine w
  rw [hload] at hroutine
  rcases Option.isSome_iff_exists.1 (hroutine.guarded hw (by rw [hm]; rfl)) with ⟨key, hkey⟩
  rcases notifyDisconnected_tells (m.entries.map (·.1)) u with ⟨v, hnotify, happart, hheard⟩
  have hslot : v.connectionShelf.slot.clearable = true := by
    rw [connectionShelf, happart.storage, hstorage, happart.config, hacts.config]
    exact hclearable
  have hclear : Shelf.clear v.core.session.secret v.connectionShelf = (.ok (), {
      v.connectionShelf with
      slot := v.connectionShelf.slot.erased
      entries := v.connectionShelf.entries.map fun _ => .empty }) := by
    rw [happart.session, hkey]
    exact Shelf.clear_clearable key hslot
  have hedits := Shelf.clear_acts connectionsLabel v.core.session.secret v.connectionShelf
  rw [hclear] at hedits
  rcases onConnections_ran (fun d => ∃ n, d = .connections n .empty) hclear
    (hedits.mono fun n next hnext => ⟨n, by rw [hnext]⟩) with ⟨hrun, hcleared⟩
  refine .inr ⟨u, m, _, ?_, hacts, hm, ?_, ?_, Acts.trans (.single (.apart happart)) hcleared⟩
  · rw [clearConnections, Op.bind_ok hload, Op.bind_ok (x := Op.get) rfl, hlist,
      Op.bind_ok hnotify, Op.bind_ok (x := secret) rfl, hrun]
  · have hentries : v.connectionShelf.entries = some m := happart.connections.trans hm
    exact congrArg (Option.map fun _ => OriginMap.empty) hentries
  · rw [htold, List.map_map] at hheard
    exact hheard

/-! ## Answers -/

/-- The origin is connected to the identity that was chosen, and told so, or nothing happens. -/
theorem choiceAnswered_cases (origin : String) (outcome : Except Error Json) (w : Wallet) :
    (∃ e v, choiceAnswered origin outcome w = (.error e, v) ∧ Acts Harmless w v ∧
      v.told = w.told) ∨
    ∃ i v, choiceAnswered origin outcome w =
        (.ok (.finished (.connection (some (.of origin i)))), v) ∧
      v.connection? origin = some (.of origin i) ∧
      v.told = w.told ++ [(origin, .connect i.name)] ∧
      Acts (fun d => ∃ m, d = .connections m (m.insert origin i)) w v := by
  rw [choiceAnswered]
  rcases outcome with e | data
  · exact .inl ⟨e, w, rfl, Std.Refl.refl w, rfl⟩
  rw [Op.bind_ok (x := Op.ofExcept (.ok data)) rfl]
  -- Until the identity is found nothing has been touched.
  rcases (decodeData {} data : Except Error IdentityChoice) with e | choice
  · exact .inl ⟨e, w, rfl, Std.Refl.refl w, rfl⟩
  rw [Op.bind_ok (x := Op.ofExcept (.ok choice)) rfl]
  rcases chosenCommitment_cases choice w with ⟨e, hchosen⟩ | ⟨commitment, hchosen, _⟩
  · exact .inl ⟨e, w, Op.bind_error hchosen _, Std.Refl.refl w, rfl⟩
  rw [Op.bind_ok hchosen]
  rcases connectIdentity_cases commitment origin w with
    ⟨e, v, hrun, hacts, htold⟩ | ⟨i, v, hrun, hconnected, htold, hacts⟩
  · exact .inl ⟨e, v, Op.bind_error hrun _, hacts, htold⟩
  · exact .inr ⟨i, v, by rw [Op.bind_ok hrun, Op.pure_apply], hconnected, htold, hacts⟩

/-- Whoever waits for a choice goes on to the same end, if there is an answer. -/
theorem resume_choice {on : Waiting} {id : UInt64} {channel : Nat}
    (h : on.asked? = some (id, channel, .identityChoice origin)) (w : Wallet) :
    (Acts Harmless w (resume on w).2 ∧ (resume on w).2.told = w.told ∧
      ∀ answer, (resume on w).1 ≠ .ok (.finished answer)) ∨
    ∃ i, (resume on w).1 = .ok (.finished (.connection (some (.of origin i)))) ∧
      (resume on w).2.connection? origin = some (.of origin i) ∧
      (resume on w).2.told = w.told ++ [(origin, .connect i.name)] ∧
      Acts (fun d => ∃ m, d = .connections m (m.insert origin i)) w (resume on w).2 := by
  have hfailed {e : Error} {v : Wallet} (hrun : goOn on w = (.error e, v)) :
      ∀ answer, (resume on w).1 ≠ .ok (.finished answer) := fun answer hok => by
    rw [resume, Op.mapError_of_error hrun] at hok
    cases hok
  -- What opens or fails to open on the way to the answer tells nobody.
  rcases goOn_looks h w with ⟨e, v, hrun, happart, htold⟩ | ⟨v, hrun, happart, htold, _, _⟩
  · refine .inl ⟨?_, ?_, hfailed hrun⟩
    · rw [resume_state, hrun]
      exact .single (.apart happart)
    · rw [resume_state, hrun]
      exact htold
  rcases hanswer : v.core.queue.answer? channel with _ | outcome
  · rw [awaitAnswer_none hanswer] at hrun
    refine .inl ⟨?_, ?_, fun answer hok => ?_⟩
    · rw [resume_state, hrun]
      exact .single (.apart happart)
    · rw [resume_state, hrun]
      exact htold
    · rw [resume, Op.mapError_of_ok hrun] at hok
      cases hok
  rw [awaitAnswer_some hanswer] at hrun
  rcases choiceAnswered_cases origin outcome v with
    ⟨e, u, hchoice, hacts, hheard⟩ | ⟨i, u, hchoice, hconnected, hheard, hacts⟩
  · have hfails : goOn on w = (.error e, u) := hrun.trans hchoice
    refine .inl ⟨?_, ?_, hfailed hfails⟩
    · rw [resume_state, hfails]
      exact Acts.trans (.single (.apart happart)) hacts
    · rw [resume_state, hfails, hheard, htold]
  · have hends : goOn on w = (.ok (.finished (.connection (some (.of origin i)))), u) :=
      hrun.trans hchoice
    refine .inr ⟨i, congrArg Prod.fst (Op.mapError_of_ok hends on.wrap), ?_, ?_, ?_⟩
    · rw [resume_state, hends]
      exact hconnected
    · rw [resume_state, hends, hheard, htold]
    · rw [resume_state, hends]
      exact Acts.trans (.single (.apart happart)) hacts

/-! ## What pages hear -/

/-- Locking the session is nothing that a page is told of. -/
theorem logout_told (w : Wallet) : (logout w).2.told = w.told := by
  -- Observers are told, but pages are not.
  have hobservers (names : List String) : Within (Op.Same told) (tellObservers names) := by
    induction names with
    | nil => exact .pure _
    | cons name rest ih =>
        refine .bind (fun v => ?_) fun _ => ih
        have hsilent := Desktop.record_silent (e := .observerTold name) rfl rfl v.host.desktop
        exact congrArg Prod.snd hsilent
  have hrest : Within (Op.Same told) (do
      tellObservers (← Op.get).core.observers
      onLock SessionLock.announce
      return true : Op Wallet Bool) := by
    refine .bind .get fun v => ?_
    refine .bind (hobservers _) fun _ => ?_
    refine .bind (fun u => ?_) fun _ => ?_
    · have hroutine : Routine (fun _ _ => True) u (onLock SessionLock.announce u).2 :=
        onLock_routine SessionLock.announce_firm u
      exact hroutine.told fun _ _ => trivial
    · exact .pure _
  exact hrest _

/-- A call tells a page nothing unless it is about that page's origin. -/
theorem perform_told {call : Call} (h : ∀ o c, call.Spares o c) (w : Wallet) :
    (perform call w).2.told = w.told := by
  rcases perform_cases call w with ⟨request, rfl⟩ | ⟨job, _, hrun⟩ | hroutine
  · exact (perform_finalize (Call.finalize request).Spares request w).1.told h
  · rw [hrun]
    exact dispatch_told job w
  · exact hroutine.told h

/-- With an answer a page is told the commitment that it asked for, or nothing, unless an identity
was to be chosen. -/
theorem fulfil_told {errand : Errand} (hchoice : ∀ origin, errand ≠ .identityChoice origin)
    (id : UInt64) (outcome : Except Error Json) (w : Wallet) :
    (fulfil id errand outcome w).2.told = w.told ∨
    ∃ origin commitment, errand = .reveal origin commitment ∧
      (fulfil id errand outcome w).2.told =
        w.told ++ [(origin, .revealCommitment commitment)] := by
  -- Only an answer that is used can make the wallet speak, and of those only the revealed one does.
  rcases huse : errand.use? with _ | use
  · refine .inl ((fulfil_routine huse id outcome w).told ?_)
    cases errand with
    | identityChoice origin => exact absurd rfl (hchoice origin)
    | _ => exact fun _ _ => trivial
  · cases errand with
    | reveal origin commitment =>
        rcases outcome with e | data
        · exact .inl rfl
        · have htold :
              (onDesktop (Desktop.pushEvent origin (.revealCommitment commitment)) w).2.told =
                w.told ++ [(origin, .revealCommitment commitment)] := Desktop.pushEvent_told _ _ _
          refine .inr ⟨origin, commitment, rfl, ?_⟩
          rw [fulfil, revealAnswered, Op.bind_ok (x := Op.ofExcept (.ok data)) rfl,
            Op.bind_pure_state, htold]
    | proof job compute =>
        rcases outcome with e | data
        · exact .inl rfl
        · cases compute with
          | true => exact .inl (dispatch_told job w)
          | false => cases huse
    | _ => cases huse

/-- Going on tells a page the commitment that it asked for, or nothing, unless an identity was to be
chosen. -/
theorem resume_told {on : Waiting}
    (hchoice : ∀ id channel origin, on.asked? ≠ some (id, channel, .identityChoice origin))
    (w : Wallet) : (resume on w).2.told = w.told ∨
    ∃ id channel origin commitment, on.asked? = some (id, channel, .reveal origin commitment) ∧
      (resume on w).2.told = w.told ++ [(origin, .revealCommitment commitment)] := by
  rw [resume_state]
  -- A call that has asked nothing has nothing to tell.
  rcases hasked : on.asked? with _ | ⟨id, channel, errand⟩
  · have hroutine : Routine (fun _ _ => True) w (goOn on w).2 := goOn_unasked hasked
    exact .inl (hroutine.told fun _ _ => trivial)
  rcases goOn_looks hasked w with ⟨e, v, hrun, _, htold⟩ | ⟨v, hrun, _, htold, _, _⟩
  · rw [hrun]
    exact .inl htold
  rw [hrun]
  rcases hanswer : v.core.queue.answer? channel with _ | outcome
  · rw [awaitAnswer_none hanswer]
    exact .inl htold
  rw [awaitAnswer_some hanswer]
  rcases fulfil_told (fun origin heq => hchoice id channel origin (heq ▸ hasked)) id outcome v with
    hsame | ⟨origin, commitment, rfl, hheard⟩
  · exact .inl (hsame.trans htold)
  · exact .inr ⟨id, channel, origin, commitment, rfl, by rw [hheard, htold]⟩

end Wallet

end WalletTrust

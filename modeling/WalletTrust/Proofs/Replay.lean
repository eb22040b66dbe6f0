import WalletTrust.Proofs.Adopting
import WalletTrust.Proofs.Contents
import WalletTrust.Proofs.Linking

/-!
# The Pages Know the Registry

What the pages have been told adds up to the connections.

A page hears when its origin is connected, under which name, and when it is disconnected. Whoever
takes the last of these messages to each origin has the registry of connections: the origin is
connected under the name in the message, or it is not connected. This is so whether or not the pages
could be reached, and whichever writes were refused, since an origin is told of a change after the
change is made, and of every change.

It is about the content of the connections and not about what is loaded, so it goes on while the
session is locked.

Backups are left out, which are restored without a word to the pages, and so is a slot that cannot
be emptied, as the pages hear of that before it is tried.

The invariant is kept in two steps. An operation that changes a connection tells its page, and
nothing is told that is not so; `Linking` has both as equations. What remains is to see that the
message that was told last is the one that counts, and that the messages to other pages do not.

## Main definitions

* `lastLink`, `Wallet.lastTold`: The last message to an origin about its connection.
* `Wallet.Announced`: The content of the connections is what the pages were told.
* `Run.Outspoken`: The runs in which it is.

## Theorems

* `Wallet.perform_announced`, `Wallet.resume_announced`: Calls and their parts.
* `Run.announced`: It holds throughout.
* `Run.connected_iff_lastTold`: An origin is connected just if it was last told so.
* `lastLink_others`, `lastLink_reveal`, `lastLink_disconnected`: Which messages count.
* `Wallet.Announced.changed`, `Wallet.Announced.quiet`: One connection changes and its page is told,
  or nothing changes and nobody is told.
* `Run.connected_iff_lastTold_sharedIdentity`: The page of the origin that stays connected was told
  so last, and under that name.
-/

namespace WalletTrust

/-! ## Messages -/

/-- A message about a connection. -/
def PageEvent.link? : PageEvent → Option PageEvent
  | .revealCommitment _ => none
  | event => some event

/-- The name under which an origin is connected by a message. -/
def PageEvent.name? : PageEvent → Option String
  | .connect name => some name
  | _ => none

theorem PageEvent.bind_name?_eq_some {event : Option PageEvent} {name : String} :
    event.bind name? = some name ↔ event = some (.connect name) := by
  rcases event with _ | event
  · exact ⟨nofun, nofun⟩
  · cases event with
    | connect other =>
        exact ⟨fun hname => congrArg (some ∘ connect) (Option.some.inj hname), fun h => by
          rw [connect.inj (Option.some.inj h)]
          rfl⟩
    | disconnect => exact ⟨nofun, nofun⟩
    | revealCommitment => exact ⟨nofun, nofun⟩

/-- The last message to an origin about its connection. -/
def lastLink (origin : String) (told : List (String × PageEvent)) : Option PageEvent :=
  (told.filterMap fun e => if e.1 = origin then e.2.link? else none).getLast?

section

variable {origin other : String} {told more : List (String × PageEvent)} {event : PageEvent}

theorem lastLink_append (origin : String) (told more : List (String × PageEvent)) :
    lastLink origin (told ++ more) = (lastLink origin more).or (lastLink origin told) := by
  rw [lastLink, List.filterMap_append, List.getLast?_append]
  rfl

theorem lastLink_self (h : event.link? = some event) :
    lastLink origin (told ++ [(origin, event)]) = some event := by
  have hone : lastLink origin [(origin, event)] = some event := by
    simp only [lastLink, List.filterMap_cons, if_true, h, List.filterMap_nil,
      List.getLast?_singleton]
  rw [lastLink_append, hone, Option.some_or]

/-- Messages to other origins do not count. -/
theorem lastLink_others (h : ∀ e ∈ more, e.1 ≠ origin) :
    lastLink origin (told ++ more) = lastLink origin told := by
  have hnone : lastLink origin more = none := by
    rw [lastLink, List.filterMap_eq_nil_iff.2 fun e he => if_neg (h e he), List.getLast?_nil]
  rw [lastLink_append, hnone, Option.none_or]

/-- A commitment that is revealed is nothing about a connection. -/
theorem lastLink_reveal (origin other commitment : String) (told : List (String × PageEvent)) :
    lastLink origin (told ++ [(other, .revealCommitment commitment)]) = lastLink origin told := by
  have hnone : lastLink origin [(other, .revealCommitment commitment)] = none := by
    simp only [lastLink, List.filterMap_cons, PageEvent.link?, ite_self, List.filterMap_nil,
      List.getLast?_nil]
  rw [lastLink_append, hnone, Option.none_or]

/-- Of several origins that are told that they are disconnected, each has heard that last. -/
theorem lastLink_disconnected {origins : List String} (h : origin ∈ origins) :
    lastLink origin (told ++ origins.map fun o => (o, .disconnect)) = some .disconnect := by
  induction origins generalizing told with
  | nil => exact absurd h List.not_mem_nil
  | cons first rest ih =>
      rw [List.map_cons, List.append_cons]
      by_cases hrest : origin ∈ rest
      · exact ih hrest
      · -- It is the first, and those after it are others.
        rcases List.mem_cons.1 h with rfl | hmem
        · rw [lastLink_others]
          · exact lastLink_self rfl
          · rintro e he rfl
            rcases List.mem_map.1 he with ⟨o, ho, rfl⟩
            exact hrest ho
        · exact absurd hmem hrest

end

/-- A call that restores a registry from a backup. -/
def Call.Restores : Call → Prop
  | .uploadBackup _ => True
  | .uploadComponent _ _ _ => True
  | _ => False

/-! ## Wallets -/

namespace Wallet

variable {deeds : Deed → Prop} {w v : Wallet} {password origin : String}
  {c : OriginMap ConnectedIdentity}

/-- What the page of an origin was last told about its connection. -/
def lastTold (w : Wallet) (origin : String) : Option PageEvent :=
  lastLink origin w.told

theorem exists_connection?_iff {m : OriginMap ConnectedIdentity} {name : String}
    (h : w.core.connections = some m) : (∃ connection, w.connection? origin = some connection ∧
      connection.name = name) ↔ (m.get? origin).map (·.name) = some name := by
  rw [connection?, h, Option.bind_some, Option.map_eq_some_iff]
  constructor
  · rintro ⟨connection, hsome, hname⟩
    rcases Option.map_eq_some_iff.1 hsome with ⟨i, hi, rfl⟩
    exact ⟨i, hi, hname⟩
  · rintro ⟨i, hi, hname⟩
    exact ⟨.of origin i, by rw [hi]; rfl, hname⟩

/-- The content of the connections is what the pages were told last: an origin is connected under
the name that its page was told, or it is not connected. -/
structure Announced (password : String) (c : OriginMap ConnectedIdentity) (w : Wallet) :
    Prop where
  content : w.HasConnections password c
  told : ∀ origin, (c.get? origin).map (·.name) = (w.lastTold origin).bind PageEvent.name?

namespace Announced

variable (h : w.Announced password c) (hkeys : w.config.storageKeys.Distinct)
include h hkeys

/-- Nobody is told anything, and no connection changes. -/
theorem quiet (hacts : Acts deeds w v) (hsingle : Deed.Single password deeds)
    (hnone : ∀ m n, ¬ deeds (.connections m n))
    (htold : ∀ origin, v.lastTold origin = w.lastTold origin) : v.Announced password c := by
  rcases Registry.connections.has_acts hacts (hkeys.apart deeds) hsingle h.content with
    ⟨d, hchain, hd⟩
  rcases hchain.cases_tail with rfl | ⟨m, _, hedit⟩
  · exact ⟨hd, fun origin => by rw [htold, h.told]⟩
  · exact absurd hedit (hnone m d)

/-- The connection of one origin changes, and its page is told what becomes of it. -/
theorem changed {event : PageEvent} (hacts : Acts deeds w v) (hsingle : Deed.Single password deeds)
    (hleaves : ∀ other, other ≠ origin → ∀ m n, deeds (.connections m n) →
      n.get? other = m.get? other)
    (hlink : event.link? = some event) (htold : v.told = w.told ++ [(origin, event)])
    (hentry : ∀ d, v.core.connections = some d → (d.get? origin).map (·.name) = event.name?)
    (hloaded : v.core.connections.isSome) : ∃ d, v.Announced password d := by
  rcases Registry.connections.has_acts hacts (hkeys.apart deeds) hsingle h.content with ⟨d, _, hd⟩
  refine ⟨d, hd, fun other => ?_⟩
  -- The page that is told has the entry that it is told of; the others have heard nothing and kept
  -- theirs.
  rcases eq_or_ne other origin with rfl | hother
  · rcases Option.isSome_iff_exists.1 hloaded with ⟨m, hm⟩
    rcases (hd.loaded m hm).2
    rw [lastTold, htold, lastLink_self hlink]
    exact hentry _ hm
  · have hrow := Registry.connections.row hacts (hkeys.apart deeds) hsingle (hleaves other hother)
      h.content hd
    rw [lastTold, htold, lastLink_others, hrow]
    · exact h.told other
    · rintro e he rfl
      rcases List.mem_singleton.1 he
      exact hother rfl

/-- An origin is connected and told so. -/
theorem linked {i : ConnectedIdentity}
    (hconnected : v.connection? origin = some (.of origin i))
    (htold : v.told = w.told ++ [(origin, .connect i.name)])
    (hacts : Acts (fun d => ∃ m, d = .connections m (m.insert origin i)) w v) :
    ∃ d, v.Announced password d := by
  -- The connection that the answer speaks of is read off the map in memory.
  rw [connection?] at hconnected
  rcases Option.map_eq_some_iff.1 hconnected with ⟨j, hj, hij⟩
  rcases Option.bind_eq_some_iff.1 hj with ⟨m, hm, hget⟩
  refine h.changed hkeys hacts (Deed.single_of_apart ?_ password) ?_ rfl htold ?_ (by rw [hm]; rfl)
  · rintro d ⟨m, rfl⟩
    exact id
  · rintro other hother m n ⟨k, hk⟩
    rcases Deed.connections.inj hk with ⟨rfl, rfl⟩
    exact OriginMap.get?_insert_of_ne hother m i
  · intro d hd
    rcases Option.some.inj (hd.symm.trans hm)
    rw [hget]
    exact congrArg some (congrArg Connection.name hij)

/-- An origin is disconnected and told so. -/
theorem disconnected {target : String} {m : OriginMap ConnectedIdentity}
    (hdone : w.Disconnects target origin m v) : ∃ d, v.Announced password d := by
  refine h.changed hkeys hdone.acts (Deed.single_of_apart ?_ password) ?_ rfl hdone.told ?_
    (by rw [hdone.after]; rfl)
  · rintro d rfl
    exact id
  · rintro other hother m' n hd
    rcases Deed.connections.inj hd with ⟨rfl, rfl⟩
    exact OriginMap.get?_erase_of_ne hother m'
  · intro d hd
    rcases Option.some.inj (hd.symm.trans hdone.after)
    rw [m.get?_erase_self]
    rfl

/-- What an operation that did nothing leaves. -/
theorem harmless (hacts : Acts Harmless w v) (htold : v.told = w.told) :
    v.Announced password c :=
  h.quiet hkeys hacts (Deed.single_of_apart (fun _ => False.elim) password) (fun _ _ => id)
    fun origin => congrArg (lastLink origin) htold

theorem connectIdentity (commitment origin : String) :
    ∃ d, (connectIdentity commitment origin w).2.Announced password d := by
  rcases connectIdentity_cases commitment origin w with
    ⟨e, v, hrun, hacts, htold⟩ | ⟨i, v, hrun, hconnected, htold, hacts⟩
  · rw [hrun]
    exact ⟨c, h.harmless hkeys hacts htold⟩
  · rw [hrun]
    exact h.linked hkeys hconnected htold hacts

theorem disconnect (target : String) : ∃ d, (disconnect target w).2.Announced password d := by
  rcases disconnect_cases target w with
    ⟨e, v, hrun, hacts, htold⟩ | ⟨origin, m, connection, v, hrun, hdone⟩
  · rw [hrun]
    exact ⟨c, h.harmless hkeys hacts htold⟩
  · rw [hrun]
    exact h.disconnected hkeys hdone

/-- Taking back an approval is nothing to the connections. -/
theorem unapproved (hacts : Acts (Unapproves origin) w v) (htold : v.told = w.told) :
    v.Announced password c := by
  refine h.quiet hkeys hacts (Deed.single_of_apart ?_ password) ?_
    fun origin => congrArg (lastLink origin) htold
  · rintro d ⟨m, rfl⟩
    exact id
  · rintro m n ⟨k, hk⟩
    cases hk

theorem revoke (hw : w.Guarded) (origin : String) :
    ∃ d, (revoke origin w).2.Announced password d := by
  rcases revoke_cases hw origin with ⟨e, v, hrun, hacts, htold⟩ | ⟨cause, v, hrun, hacts, htold⟩ |
    ⟨a, v, hrun, _, _, ⟨hacts, htold⟩ | ⟨u, n, hacts, htold, hdone⟩⟩
  · rw [hrun]
    exact ⟨c, h.harmless hkeys hacts htold⟩
  · rw [hrun]
    exact ⟨c, h.unapproved hkeys hacts htold⟩
  · rw [hrun]
    exact ⟨c, h.unapproved hkeys hacts htold⟩
  · rw [hrun]
    refine (h.unapproved hkeys hacts htold).disconnected ?_ hdone
    rw [hacts.config]
    exact hkeys

theorem clearConnections (hw : w.Guarded)
    (hclearable : (w.host.storage.slot w.config.storageKeys.connections).clearable = true) :
    ∃ d, (clearConnections w).2.Announced password d := by
  rcases clearConnections_cases hw hclearable with
    ⟨e, v, hrun, hacts, htold⟩ | ⟨u, m, v, hrun, hloads, hm, hempty, htold, hacts⟩
  · rw [hrun]
    exact ⟨c, h.harmless hkeys hacts htold⟩
  rw [hrun]
  have hsingle : Deed.Single password Harmless :=
    Deed.single_of_apart (fun _ => False.elim) password
  rcases Registry.connections.has_acts hloads (hkeys.apart _) hsingle h.content with
    ⟨d, hchain, hd⟩
  rcases hchain.cases_tail with rfl | ⟨_, _, hnone⟩
  · -- The map whose origins are told is the content of the connections.
    rcases (hd.loaded m hm).2
    have hcleared : Deed.Single password fun d => ∃ n, d = Deed.connections n .empty := by
      refine Deed.single_of_apart ?_ password
      rintro d ⟨n, rfl⟩
      exact id
    rcases Registry.connections.has_acts hacts (by rw [hloads.config]; exact hkeys.apart _) hcleared
      hd with ⟨e, _, he⟩
    refine ⟨e, he, fun origin => ?_⟩
    rcases (he.loaded _ hempty).2
    rw [lastTold, htold]
    -- Who was connected is told so and has no entry now; who was not has none and was last told so.
    by_cases hmem : origin ∈ m.entries.map (·.1)
    · have hmap : m.entries.map (fun e => (e.1, PageEvent.disconnect)) =
          (m.entries.map (·.1)).map fun o => (o, .disconnect) := by
        rw [List.map_map]
        rfl
      rw [hmap, lastLink_disconnected hmem]
      rfl
    · rw [lastLink_others]
      · have habsent : m.get? origin = none := by
          rcases hget : m.get? origin with _ | i
          · rfl
          · exact absurd (List.mem_map.2 ⟨_, Assoc.mem_of_lookup hget, rfl⟩) hmem
        have hbefore := h.told origin
        rw [habsent] at hbefore
        exact hbefore
      · rintro e he rfl
        rcases List.mem_map.1 he with ⟨x, hx, rfl⟩
        exact hmem (List.mem_map.2 ⟨x, hx, rfl⟩)
  · exact hnone.elim

end Announced

/-- After a call the pages know the connections. -/
theorem perform_announced {call : Call} (h : w.Announced password c)
    (hkeys : w.config.storageKeys.Distinct) (hw : w.Guarded)
    (hclearable : (w.host.storage.slot w.config.storageKeys.connections).clearable = true)
    (hsingle : Deed.Single password (call.Deeds w)) (hcall : ¬ call.Restores) :
    ∃ d, (perform call w).2.Announced password d := by
  -- The calls that change a connection are taken one by one, and the others are quiet.
  cases call with
  | connectIdentity commitment origin =>
      rw [perform, finish, Op.bind_pure_state]
      exact h.connectIdentity hkeys commitment origin
  | disconnect target =>
      rw [perform, finish, Op.bind_pure_state]
      exact h.disconnect hkeys target
  | revoke origin =>
      rw [perform, finishQuietly, finish, Op.bind_pure_state]
      exact h.revoke hkeys hw origin
  | clearConnections =>
      rw [perform, finishQuietly, finish, Op.bind_pure_state]
      exact h.clearConnections hkeys hw hclearable
  | logout =>
      have htold : (perform .logout w).2.told = w.told := by
        rw [perform, finish, Op.bind_pure_state, logout_told]
      exact ⟨c, h.quiet hkeys (perform_acts .logout w) hsingle (fun _ _ => id)
        fun origin => congrArg (lastLink origin) htold⟩
  | uploadBackup | uploadComponent => exact absurd trivial hcall
  | _ =>
      refine ⟨c, h.quiet hkeys (perform_acts _ w) hsingle (fun _ _ => id)
        fun origin => congrArg (lastLink origin) (perform_told ?_ w)⟩
      exact fun _ _ => trivial

/-- After a part of a call that goes on the pages know the connections. -/
theorem resume_announced (h : w.Announced password c) (hkeys : w.config.storageKeys.Distinct)
    (on : Waiting) : ∃ d, (resume on w).2.Announced password d := by
  by_cases hchoice : ∃ id channel origin, on.asked? = some (id, channel, .identityChoice origin)
  · rcases hchoice with ⟨id, channel, origin, hasked⟩
    rcases resume_choice hasked w with ⟨hacts, htold, _⟩ | ⟨i, _, hconnected, htold, hacts⟩
    · exact ⟨c, h.harmless hkeys hacts htold⟩
    · exact h.linked hkeys hconnected htold hacts
  · refine ⟨c, h.quiet hkeys (resume_acts on w)
      (Deed.single_of_apart (fun _ => Waiting.deeds_apart) password) ?_ fun origin => ?_⟩
    · rintro m n ⟨id, channel, errand, _, hasked, _, origin, _, _, _, _, rfl, _⟩
      exact hchoice ⟨id, channel, origin, hasked⟩
    · rcases resume_told (fun id channel o hasked => hchoice ⟨id, channel, o, hasked⟩) w with
        hsame | ⟨_, _, o, commitment, _, hheard⟩
      · exact congrArg (lastLink origin) hsame
      · rw [lastTold, hheard, lastLink_reveal]
        rfl

end Wallet

/-! ## Runs -/

namespace Run

variable {run : Run} {t : Nat}

/-- A run that begins with no connections kept and no page told anything, in which nothing is
restored, nobody else writes to the slot of the connections, that slot can be emptied, and there is
a single password. -/
structure Outspoken (run : Run) : Prop where
  keys : run.config.storageKeys.Distinct
  blank : (run.wallet 0).kept run.config.storageKeys.connections = none
  untold : (run.wallet 0).told = []
  unrestored : ∀ t call, run.move t = .call call → ¬ call.Restores
  unwritten : ∀ t, ¬ run.WrittenAt t run.config.storageKeys.connections
  clearable : ∀ t,
    ((run.wallet t).host.storage.slot run.config.storageKeys.connections).clearable = true
  password : ∃ password, run.Single password

/-- At all times the pages know the connections. -/
theorem announced {password : String} (h : run.Outspoken) (hsingle : run.Single password)
    (t : Nat) : ∃ c, (run.wallet t).Announced password c := by
  -- What was last told agrees with the content of the slot at every stage, whether it is in memory
  -- or not.
  induction t with
  | zero =>
      refine ⟨.empty, (Shelf.contains_blank connectionsLabel password).congr ?_, fun origin => ?_⟩
      · exact h.blank
      · rw [Wallet.lastTold, h.untold]
        rfl
  | succ t ih =>
      rcases ih with ⟨c, hc⟩
      have hconfig := run.config_eq t
      have hkeys : (run.wallet t).config.storageKeys.Distinct := by
        rw [hconfig]
        exact h.keys
      rcases run.stage_cases t with ⟨call, hmove⟩ | ⟨n, on, hgoes⟩ | hidle
      · rw [wallet_call hmove]
        refine Wallet.perform_announced hc hkeys (run.guarded t) ?_ (hsingle.call hmove)
          (h.unrestored t call hmove)
        rw [hconfig]
        exact h.clearable t
      · rw [wallet_goOn hgoes]
        exact Wallet.resume_announced hc hkeys on
      · have htold := (hidle.routine fun _ _ => True).told fun _ _ => trivial
        refine ⟨c, Registry.connections.has_outside hidle.outside ?_ hc.content, fun origin => ?_⟩
        · rw [hconfig]
          exact h.unwritten t
        · rw [Wallet.lastTold, htold]
          exact hc.told origin

/-- Where the connections are loaded, an origin is connected under a name just if the last message
to it about its connection says so. After a message that it is disconnected, or none at all, it is
not connected. -/
theorem connected_iff_lastTold (h : run.Outspoken)
    (hloaded : (run.wallet t).core.connections.isSome) (origin : String) :
    (∀ name, (∃ connection, (run.wallet t).connection? origin = some connection ∧
        connection.name = name) ↔
      (run.wallet t).lastTold origin = some (.connect name)) ∧
    ((run.wallet t).lastTold origin = some .disconnect ∨ (run.wallet t).lastTold origin = none →
      (run.wallet t).isConnected origin = false) := by
  rcases h.password with ⟨password, hsingle⟩
  rcases announced h hsingle t with ⟨c, hc⟩
  rcases Option.isSome_iff_exists.1 hloaded with ⟨m, hm⟩
  have htold := hc.told origin
  -- In memory there is what the slot holds.
  rw [← (hc.content.loaded m hm).2] at htold
  constructor
  · intro name
    rw [Wallet.exists_connection?_iff hm, htold, PageEvent.bind_name?_eq_some]
  · intro hlast
    have hnone : (m.get? origin).map (·.name) = none := by
      rw [htold]
      rcases hlast with hlast | hlast
      · rw [hlast]
        rfl
      · rw [hlast]
        rfl
    rw [Wallet.isConnected_of_get? hm, Option.map_eq_none_iff.1 hnone]
    rfl

/-- Two origins are connected to one identity, and then one of them is disconnected by the
commitment of that identity. -/
def sharedIdentity : Run where
  move
    | 0 => .host (.insertIdentity
        { commitment := "111", name := "Account", serialized := "secret" })
    | 1 => .call (.setupPassword "password")
    | 2 => .call (.connectIdentity "111" "https://a.test")
    | 3 => .call (.connectIdentity "111" "https://b.test")
    | 4 => .call (.disconnect "111")
    | _ => .goOn 0

theorem sharedIdentity_after (d : Nat) : sharedIdentity.system (2 + d) =
    sharedIdentity.after 2 (System.run 1 (Wallet.finish .flag (Wallet.adopt "password"))
      (sharedIdentity.system 1)).2 d :=
  system_adopts_add rfl (by decide) (by decide +kernel) (by decide +kernel) (by decide +kernel) d

theorem sharedIdentity_clearable : ∀ d ≤ 3, ((sharedIdentity.wallet (2 + d)).host.storage.slot
    sharedIdentity.config.storageKeys.connections).clearable = true := by
  simp only [wallet, sharedIdentity_after]
  decide +kernel

theorem sharedIdentity_outspoken : sharedIdentity.Outspoken where
  keys := ⟨by decide, by decide, by decide⟩
  blank := rfl
  untold := rfl
  unrestored t call hmove := by
    rcases t with _ | _ | _ | _ | _ | t
    all_goals
      cases hmove
      try exact id
  unwritten t := by
    rintro ⟨action, hmove, hwrites⟩
    rcases t with _ | _ | _ | _ | _ | t
    all_goals
      cases hmove
      try exact hwrites
  -- After the three moves from the second on everything is at rest, so few wallets have to be
  -- looked at.
  clearable := by
    refine always_of_rests (s := 2) (t := 3) (n := 0) (P := fun w =>
      (w.host.storage.slot sharedIdentity.config.storageKeys.connections).clearable = true)
      (fun t ht => ?_) sharedIdentity_clearable (fun d => ?_) ?_
    · rcases t with _ | _ | t
      · rfl
      · rfl
      · omega
    · rw [Nat.add_comm]
      rfl
    · rw [sharedIdentity_after 3]
      exact Option.isNone_iff_eq_none.1 (by decide +kernel)
  password := by
    refine ⟨"password", fun t q hq => ?_⟩
    have hmove := hq.imp SetsUp.move Unlocks.move
    rcases t with _ | _ | _ | _ | _ | t
    all_goals
      rcases hmove with (h | h) | h | h
      all_goals cases h
      all_goals rfl

theorem sharedIdentity_connected : (sharedIdentity.wallet 5).core.connections.isSome ∧
    (sharedIdentity.wallet 5).isConnected "https://a.test" = false ∧
    (sharedIdentity.wallet 5).connection? "https://b.test" =
      some { origin := "https://b.test", commitment := "111", name := "Account" } := by
  rw [wallet, sharedIdentity_after 3]
  decide +kernel

/-- The page of the origin that stays connected was told so last, and under that name. -/
theorem connected_iff_lastTold_sharedIdentity :
    (sharedIdentity.wallet 5).lastTold "https://b.test" = some (.connect "Account") ∧
    (sharedIdentity.wallet 5).lastTold "https://a.test" ≠ some (.connect "Account") := by
  rcases sharedIdentity_connected with ⟨hloaded, ha, hb⟩
  constructor
  · exact ((connected_iff_lastTold sharedIdentity_outspoken hloaded _).1 _).1 ⟨_, hb, rfl⟩
  · intro hlast
    rcases ((connected_iff_lastTold sharedIdentity_outspoken hloaded _).1 _).2 hlast with
      ⟨connection, hconnected, _⟩
    rw [Wallet.isConnected, hconnected] at ha
    cases ha

end Run

end WalletTrust

import WalletTrust.Proofs.FiniteMap
import WalletTrust.Proofs.Revoking
import WalletTrust.Proofs.Writes

/-!
# Disconnecting by Name or by Identity

Which connection is removed when the wallet is told to disconnect a text.

The text may be an origin or the commitment of an identity, and nothing tells the two apart. It is
taken as an origin first. Only if that is not connected is it taken as a commitment, and then it may
mean many connections. The one with the least origin is removed, so whoever repeats the request
works through the connections of an identity from the least origin to the greatest.

What makes the repetition end is that each removal takes the first off the list of the connections
that the commitment means, and leaves the rest of the list. A write that is refused ends it earlier,
with the rest of the list still connected.

## Main definitions

* `OriginMap.Names`, `OriginMap.linked`: The connection that a text means, and those of an identity.
* `OriginMap.without`: A map without some origins.
* `Wallet.AtHand`: The connections are loaded, or are found in their slot.
* `Wallet.Severed`: Some connections are removed, and their origins are told.
* `Wallet.Repeats`: A text is disconnected until that fails.
* `Wallet.DisconnectsExactly`: What disconnecting a text comes to, once and repeatedly.

## Theorems

* `OriginMap.linked_of_names`: A removal takes the first off the list.
* `Wallet.disconnect_named`, `Wallet.disconnect_unnamed`: One request.
* `Wallet.Repeats.severed`, `Wallet.repeats_ends`: The repetition.
* `Wallet.disconnectsExactly`: All together.
* `OriginMap.Names.unique`, `OriginMap.not_names_iff`: A text means one connection at most, and when
  it means none.
* `OriginMap.linked_cons`: A commitment means the first connection to its identity, and without that
  one the others are left.
* `Wallet.severed_removed`, `Wallet.severed_refused`: A removal, and one that the slot refuses.
* `Run.twoConnected_disconnects`: Two connections to one identity are removed from the lesser to the
  greater.
-/

namespace WalletTrust

namespace OriginMap

section

variable {α : Type}

/-- The map without some origins. -/
def without (m : OriginMap α) (origins : List String) : OriginMap α :=
  origins.foldl erase m

theorem get?_erase_of_none {m : OriginMap α} {origin : String} (h : m.get? origin = none)
    (other : String) : (m.erase other).get? origin = none := by
  by_cases hsame : origin = other
  · rw [hsame, get?_erase_self]
  · rw [get?_erase_of_ne hsame, h]

end

variable {c : OriginMap ConnectedIdentity} {target : String} {x y : Connection}

/-! ## The connection that is meant -/

/-- The connection that a text means: the one of the origin with this name, or else the one with the
least origin of all that are to the identity with this commitment. -/
inductive Names (c : OriginMap ConnectedIdentity) (target : String) : Connection → Prop
  | origin {i : ConnectedIdentity} (h : c.get? target = some i) : Names c target (.of target i)
  | commitment {origin : String} {i : ConnectedIdentity} (hfree : c.get? target = none)
      (h : c.get? origin = some i) (hcommitment : i.commitment = target)
      (hleast : ∀ other j, c.get? other = some j → j.commitment = target → other ≠ origin →
        Utf8.encode origin < Utf8.encode other) : Names c target (.of origin i)

theorem Names.connected (h : c.Names target x) :
    ∃ i, c.get? x.origin = some i ∧ x = .of x.origin i := by
  cases h with
  | origin h => exact ⟨_, h, rfl⟩
  | commitment hfree h hcommitment hleast => exact ⟨_, h, rfl⟩

/-- The connections to the identity with a commitment, by origin. -/
def linked (c : OriginMap ConnectedIdentity) (target : String) : List Connection :=
  (c.entries.filter fun e => e.2.commitment = target).map fun e => .of e.1 e.2

theorem mem_linked :
    x ∈ c.linked target ↔ ∃ i, c.get? x.origin = some i ∧ i.commitment = target ∧
      x = .of x.origin i := by
  rw [linked, List.mem_map]
  constructor
  · rintro ⟨e, he, rfl⟩
    rcases List.mem_filter.1 he with ⟨hmem, hcommitment⟩
    exact ⟨e.2, c.get?_of_mem hmem, of_decide_eq_true hcommitment, rfl⟩
  · rintro ⟨i, hget, hcommitment, hx⟩
    exact ⟨(x.origin, i), List.mem_filter.2 ⟨Assoc.mem_of_lookup hget,
      decide_eq_true hcommitment⟩, hx.symm⟩

theorem of_mem_linked {origin : String} {i : ConnectedIdentity} (h : c.get? origin = some i)
    (hcommitment : i.commitment = target) : .of origin i ∈ c.linked target :=
  mem_linked.2 ⟨i, h, hcommitment, rfl⟩

theorem linked_ascending (c : OriginMap ConnectedIdentity) (target : String) :
    (c.linked target).Pairwise fun x y => Utf8.encode x.origin < Utf8.encode y.origin :=
  List.pairwise_map.2 ((c.sorted.filter _).imp Utf8.encode_lt_iff.2)

/-- A text means one connection at most. -/
theorem Names.unique (hx : c.Names target x) (hy : c.Names target y) : x = y := by
  cases hx with
  | origin h =>
      cases hy with
      | origin h' => rw [Option.some.inj (h.symm.trans h')]
      | commitment hfree _ _ _ => cases hfree.symm.trans h
  | @commitment origin i hfree h hcommitment hleast =>
      cases hy with
      | origin h' => cases hfree.symm.trans h'
      | @commitment origin' i' _ h' hcommitment' hleast' =>
          -- Of two different origins each would be less than the other.
          by_cases hsame : origin' = origin
          · subst hsame
            rw [Option.some.inj (h.symm.trans h')]
          · have hlt := hleast _ _ h' hcommitment' hsame
            have hgt := hleast' _ _ h hcommitment (Ne.symm hsame)
            exact absurd hgt (List.lt_asymm hlt)

/-- A commitment means the first connection to its identity. Without that one the others are left.
-/
theorem linked_cons {rest : List Connection} (hfree : c.get? target = none)
    (h : c.linked target = x :: rest) :
    c.Names target x ∧ (c.erase x.origin).linked target = rest := by
  rcases List.map_eq_cons_iff.1 h with ⟨e, others, hfilter, rfl, hrest⟩
  have hascends : Assoc.Sorted (e :: others) := hfilter ▸ c.sorted.filter _
  have hbelow := (List.pairwise_cons.1 hascends).1
  have hmem : e ∈ c.entries.filter fun e => e.2.commitment = target :=
    hfilter ▸ List.mem_cons_self
  rcases List.mem_filter.1 hmem with ⟨hentry, hcommitment⟩
  -- The first of those that match has the smallest origin.
  refine ⟨.commitment hfree (c.get?_of_mem hentry) (of_decide_eq_true hcommitment)
    fun other j hother hj hne => ?_, ?_⟩
  · have hothers : (other, j) ∈ e :: others := hfilter ▸ List.mem_filter.2
      ⟨Assoc.mem_of_lookup hother, decide_eq_true hj⟩
    rcases List.mem_cons.1 hothers with rfl | hothers
    · exact absurd rfl hne
    · exact Utf8.encode_lt_iff.2 (hbelow _ hothers)
  · -- The others have greater origins, so removing this one leaves them all.
    have habsent : Assoc.lookup e.1 others = none := Assoc.lookup_eq_none fun hkey => by
      rcases List.mem_map.1 hkey with ⟨e', he', hsame⟩
      exact absurd (hsame ▸ hbelow e' he') (String.lt_irrefl _)
    have herased : (Assoc.erase e.1 c.entries).filter (fun e' => e'.2.commitment = target) =
        others := by
      have hcomm := List.filter_comm (fun e' : String × ConnectedIdentity =>
        e'.2.commitment = target) (fun e' => e'.1 ≠ e.1) c.entries
      rw [hfilter] at hcomm
      exact hcomm.trans ((Assoc.erase_cons e others).trans
        ((if_pos rfl).trans (Assoc.erase_of_lookup habsent)))
    exact (congrArg (List.map _) herased).trans hrest

theorem linked_of_names (hfree : c.get? target = none) (h : c.Names target x) :
    c.linked target = x :: (c.erase x.origin).linked target := by
  rcases hlinked : c.linked target with _ | ⟨y, rest⟩
  · cases h with
    | origin hget => cases hfree.symm.trans hget
    | commitment _ hget hcommitment _ =>
        have hmem := of_mem_linked hget hcommitment
        rw [hlinked] at hmem
        cases hmem
  · rcases linked_cons hfree hlinked with ⟨hnames, hrest⟩
    rw [h.unique hnames, hrest]

/-- A text means nothing if it is no origin that is connected and no commitment of one. -/
theorem not_names_iff : (∀ x, ¬ c.Names target x) ↔
    c.get? target = none ∧ ∀ origin i, c.get? origin = some i → i.commitment ≠ target := by
  constructor
  · intro h
    have hfree : c.get? target = none := Option.eq_none_iff_forall_ne_some.2 fun i hget =>
      h _ (.origin hget)
    refine ⟨hfree, fun origin i hget hcommitment => ?_⟩
    have hmem := of_mem_linked hget hcommitment
    rcases List.exists_cons_of_ne_nil (List.ne_nil_of_mem hmem) with ⟨y, rest, hlinked⟩
    exact h y (linked_cons hfree hlinked).1
  · rintro ⟨hfree, hnone⟩ x hx
    cases hx with
    | origin hget => cases hfree.symm.trans hget
    | commitment _ hget hcommitment _ => exact hnone _ _ hget hcommitment

end OriginMap

namespace Wallet

variable {w u v : Wallet} {key target : String} {c : OriginMap ConnectedIdentity} {x : Connection}
  {removed rest : List Connection} {e : Error}

/-! ## One request -/

/-- The session is unlocked, and the connections are loaded or are found in their slot. -/
structure AtHand (key : String) (c : OriginMap ConnectedIdentity) (w : Wallet) : Prop where
  secret : w.core.session.secret = some key
  found : w.core.connections = some c ∨ w.core.connections = none ∧
    w.connectionShelf.slot.readable = true ∧
    Shelf.Holds connectionsLabel key w.connectionShelf.slot.value c

/-- The wallet with its connections loaded. -/
def withConnections (c : OriginMap ConnectedIdentity) (w : Wallet) : Wallet :=
  { w with core := { w.core with connections := some c } }

theorem withConnections_loaded (h : w.core.connections = some c) : w.withConnections c = w := by
  rw [withConnections, ← h]

/-- The connections are there, or they are loaded from their slot. -/
theorem AtHand.loads (h : w.AtHand key c) : loadConnections w = (.ok (), w.withConnections c) := by
  rw [loadConnections_apply h.secret]
  rcases h.found with hloaded | ⟨hunloaded, hreadable, hholds⟩
  · rw [Shelf.load_loaded (s := w.connectionShelf) _ hloaded, putConnections_self,
      withConnections_loaded hloaded]
  · rw [Shelf.load_held (s := w.connectionShelf) hunloaded hreadable hholds]
    simp only [putConnections, connectionShelf, Storage.put_slot, withConnections]

/-- Some connections are removed, and their origins are told one after the other. Only a removal
writes, and only to the slot of the connections. -/
structure Severed (key : String) (c : OriginMap ConnectedIdentity) (removed : List Connection)
    (w v : Wallet) : Prop where
  core : v.core = { w.core with connections := some (c.without (removed.map (·.origin))) }
  told : v.told = w.told ++ removed.map fun x => (x.origin, .disconnect)
  config : v.config = w.config
  others : ∀ name ≠ w.config.storageKeys.connections,
    v.host.storage.slot name = w.host.storage.slot name
  unwritten : removed = [] → v.connectionShelf.slot.value = w.connectionShelf.slot.value
  written : removed ≠ [] → Shelf.Holds connectionsLabel key v.connectionShelf.slot.value
    (c.without (removed.map (·.origin)))

theorem Severed.atHand (h : w.Severed key c removed v) (hw : w.AtHand key c) :
    v.AtHand key (c.without (removed.map (·.origin))) where
  secret := by rw [h.core]; exact hw.secret
  found := .inl (by rw [h.core])

/-- Nothing is removed. The connections are loaded now. -/
theorem severed_nil (key : String) (c : OriginMap ConnectedIdentity) (w : Wallet) :
    w.Severed key c [] (w.withConnections c) where
  core := rfl
  told := (List.append_nil _).symm
  config := rfl
  others _ _ := rfl
  unwritten _ := rfl
  written hne := absurd rfl hne

/-- Removals that are made one after the other. -/
theorem Severed.trans (h : w.Severed key c removed u)
    (k : u.Severed key (c.without (removed.map (·.origin))) rest v) :
    w.Severed key c (removed ++ rest) v := by
  -- Taking away some and then the rest is taking them all away.
  have hwithout : (c.without (removed.map (·.origin))).without (rest.map (·.origin)) =
      c.without ((removed ++ rest).map (·.origin)) := by
    rw [List.map_append, OriginMap.without, OriginMap.without, OriginMap.without, List.foldl_append]
  refine ⟨?_, ?_, k.config.trans h.config, fun name hname => ?_, fun hnil => ?_, fun hne => ?_⟩
  · rw [k.core, h.core, hwithout]
  · rw [k.told, h.told, List.map_append, List.append_assoc]
  · exact (k.others name (by rwa [h.config])).trans (h.others name hname)
  · rcases List.append_eq_nil_iff.1 hnil with ⟨hremoved, hrest⟩
    exact (k.unwritten hrest).trans (h.unwritten hremoved)
  · by_cases hrest : rest = []
    · -- The slot holds what the last removal wrote.
      subst hrest
      rw [List.append_nil] at hne ⊢
      rw [k.unwritten rfl]
      exact h.written hne
    · rw [← hwithout]
      exact k.written hrest

/-- The origin that is disconnected is that of the connection that is meant. -/
theorem disconnectTarget?_of_names (hc : w.core.connections = some c) (h : c.Names target x) :
    w.disconnectTarget? target = some x.origin := by
  rw [disconnectTarget?, isConnected_of_get? hc]
  by_cases hfree : c.get? target = none
  · have hfirst : (c.find? fun i => i.commitment = target).map (·.1) =
        (c.linked target).head?.map (·.origin) := by
      rw [OriginMap.find?, OriginMap.linked, ← List.head?_filter, List.head?_map, Option.map_map]
      rfl
    rw [hfree, hc, Option.isSome_none, if_neg Bool.false_ne_true, Option.bind_some, hfirst,
      OriginMap.linked_of_names hfree h]
    rfl
  · cases h with
    | origin hget => rw [hget, Option.isSome_some, if_pos rfl]; rfl
    | commitment hnone _ _ _ => exact absurd hnone hfree

/-- A text that means no connection has no origin to be disconnected. -/
theorem disconnectTarget?_of_unnamed (hc : w.core.connections = some c)
    (h : ∀ x, ¬ c.Names target x) : w.disconnectTarget? target = none := by
  rcases OriginMap.not_names_iff.1 h with ⟨hfree, hnone⟩
  rw [disconnectTarget?, isConnected_of_get? hc, hfree, hc, Option.isSome_none,
    if_neg Bool.false_ne_true, Option.bind_some, Option.map_eq_none_iff]
  exact List.find?_eq_none.2 fun e he hcommitment =>
    hnone _ _ (c.get?_of_mem he) (of_decide_eq_true hcommitment)

/-- A write that is refused removes nothing. -/
theorem severed_refused {s : Shelf ConnectedIdentity} (key : String) (hentries : s.entries = some c)
    (hslot : s.slot.value = w.connectionShelf.slot.value) :
    w.Severed key c [] (w.putConnections s) where
  core := by rw [putConnections, hentries]; rfl
  told := (List.append_nil _).symm
  config := rfl
  others _ hname := Storage.slot_put_of_ne hname _ _
  unwritten _ := (congrArg (fun shelf : Shelf ConnectedIdentity => shelf.slot.value)
    (connectionShelf_put s w)).trans hslot
  written hne := absurd rfl hne

/-- A connection is removed by writing the others, and then its page is told. -/
theorem severed_removed {s : Shelf ConnectedIdentity} (w : Wallet)
    (hentries : s.entries = some (c.erase x.origin))
    (hholds : Shelf.Holds connectionsLabel key s.slot.value (c.erase x.origin)) :
    w.Severed key c [x] (notify x.origin .disconnect (w.putConnections s)).2 where
  -- Telling the page writes into the record only.
  core := by
    have hcore : (notify x.origin .disconnect (w.putConnections s)).2.core =
        (w.putConnections s).core := rfl
    rw [hcore, putConnections, hentries]
    rfl
  told := Desktop.pushEvent_told x.origin .disconnect w.host.desktop
  config := rfl
  others _ hname := Storage.slot_put_of_ne hname _ _
  unwritten hnil := absurd hnil (List.cons_ne_nil _ _)
  written _ := by
    have hshelf : (notify x.origin .disconnect (w.putConnections s)).2.connectionShelf =
        (w.putConnections s).connectionShelf := rfl
    rw [hshelf, connectionShelf_put]
    exact hholds

/-- Once the connections are loaded, the rest is about the origin that is meant. -/
theorem disconnect_starts (h : w.AtHand key c) (htarget : target ≠ "") :
    disconnect target w = (do
      let origin ← Op.ofOption .notConnected ((w.withConnections c).disconnectTarget? target)
      let removed ← onConnections (Shelf.remove connectionsLabel (← secret) origin)
      let removed ← Op.ofOption .notConnected removed
      notify origin .disconnect
      return .of origin removed : Op Wallet Connection) (w.withConnections c) := by
  rw [disconnect, if_neg htarget, Op.bind_ok h.loads, Op.bind_ok (x := Op.get) rfl]

/-- What a text means is disconnected, if there is room for the connections that are left. -/
theorem disconnect_named (h : w.AtHand key c) (htarget : target ≠ "") (hx : c.Names target x) :
    (w.connectionShelf.HasRoom connectionsLabel key (c.erase x.origin) ∧
      ∃ v, disconnect target w = (.ok x, v) ∧ w.Severed key c [x] v) ∨
    (¬ w.connectionShelf.HasRoom connectionsLabel key (c.erase x.origin) ∧
      ∃ v, disconnect target w = (.error (.storageWrite "quota exceeded"), v) ∧
        w.Severed key c [] v) := by
  rw [disconnect_starts h htarget]
  generalize hu : w.withConnections c = u
  have hloaded : u.core.connections = some c := by rw [← hu]; rfl
  have hsecret : secret u = (.ok (some key), u) := by rw [← h.secret, ← hu]; rfl
  have hshelf : u.connectionShelf.HasRoom connectionsLabel key (c.erase x.origin) ↔
    w.connectionShelf.HasRoom connectionsLabel key (c.erase x.origin) := by rw [← hu]; rfl
  have hnothing := severed_nil key c w
  rw [hu] at hnothing
  rcases hx.connected with ⟨i, hget, hi⟩
  rw [disconnectTarget?_of_names hloaded hx, Op.bind_ok (x := Op.ofOption _ (some x.origin)) rfl,
    Op.bind_ok hsecret, ← hshelf]
  -- What is meant is there, so only the room in the slot decides.
  rcases Shelf.remove_room connectionsLabel key (s := u.connectionShelf) hloaded hget with
    ⟨hroom, s, hremove, hentries, hholds⟩ | ⟨hfull, s, hremove, hentries, hslot⟩
  · have hrun : onConnections (Shelf.remove connectionsLabel (some key) x.origin) u =
        (.ok (some i), u.putConnections s) := by rw [onConnections_apply, hremove]
    have hnotify : notify x.origin .disconnect (u.putConnections s) =
        (.ok (), (notify x.origin .disconnect (u.putConnections s)).2) := rfl
    refine .inl ⟨hroom, _, ?_, hnothing.trans (severed_removed u hentries hholds)⟩
    rw [Op.bind_ok hrun, Op.bind_ok (x := Op.ofOption _ (some i)) rfl, Op.bind_ok hnotify,
      Op.pure_apply, ← hi]
  · have hrun : onConnections (Shelf.remove connectionsLabel (some key) x.origin) u =
        (.error (.storageWrite "quota exceeded"), u.putConnections s) := by
      rw [onConnections_apply, hremove]
    exact .inr ⟨hfull, _, Op.bind_error hrun _,
      hnothing.trans (severed_refused key hentries hslot)⟩

/-- What means nothing is not disconnected. -/
theorem disconnect_unnamed (h : w.AtHand key c) (htarget : target ≠ "")
    (hnone : ∀ x, ¬ c.Names target x) :
    disconnect target w = (.error .notConnected, w.withConnections c) := by
  rw [disconnect_starts h htarget, disconnectTarget?_of_unnamed rfl hnone]
  rfl

/-! ## Over and over -/

/-- A text is disconnected until that fails: what was removed, and how it failed. -/
inductive Repeats (target : String) : Wallet → List Connection → Error → Wallet → Prop
  | fails {w v : Wallet} {e : Error} (h : disconnect target w = (.error e, v)) :
    Repeats target w [] e v
  | removes {w u v : Wallet} {x : Connection} {rest : List Connection} {e : Error}
    (h : disconnect target w = (.ok x, u)) (hrest : Repeats target u rest e v) :
    Repeats target w (x :: rest) e v

/-- Of an identity that nobody is connected to, nothing is removed. -/
theorem disconnect_unlinked (h : w.AtHand key c) (htarget : target ≠ "")
    (hfree : c.get? target = none) (hlinked : c.linked target = []) :
    disconnect target w = (.error .notConnected, w.withConnections c) := by
  refine disconnect_unnamed h htarget fun x hx => ?_
  rw [OriginMap.linked_of_names hfree hx] at hlinked
  cases hlinked

/-- All connections to the identity are removed in their order, unless a write is refused before. -/
theorem Repeats.severed (hrepeats : Repeats target w removed e v) (h : w.AtHand key c)
    (htarget : target ≠ "") (hfree : c.get? target = none) : w.Severed key c removed v ∧
      (e = .notConnected ∧ removed = c.linked target ∨ ∃ cause, e = .storageWrite cause) := by
  -- The connections change with each removal, and their list loses its first.
  induction hrepeats generalizing c with
  | fails hrun =>
      rcases hlinked : c.linked target with _ | ⟨x, rest⟩
      · have hfails := disconnect_unlinked h htarget hfree hlinked
        rcases Prod.mk.inj (hrun.symm.trans hfails) with ⟨he, rfl⟩
        exact ⟨severed_nil key c _, .inl ⟨Except.error.inj he, rfl⟩⟩
      · rcases disconnect_named h htarget (OriginMap.linked_cons hfree hlinked).1 with
          ⟨_, _, hremoves, _⟩ | ⟨_, _, hrefused, hsevered⟩
        · cases hrun.symm.trans hremoves
        · rcases Prod.mk.inj (hrun.symm.trans hrefused) with ⟨he, rfl⟩
          exact ⟨hsevered, .inr ⟨_, Except.error.inj he⟩⟩
  | @removes w u v x rest e hrun hrest ih =>
      rcases hlinked : c.linked target with _ | ⟨y, others⟩
      · cases hrun.symm.trans (disconnect_unlinked h htarget hfree hlinked)
      · rcases OriginMap.linked_cons hfree hlinked with ⟨hnames, hothers⟩
        rcases disconnect_named h htarget hnames with
          ⟨_, _, hremoves, hsevered⟩ | ⟨_, _, hrefused, _⟩
        · rcases Prod.mk.inj (hrun.symm.trans hremoves) with ⟨hx, rfl⟩
          rcases Except.ok.inj hx
          rcases ih (hsevered.atHand h) (OriginMap.get?_erase_of_none hfree x.origin) with
            ⟨hlater, hends⟩
          refine ⟨hsevered.trans hlater, hends.imp_left fun hdone => ?_⟩
          exact ⟨hdone.1, congrArg (x :: ·) (hdone.2.trans hothers)⟩
        · cases hrun.symm.trans hrefused

/-- However many connections there are, disconnecting them comes to an end. -/
theorem repeats_ends (h : w.AtHand key c) (htarget : target ≠ "") (hfree : c.get? target = none) :
    ∃ removed e v, Repeats target w removed e v := by
  -- Each removal makes the list of what is to be removed shorter.
  generalize hlinked : c.linked target = list
  induction list generalizing w c with
  | nil => exact ⟨_, _, _, .fails (disconnect_unlinked h htarget hfree hlinked)⟩
  | cons x rest ih =>
      rcases OriginMap.linked_cons hfree hlinked with ⟨hnames, hrest⟩
      rcases disconnect_named h htarget hnames with
        ⟨_, u, hremoves, hsevered⟩ | ⟨_, u, hrefused, _⟩
      · rcases ih (hsevered.atHand h) (OriginMap.get?_erase_of_none hfree x.origin) hrest with
          ⟨removed, e, v, hrepeats⟩
        exact ⟨_, e, v, .removes hremoves hrepeats⟩
      · exact ⟨_, _, u, .fails hrefused⟩

/-- What was removed are the connections to the identity, each once and by ascending origin. -/
structure Exhausts (c : OriginMap ConnectedIdentity) (target : String)
    (removed : List Connection) : Prop where
  count : removed.length = c.entries.countP fun e => e.2.commitment = target
  ascending : removed.Pairwise fun x y => Utf8.encode x.origin < Utf8.encode y.origin
  complete : ∀ x, x ∈ removed ↔
    ∃ i, c.get? x.origin = some i ∧ i.commitment = target ∧ x = .of x.origin i

/-- What the commitment means, in order, is all that there is to be removed. -/
theorem exhausts_linked (c : OriginMap ConnectedIdentity) (target : String) :
    Exhausts c target (c.linked target) where
  count := by rw [OriginMap.linked, List.length_map, List.countP_eq_length_filter]
  ascending := c.linked_ascending target
  complete _ := OriginMap.mem_linked

/-- What disconnecting a text comes to. -/
structure DisconnectsExactly (w : Wallet) (key : String) (c : OriginMap ConnectedIdentity)
    (target : String) : Prop where
  /-- The connection that is meant is removed and returned, and it is the only one. -/
  removes : ∀ x, c.Names target x →
    w.connectionShelf.HasRoom connectionsLabel key (c.erase x.origin) →
    ∃ v, disconnect target w = (.ok x, v) ∧ w.Severed key c [x] v
  fails : (disconnect target w).1 = .error .notConnected ↔
    c.get? target = none ∧ ∀ origin i, c.get? origin = some i → i.commitment ≠ target
  unchanged : (disconnect target w).1 = .error .notConnected →
    (disconnect target w).2 = w.withConnections c ∧
      (w.core.connections = some c → (disconnect target w).2 = w)
  /-- A commitment can be disconnected only so often. -/
  ends : c.get? target = none → ∃ removed e v, Repeats target w removed e v
  /-- If no write is refused, that is as often as there are origins connected to the identity. -/
  exhausts : c.get? target = none → ∀ removed e v, Repeats target w removed e v →
    (∀ cause, e ≠ .storageWrite cause) →
    e = .notConnected ∧ Exhausts c target removed ∧ w.Severed key c removed v

/-- Disconnecting a text removes the connection that it means and no other, and doing so over and
over removes those of an identity one by one. -/
theorem disconnectsExactly (h : w.AtHand key c) (htarget : target ≠ "") :
    w.DisconnectsExactly key c target := by
  -- With a connection that is meant the call succeeds or fails in the write, and that is another
  -- error.
  have hfails : (disconnect target w).1 = .error .notConnected ↔ ∀ x, ¬ c.Names target x := by
    constructor
    · intro hrun x hx
      rcases disconnect_named h htarget hx with ⟨_, v, hremoves, _⟩ | ⟨_, v, hrefused, _⟩
      · rw [hremoves] at hrun
        cases hrun
      · rw [hrefused] at hrun
        cases hrun
    · intro hnone
      rw [disconnect_unnamed h htarget hnone]
  refine ⟨fun x hx hroom => ?_, hfails.trans OriginMap.not_names_iff, fun hrun => ?_,
    repeats_ends h htarget, fun hfree removed e v hrepeats hwrites => ?_⟩
  · exact (disconnect_named h htarget hx).elim (·.2) fun hrefused => absurd hroom hrefused.1
  · rw [disconnect_unnamed h htarget (hfails.1 hrun)]
    exact ⟨rfl, withConnections_loaded⟩
  · rcases hrepeats.severed h htarget hfree with ⟨hsevered, ⟨he, hremoved⟩ | ⟨cause, he⟩⟩
    · exact ⟨he, hremoved ▸ exhausts_linked c target, hsevered⟩
    · exact absurd he (hwrites cause)

end Wallet

namespace Run

/-- Two origins are connected to one identity, the greater one first. -/
def twoConnected : Run where
  move
    | 0 => .host (.insertIdentity
        { commitment := "111", name := "Account", serialized := "secret" })
    | 1 => .call (.setupPassword "password")
    | 2 => .call (.connectIdentity "111" "https://b.test")
    | _ => .call (.connectIdentity "111" "https://a.test")

def twoConnections : OriginMap ConnectedIdentity :=
  (OriginMap.empty.insert "https://b.test" { commitment := "111", name := "Account" }).insert
    "https://a.test" { commitment := "111", name := "Account" }

theorem twoConnected_atHand : (twoConnected.wallet 4).AtHand "password" twoConnections := by
  rw [wallet, system_adopts_add (t := 1) (d := 2) rfl (by decide) rfl rfl rfl]
  exact ⟨by decide +kernel, .inl (by decide +kernel)⟩

/-- The commitment means two connections, and they are removed from the lesser to the greater. -/
theorem twoConnected_disconnects :
    (twoConnected.wallet 4).AtHand "password" twoConnections ∧ "111" ≠ "" ∧
    (twoConnected.wallet 4).DisconnectsExactly "password" twoConnections "111" ∧
    twoConnections.linked "111" = [
      { origin := "https://a.test", commitment := "111", name := "Account" },
      { origin := "https://b.test", commitment := "111", name := "Account" }] :=
  ⟨twoConnected_atHand, by decide, Wallet.disconnectsExactly twoConnected_atHand (by decide),
    by decide +kernel⟩

end Run

end WalletTrust

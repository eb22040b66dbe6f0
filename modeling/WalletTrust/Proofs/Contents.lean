import WalletTrust.Proofs.Mirror

/-!
# The Contents of the Registries

Which map a registry has at any time, loaded or not.

As long as a wallet knows a single password, each registry has one content: the map that its slot
holds under that password. What is loaded is that map and nothing else, so the content is there
while the session is locked too, and it is the same map again when the registry is loaded the next
time. An act leaves the content alone or edits it, and several acts make a chain of edits. All this
is said of either registry at once.

That there is a single password is an assumption about the deeds. A text that is sealed under one
password might open with another and be some other map.

`Mirror` says that memory and slot agree, and that is enough for what happens in one stage. A
statement that follows an origin through many stages needs a map that is there all the time, and
that is the content. It follows the same acts with the same case analysis; what it needs besides is
that the password is always the same one.

## Main definitions

* `Shelf.Contains`: A shelf has a content.
* `Registry.Has`: A registry has a content.
* `Wallet.HasApprovals`, `Wallet.HasConnections`: The contents of the two registries.
* `Deed.Single`, `Run.Single`: There is a single password.

## Theorems

* `Registry.has_act`, `Registry.has_acts`: Acts change a content by their edits.
* `Registry.row`: An origin that all edits leave as it is stays so.
* `Registry.has_run`: In a run with a single password each registry has a content at all times, if
  its slot is empty at first and only the wallet writes there.
* `Deed.single_of_apart`: Deeds that do not touch the session know no password.
* `Shelf.Act.contains`, `SessionLock.Act.contains`: Acts on a shelf and on the lock.
* `Registry.has_outside`, `Run.single_stage`: What comes from outside, and stages.
-/

namespace WalletTrust

open Relation (ReflTransGen)

theorem OriginMap.get?_chain {α : Type} {edits : OriginMap α → OriginMap α → Prop}
    {m n : OriginMap α} {origin : String} (h : ReflTransGen edits m n)
    (hedits : ∀ m n, edits m n → n.get? origin = m.get? origin) :
    n.get? origin = m.get? origin := by
  induction h with
  | refl => rfl
  | tail _ hedit ih => exact (hedits _ _ hedit).trans ih

/-- No password is set up or unlocks the session but a single one. -/
def Deed.Single (password : String) (deeds : Deed → Prop) : Prop :=
  ∀ q, deeds (.unlock q) ∨ deeds (.setUp q) → q = password

/-- Deeds that do not touch the session know no password. -/
theorem Deed.single_of_apart {deeds : Deed → Prop} (h : ∀ d, deeds d → ¬ d.OfSession)
    (password : String) : Deed.Single password deeds := by
  rintro q (hd | hd)
  · exact absurd trivial (h _ hd)
  · exact absurd trivial (h _ hd)

/-! ## Shelves -/

namespace Shelf

variable {α : Type} [Wire α] {label : ShelfLabel} {secret value : Option String}
  {edits : OriginMap α → OriginMap α → Prop} {password : String} {entries : Option (OriginMap α)}
  {m n : OriginMap α} {s t : Shelf α}

/-- The slot holds a map under the single password, and no other map is loaded. -/
structure Contains (label : ShelfLabel) (password : String) (m : OriginMap α)
    (secret value : Option String) (entries : Option (OriginMap α)) : Prop where
  single : ∀ key, secret = some key → key = password
  loaded : ∀ n, entries = some n → secret.isSome ∧ n = m
  kept : Holds label password value m

/-- At first, with nothing kept, the content is the empty map. -/
theorem contains_blank (label : ShelfLabel) (password : String) :
    Contains label password (.empty : OriginMap α) none none none where
  single := by rintro key ⟨⟩
  loaded := by rintro n ⟨⟩
  kept := rfl

theorem Contains.unload (h : Contains label password m secret value entries) :
    Contains label password m none value (none : Option (OriginMap α)) where
  single := by rintro key ⟨⟩
  loaded := by rintro n ⟨⟩
  kept := h.kept

theorem Contains.congr {kept : Option String} (h : Contains label password m secret value entries)
    (hkept : kept = value) : Contains label password m secret kept entries :=
  hkept ▸ h

/-- An act leaves the content alone or edits it. -/
theorem Act.contains (h : Act label secret edits s t)
    (hs : Contains label password m secret s.slot.value s.entries) :
    ∃ n, (n = m ∨ edits m n) ∧ Contains label password n secret t.slot.value t.entries := by
  cases h with
  | kept hentries hslot =>
      rw [hentries, hslot]
      exact ⟨m, .inl rfl, hs⟩
  | loaded key next hkey hunloaded hholds hentries hslot =>
      rcases hs.single key hkey
      rw [hentries, hslot]
      refine ⟨m, .inl rfl, hs.single, fun n hn => ⟨hkey ▸ rfl, ?_⟩, hs.kept⟩
      rcases Option.some.inj hn
      exact holds_unique hholds hs.kept
  | edited key before next hkey hbefore hedit hentries hholds =>
      -- What is edited is what is loaded, and that is the content.
      rcases (hs.loaded before hbefore).2
      rcases hs.single key hkey
      rw [hentries]
      exact ⟨next, .inr hedit, hs.single,
        fun n hn => ⟨hkey ▸ rfl, (Option.some.inj hn).symm⟩, hholds⟩
  | cleared key hkey hedit hentries hslot =>
      rw [hentries, hslot]
      refine ⟨.empty, .inr (hedit m), hs.single, fun n hn => ⟨hkey ▸ rfl, ?_⟩, rfl⟩
      rcases Option.map_eq_some_iff.1 hn with ⟨_, _, rfl⟩
      rfl

/-- With the secret, the content is loaded. -/
theorem load_contains (hs : Contains label password m secret s.slot.value s.entries)
    (hsecret : secret.isSome) (hreadable : s.slot.readable = true) :
    load label secret s = (.ok (), { s with entries := some m }) := by
  rcases Option.isSome_iff_exists.1 hsecret with ⟨key, rfl⟩
  rcases hs.single key rfl
  rcases hentries : s.entries with _ | n
  · exact load_held hentries hreadable hs.kept
  · rcases (hs.loaded n hentries).2
    rw [load_loaded _ hentries, ← hentries]

end Shelf

/-- The lock leaves a content alone: the secret changes only where nothing is loaded. -/
theorem SessionLock.Act.contains {α : Type} [Wire α] {label : ShelfLabel} {password : String}
    {value : Option String} {entries : Option (OriginMap α)} {m : OriginMap α}
    {deeds : Deed → Prop} {l l' : SessionLock} (h : SessionLock.Act deeds l l')
    (hsingle : Deed.Single password deeds)
    (hl : Shelf.Contains label password m l.session.secret value entries) :
    Shelf.Contains label password m l'.session.secret value entries := by
  -- Unlocking comes to a locked wallet, which has no map in memory, and there is one password only.
  have hholding {q : String} (hq : q = password) (hlocked : l.session.secret = none) :
      Shelf.Contains label password m (some q) value entries := by
    refine ⟨fun key hkey => (Option.some.inj hkey).symm.trans hq, fun n hn => ?_, hl.kept⟩
    have hsome := (hl.loaded n hn).1
    rw [hlocked] at hsome
    cases hsome
  cases h with
  | still hsession hslot =>
      rw [hsession]
      exact hl
  | unlocked q verifier hdeed hlocked hverifier hsession hslot =>
      rw [hsession]
      exact hholding (hsingle q (.inl hdeed)) hlocked
  | setUp q hdeed hempty hslot hsession =>
      split at hsession
      · rw [hsession]
        exact hl
      · next hlocked =>
        rw [hsession]
        exact hholding (hsingle q (.inr hdeed)) (Session.secret_eq_none hlocked)

/-! ## Registries -/

namespace Registry

variable {α : Type} [Wire α] {deeds : Deed → Prop} {written : String → Prop} {password : String}
  {w v : Wallet} {m n : OriginMap α}

/-- The content of a registry. -/
abbrev Has (r : Registry α) (password : String) (m : OriginMap α) (w : Wallet) : Prop :=
  Shelf.Contains r.label password m w.core.session.secret (r.kept w) (r.entries w.core)

/-- An act leaves the content of a registry alone or edits it. -/
theorem has_act (r : Registry α) (h : Wallet.Act deeds w v)
    (hkeys : w.config.storageKeys.Apart deeds) (hsingle : Deed.Single password deeds)
    (hw : r.Has password m w) : ∃ n, (n = m ∨ deeds (r.edit m n)) ∧ r.Has password n v := by
  -- An act spares the registry, edits it, or is one of the lock.
  cases r.fares h hkeys with
  | spared hsession hkept hentries =>
      refine ⟨m, .inl rfl, ?_⟩
      rw [Has, hsession, hkept, hentries]
      exact hw
  | edited s hshelf hsession hkept hentries =>
      rcases hshelf.contains hw with ⟨n, hedit, hs⟩
      refine ⟨n, hedit, ?_⟩
      rw [Has, hsession, hkept, hentries]
      exact hs
  | lock l hlock hsession hkept hentries =>
      refine ⟨m, .inl rfl, ?_⟩
      rw [Has, hsession, hkept, hentries]
      exact hlock.contains hsingle hw
  | shut _ hsession hkept hentries =>
      refine ⟨m, .inl rfl, ?_⟩
      rw [Has, hsession, hkept, hentries]
      exact hw.unload

/-- Acts change the content of a registry by a chain of their edits. -/
theorem has_acts (r : Registry α) (h : Wallet.Acts deeds w v)
    (hkeys : w.config.storageKeys.Apart deeds) (hsingle : Deed.Single password deeds)
    (hw : r.Has password m w) :
    ∃ n, ReflTransGen (fun m n => deeds (r.edit m n)) m n ∧ r.Has password n v := by
  induction h with
  | refl => exact ⟨m, .refl, hw⟩
  | tail hacts hact ih =>
      rcases ih with ⟨before, hchain, hbefore⟩
      rw [← Wallet.Acts.config hacts] at hkeys
      rcases r.has_act hact hkeys hsingle hbefore with ⟨n, rfl | hedit, hn⟩
      · exact ⟨n, hchain, hn⟩
      · exact ⟨n, hchain.tail hedit, hn⟩

/-- An origin that all edits leave as it is stays as it is. -/
theorem row (r : Registry α) {origin : String} (h : Wallet.Acts deeds w v)
    (hkeys : w.config.storageKeys.Apart deeds) (hsingle : Deed.Single password deeds)
    (hleaves : ∀ m n, deeds (r.edit m n) → n.get? origin = m.get? origin)
    (hw : r.Has password m w) (hv : r.Has password n v) : n.get? origin = m.get? origin := by
  rcases r.has_acts h hkeys hsingle hw with ⟨next, hchain, hnext⟩
  rcases Shelf.holds_unique hnext.kept hv.kept
  exact OriginMap.get?_chain hchain hleaves

/-- Where its slot is not written to from outside, a registry keeps its content. -/
theorem has_outside (r : Registry α) (h : w.Outside written v)
    (hname : ¬ written (r.name w.config.storageKeys)) (hw : r.Has password m w) :
    r.Has password m v := by
  rw [Has, h.session, r.kept_outside h hname, r.outside h]
  exact hw

end Registry

/-- The content of the approvals. -/
abbrev Wallet.HasApprovals (password : String) (a : OriginMap HostPermission) (w : Wallet) : Prop :=
  Shelf.Contains approvalsLabel password a w.core.session.secret
    (w.kept w.config.storageKeys.approvals) w.core.approvals

/-- The content of the connections. -/
abbrev Wallet.HasConnections (password : String) (c : OriginMap ConnectedIdentity) (w : Wallet) :
    Prop :=
  Shelf.Contains connectionsLabel password c w.core.session.secret
    (w.kept w.config.storageKeys.connections) w.core.connections

/-! ## Runs -/

namespace Run

variable {run : Run} {password : String} {t : Nat}

/-- No password is set up in a run or unlocks the session but a single one. -/
def Single (run : Run) (password : String) : Prop :=
  ∀ t q, run.SetsUp t q ∨ run.Unlocks t q → q = password

theorem Single.call {call : Call} (h : run.Single password) (hmove : run.move t = .call call) :
    Deed.Single password (call.Deeds (run.wallet t)) := by
  rintro q (hunlocks | hsets)
  · exact h t q (.inr (unlocks_of_deeds hmove hunlocks).1)
  · exact h t q (.inl (setsUp_of_deeds hmove hsets))

/-- A stage does deeds with the single password, or only the slots change from outside. -/
theorem single_stage (run : Run) (h : run.Single password) (t : Nat) :
    (∃ deeds, Deed.Single password deeds ∧
      Wallet.Acts deeds (run.wallet t) (run.wallet (t + 1))) ∨
    (run.wallet t).Outside (run.WrittenAt t) (run.wallet (t + 1)) := by
  rcases run.deeds_stage t with ⟨call, hmove, hacts⟩ | ⟨n, on, hgoes, hacts⟩ | hout
  · exact .inl ⟨_, h.call hmove, hacts⟩
  · exact .inl ⟨_, Deed.single_of_apart (fun _ => Waiting.deeds_apart) password, hacts⟩
  · exact .inr hout

end Run

/-- A registry has a content at all times. By induction on the stages: a stage changes the content
by a chain of edits or, if it comes from outside, not at all. -/
theorem Registry.has_run {α : Type} [Wire α] (r : Registry α) {run : Run} {password : String}
    (h : run.Single password) (hkeys : run.config.storageKeys.Distinct)
    (hblank : (run.wallet 0).kept (r.name run.config.storageKeys) = none)
    (hwritten : ∀ t, ¬ run.WrittenAt t (r.name run.config.storageKeys)) (t : Nat) :
    ∃ m, r.Has password m (run.wallet t) := by
  -- The slot begins blank, and each stage leaves it with some content for the password.
  induction t with
  | zero =>
      have hfirst := Shelf.contains_blank (α := α) r.label password
      rw [← r.blank] at hfirst
      exact ⟨.empty, hfirst.congr hblank⟩
  | succ t ih =>
      rcases ih with ⟨m, hm⟩
      have hconfig := run.config_eq t
      rcases run.single_stage h t with ⟨deeds, hsingle, hacts⟩ | hout
      · rcases r.has_acts hacts (by rw [hconfig]; exact hkeys.apart deeds) hsingle hm with
          ⟨n, _, hn⟩
        exact ⟨n, hn⟩
      · exact ⟨m, r.has_outside hout (by rw [hconfig]; exact hwritten t) hm⟩

end WalletTrust

import Mathlib.Logic.Relation
import WalletTrust.Proofs.ReadBack
import WalletTrust.Proofs.Routine
import WalletTrust.Proofs.Sealing

/-!
# What a Shelf Holds

The map beside a slot, and what the slot makes of it.

A slot holds a map under a secret if it is empty and so is the map, or if its text opens with the
secret and is the text of the map. Sealing draws on randomness, so many texts hold one map, but a
text holds one map only.

An operation on a shelf is a sequence of small acts. It draws randomness or is refused a write, and
then map and slot stay as they are; it loads what the slot holds; or it edits the map, and then the
slot holds the new map. In each act but the first the session lends its secret. Which edits an
operation makes is a parameter: whoever knows that an operation edits nothing, or sets one origin
only, knows it of every act.

What an operation does is said in three forms, for three uses. The equations say what it comes to
where the map is loaded, for whoever computes. The cases list how it can end, for whoever looks at
the answer. The acts say which edits it may have made, for whoever follows the registries through a
run and does not care for the answer.

## Main definitions

* `Shelf.Holds`: What the value of a slot holds under a secret.
* `Shelf.Act`, `Shelf.Acts`: The acts of an operation, one and many.
* `Shelf.HasRoom`: The slot has room for a map.

## Theorems

* `Shelf.holds_unique`: A slot holds one map.
* `Shelf.holds_sealed`: A slot holds the map that was sealed into it.
* `Shelf.load_held`: What a slot holds is loaded.
* `Shelf.load_acts`, `Shelf.upsert_acts`, `Shelf.remove_acts`, `Shelf.clear_acts`,
  `Shelf.uploadBackup_acts`: What the operations do.
* `Shelf.upsert_cases`: Setting a value edits nothing unless it succeeds.
* `Shelf.load_cases`, `Shelf.load_loaded`, `Shelf.load_locked`: Whatever is loaded is what the slot
  holds, once, and not without the secret.
* `Shelf.commit_fits`, `Shelf.commit_full`, `Shelf.commit_cases`: A map is written if there is room
  for it.
* `Shelf.upsert_loaded`, `Shelf.remove_loaded`, `Shelf.remove_room`: The operations on a map that is
  loaded.
* `Shelf.clear_clearable`, `Shelf.clear_unclearable`: A slot that can be cleared, and one that
  cannot.
-/

namespace WalletTrust

namespace Shelf

open Op (Within)
open Relation (ReflTransGen)

variable {α β : Type}

theorem held_loaded {s : Shelf α} {m : OriginMap α} (h : s.entries = some m) :
    held s = (.ok m, s) := by
  simp only [held, Op.bind_apply, Op.get, h, Op.ofOption, Op.pure_apply]

/-- Who finds a map beside the slot leaves it there. -/
theorem held_ok {s t : Shelf α} {m : OriginMap α} (h : held s = (.ok m, t)) :
    s.entries = some m ∧ t = s := by
  rcases hentries : s.entries with _ | n
  · simp only [held, Op.bind_apply, Op.get, hentries, Op.ofOption, Op.fail] at h
    cases congrArg Prod.fst h
  · rw [held_loaded hentries] at h
    rcases Prod.mk.inj h with ⟨hm, rfl⟩
    exact ⟨congrArg some (Except.ok.inj hm), rfl⟩

/-- A slot that can be read gives what it holds. -/
theorem read_readable {s : Shelf α} (h : s.slot.readable = true) :
    onSlot Slot.read s = (.ok s.slot.value, s) := by
  simp only [onSlot, Op.zoom, Slot.read, h, if_true]

/-- One that cannot fails, and whatever it holds stays there. -/
theorem read_unreadable {s : Shelf α} (h : s.slot.readable = false) :
    onSlot Slot.read s = (.error (.storageRead "slot unreadable"), s) := by
  simp only [onSlot, Op.zoom, Slot.read, h, Bool.false_eq_true, if_false]

variable [Wire α]

/-! ## What a slot holds -/

/-- What the value of a slot holds under a secret. -/
def Holds (label : ShelfLabel) (key : String) : Option String → OriginMap α → Prop
  | none, m => m = .empty
  | some sealed, m => ∃ plain, SealedText.open sealed key label.purpose = .ok plain ∧
      OriginMap.ofText? plain = some m

variable {label : ShelfLabel} {key : String} {value : Option String} {m next : OriginMap α}

/-- A slot holds one map at most under one secret, since what is opened is what was sealed. -/
theorem holds_unique {n : OriginMap α} (hm : Holds label key value m)
    (hn : Holds label key value n) : m = n := by
  cases value with
  | none => exact hm.trans hn.symm
  | some sealed =>
      rcases hm with ⟨plain, hopen, hm⟩
      rcases hn with ⟨_, hopen', hn⟩
      rcases Except.ok.inj (hopen.symm.trans hopen')
      exact Option.some.inj (hm.symm.trans hn)

/-- What was sealed under a secret is what the slot holds under it. -/
theorem holds_sealed [LawfulWire α] (label : ShelfLabel) (key : String) (m : OriginMap α)
    (e : Entropy) : Holds label key (some (SealedText.sealFresh m.text key label.purpose e).1) m :=
  ⟨m.text, SealedText.open_sealFresh _ _ _ _, m.ofText?_text⟩

/-- With the secret, what is not loaded yet is read from the slot. -/
theorem load_unloaded {s : Shelf α} (h : s.entries = none) :
    load label (some key) s = (do
      match ← onSlot Slot.read with
      | none => Op.modify fun shelf => { shelf with entries := some .empty }
      | some sealed =>
        let plain ← Op.ofExcept (SealedText.open sealed key label.purpose)
        let m ← Op.ofExcept (parse label plain)
        Op.modify fun shelf => { shelf with entries := some m } : Op (Shelf α) Unit) s := by
  have hunloaded : ¬ s.isLoaded = true := by rw [isLoaded, h]; exact Bool.false_ne_true
  rw [load, Op.bind_ok (x := Op.get) rfl, if_neg hunloaded]
  exact Op.bind_ok (x := borrow (some key)) rfl _

/-- What a readable slot holds under the secret is loaded. -/
theorem load_held {s : Shelf α} (hunloaded : s.entries = none) (hreadable : s.slot.readable = true)
    (h : Holds label key s.slot.value m) :
    load label (some key) s = (.ok (), { s with entries := some m }) := by
  rw [load_unloaded hunloaded, Op.bind_ok (read_readable hreadable)]
  rcases hvalue : s.slot.value with _ | sealed
  · rw [hvalue] at h
    rw [h]
    rfl
  · rw [hvalue] at h
    rcases h with ⟨plain, hopen, hmap⟩
    have hparse : parse label plain = .ok m := by rw [parse, hmap]
    simp only [hopen]
    rw [Op.bind_ok (x := Op.ofExcept _) rfl, hparse, Op.bind_ok (x := Op.ofExcept _) rfl]
    rfl

/-- Whatever is loaded is what the slot holds. -/
theorem load_cases (label : ShelfLabel) (key : String) {s : Shelf α} (h : s.entries = none) :
    (∃ e, load label (some key) s = (.error e, s)) ∨
    ∃ m, Holds label key s.slot.value m ∧
      load label (some key) s = (.ok (), { s with entries := some m }) := by
  rw [load_unloaded h]
  -- A slot that cannot be read leaves the shelf as it was, and so does whatever goes wrong after
  -- it.
  rcases hreadable : s.slot.readable with _ | _
  · exact .inl ⟨_, Op.bind_error (read_unreadable hreadable) _⟩
  rw [Op.bind_ok (read_readable hreadable)]
  rcases s.slot.value with _ | sealed
  · exact .inr ⟨.empty, rfl, rfl⟩
  · -- A text may fail to open, and what opens may fail to be a map.
    dsimp only
    generalize hopen : SealedText.open sealed key label.purpose = opened
    cases opened with
    | error e => exact .inl ⟨e, Op.bind_error (x := Op.ofExcept (.error e)) rfl _⟩
    | ok plain =>
      rw [Op.bind_ok (x := Op.ofExcept (.ok plain)) rfl]
      generalize hparse : (parse label plain : Except Error (OriginMap α)) = parsed
      cases parsed with
      | error e => exact .inl ⟨e, Op.bind_error (x := Op.ofExcept (.error e)) rfl _⟩
      | ok m =>
        refine .inr ⟨m, ⟨plain, hopen, ?_⟩, Op.bind_ok (x := Op.ofExcept (.ok m)) rfl _⟩
        rw [parse] at hparse
        split at hparse
        · next hmap => rw [hmap, Except.ok.inj hparse]
        · cases hparse

/-- A map that is loaded is not loaded again. -/
theorem load_loaded {s : Shelf α} (secret : Option String) (h : s.entries = some m) :
    load label secret s = (.ok (), s) := by
  have hloaded : s.isLoaded = true := by rw [isLoaded, h]; rfl
  rw [load, Op.bind_ok (x := Op.get) rfl, if_pos hloaded, Op.pure_apply]

/-- Without the secret nothing is loaded. -/
theorem load_locked {s : Shelf α} (h : s.entries = none) :
    load label none s = (.error .notProvided, s) := by
  have hunloaded : ¬ s.isLoaded = true := by rw [isLoaded, h]; exact Bool.false_ne_true
  rw [load, Op.bind_ok (x := Op.get) rfl, if_neg hunloaded]
  exact Op.bind_error rfl _

/-- Loading that succeeds leaves a map beside the slot, and the slot as it was. -/
theorem load_ok {s t : Shelf α} {secret : Option String} {u : Unit}
    (h : load label secret s = (.ok u, t)) : ∃ m, t.entries = some m ∧ t.slot = s.slot := by
  rcases hentries : s.entries with _ | m
  · cases secret with
    | none =>
        rw [load_locked hentries] at h
        cases congrArg Prod.fst h
    | some key =>
        rcases load_cases label key hentries with ⟨e, hrun⟩ | ⟨m, _, hrun⟩
        · cases congrArg Prod.fst (hrun.symm.trans h)
        · rw [← (Prod.mk.inj (hrun.symm.trans h)).2]
          exact ⟨m, rfl, rfl⟩
  · rw [load_loaded secret hentries] at h
    rw [← (Prod.mk.inj h).2]
    exact ⟨m, hentries, rfl⟩

/-! ## Acts -/

/-- One act of an operation that borrows `secret` and makes the edits in `edits`. -/
inductive Act (label : ShelfLabel) (secret : Option String)
    (edits : OriginMap α → OriginMap α → Prop) (s t : Shelf α) : Prop
  /-- Randomness is drawn, or a write is refused. -/
  | kept (hentries : t.entries = s.entries) (hslot : t.slot.value = s.slot.value)
  | loaded (key : String) (m : OriginMap α) (hsecret : secret = some key)
      (hunloaded : s.entries = none) (hholds : Holds label key s.slot.value m)
      (hentries : t.entries = some m) (hslot : t.slot = s.slot)
  | edited (key : String) (m next : OriginMap α) (hsecret : secret = some key)
      (hbefore : s.entries = some m) (hedit : edits m next) (hentries : t.entries = some next)
      (hholds : Holds label key t.slot.value next)
  /-- The slot is emptied, and the map with it if it is loaded. -/
  | cleared (key : String) (hsecret : secret = some key) (hedit : ∀ m, edits m .empty)
      (hentries : t.entries = s.entries.map fun _ => .empty) (hslot : t.slot.value = none)

/-- The acts of an operation, one after the other. -/
def Acts (label : ShelfLabel) (secret : Option String)
    (edits : OriginMap α → OriginMap α → Prop) : Shelf α → Shelf α → Prop :=
  ReflTransGen (Act label secret edits)

variable {secret : Option String} {edits : OriginMap α → OriginMap α → Prop} {s t : Shelf α}

instance : Std.Refl (Acts label secret edits) := ⟨fun _ => .refl⟩

instance : Trans (Acts label secret edits) (Acts label secret edits) (Acts label secret edits) :=
  ⟨ReflTransGen.trans⟩

/-- No edits at all. -/
def Untouched : OriginMap α → OriginMap α → Prop := fun _ _ => False

/-- Who may make more edits may make these. -/
theorem Act.mono {more : OriginMap α → OriginMap α → Prop} (h : ∀ m n, edits m n → more m n)
    (hact : Act label secret edits s t) : Act label secret more s t := by
  cases hact with
  | kept hentries hslot => exact .kept hentries hslot
  | loaded key m hsecret hunloaded hholds hentries hslot =>
      exact .loaded key m hsecret hunloaded hholds hentries hslot
  | edited key m next hsecret hbefore hedit hentries hholds =>
      exact .edited key m next hsecret hbefore (h _ _ hedit) hentries hholds
  | cleared key hsecret hedit hentries hslot =>
      exact .cleared key hsecret (fun m => h _ _ (hedit m)) hentries hslot

/-- The text in the slot changes only with an edit, and with the secret. -/
theorem Act.slot_value (h : Act label secret edits s t) : t.slot.value = s.slot.value ∨
    (secret.isSome ∧ ∃ m n, edits m n) := by
  cases h with
  | kept hentries hslot => exact .inl hslot
  | loaded key m hsecret hunloaded hholds hentries hslot => exact .inl (congrArg Slot.value hslot)
  | edited key m next hsecret hbefore hedit => exact .inr ⟨hsecret ▸ rfl, m, next, hedit⟩
  | cleared key hsecret hedit => exact .inr ⟨hsecret ▸ rfl, .empty, .empty, hedit .empty⟩

/-- However many there are. -/
theorem Acts.mono {more : OriginMap α → OriginMap α → Prop} (h : ∀ m n, edits m n → more m n)
    (hacts : Acts label secret edits s t) : Acts label secret more s t :=
  ReflTransGen.mono (fun _ _ => Act.mono h) s t hacts

/-- An operation that changes neither the text in the slot nor the map beside it edits nothing. -/
theorem acts_kept {x : Op (Shelf α) β} (hentries : ∀ s, (x s).2.entries = s.entries)
    (hslot : ∀ s, (x s).2.slot.value = s.slot.value) : Within (Acts label secret edits) x :=
  fun s => .single (.kept (hentries s) (hslot s))

/-- Reading edits nothing. -/
theorem read_acts : Within (Acts label secret edits) (onSlot Slot.read : Op (Shelf α) _) :=
  acts_kept (fun _ => rfl) fun s => by
    simp only [onSlot, Op.zoom, Slot.read]
    split
    · rfl
    · rfl

/-- Neither does sealing, which only uses up random bytes. -/
theorem sealWith_acts (key plain : String) (purpose : Purpose) :
    Within (Acts label secret edits) (sealWith key plain purpose : Op (Shelf α) String) :=
  acts_kept (fun _ => rfl) fun _ => rfl

/-- Nor does loading: the map that is there then is the one that the slot has held. -/
theorem load_acts (label : ShelfLabel) (secret : Option String) :
    Within (Acts label secret edits) (load label secret : Op (Shelf α) Unit) := by
  intro s
  rcases hentries : s.entries with _ | m
  · cases secret with
    | none =>
        rw [load_locked hentries]
        exact Std.Refl.refl s
    | some key =>
        rcases load_cases label key hentries with ⟨e, hrun⟩ | ⟨m, hholds, hrun⟩
        · rw [hrun]
          exact Std.Refl.refl s
        · rw [hrun]
          exact .single (.loaded key m rfl hentries hholds rfl rfl)
  · rw [load_loaded secret hentries]
    exact Std.Refl.refl s

/-- The slot has room for a map that is sealed next. -/
def HasRoom (label : ShelfLabel) (key : String) (m : OriginMap α) (s : Shelf α) : Prop :=
  s.slot.admits (SealedText.sealFresh m.text key label.purpose s.entropy).1 = true

/-- Room is a matter of the quota and of the map. -/
theorem hasRoom_congr (h : t.slot.quota = s.slot.quota) (key : String) (m : OriginMap α) :
    t.HasRoom label key m ↔ s.HasRoom label key m := by
  rw [HasRoom, HasRoom, Slot.admits, Slot.admits, SealedText.utf8ByteSize_sealFresh,
    SealedText.utf8ByteSize_sealFresh, h]

/-- Without a quota there is always room. -/
theorem hasRoom_of_quota (h : s.slot.quota = none) (label : ShelfLabel) (key : String)
    (m : OriginMap α) : s.HasRoom label key m := by
  rw [HasRoom, Slot.admits, h]

/-- With the secret, a map is sealed, written and put beside the slot, if the slot has room. -/
theorem commit_room (label : ShelfLabel) (key : String) (next : OriginMap α) (s : Shelf α) :
    let sealed := SealedText.sealFresh next.text key label.purpose s.entropy
    commit label (some key) next s =
      if s.slot.admits sealed.1 then (.ok (), {
        entries := some next
        slot := { s.slot with value := some sealed.1, sets := s.slot.sets + 1 }
        entropy := sealed.2 })
      else (.error (.storageWrite "quota exceeded"),
        { s with slot := { s.slot with sets := s.slot.sets + 1 }, entropy := sealed.2 }) := by
  intro sealed
  rcases hadmits : s.slot.admits sealed.1 with _ | _
  · simp only [commit, borrow, Op.ofOption, Op.bind_apply, Op.pure_apply, sealWith, Op.draw,
      onSlot, Op.zoom, Slot.write, sealed, hadmits, Bool.false_eq_true, if_false]
  · simp only [commit, borrow, Op.ofOption, Op.bind_apply, Op.pure_apply, sealWith, Op.draw,
      onSlot, Op.zoom, Slot.write, sealed, hadmits, if_true, Op.modify]

/-- A map that there is room for is committed. -/
theorem commit_fits (h : s.HasRoom label key next) :
    commit label (some key) next s = (.ok (), {
      entries := some next
      slot := { s.slot with
        value := some (SealedText.sealFresh next.text key label.purpose s.entropy).1
        sets := s.slot.sets + 1 }
      entropy := (SealedText.sealFresh next.text key label.purpose s.entropy).2 }) :=
  (commit_room label key next s).trans (if_pos h)

/-- A map that there is no room for is sealed in vain. -/
theorem commit_full (h : ¬ s.HasRoom label key next) :
    commit label (some key) next s = (.error (.storageWrite "quota exceeded"), { s with
      slot := { s.slot with sets := s.slot.sets + 1 }
      entropy := (SealedText.sealFresh next.text key label.purpose s.entropy).2 }) :=
  (commit_room label key next s).trans (if_neg h)

/-- A commit edits the map, or it fails and edits nothing. -/
theorem commit_cases [LawfulWire α] (label : ShelfLabel) (secret : Option String)
    (next : OriginMap α) (s : Shelf α) :
    ((∃ e, (commit label secret next s).1 = .error e) ∧
      (commit label secret next s).2.entries = s.entries ∧
      (commit label secret next s).2.slot.value = s.slot.value) ∨
    ∃ key, secret = some key ∧ (commit label secret next s).1 = .ok () ∧
      (commit label secret next s).2.entries = some next ∧
      Holds label key (commit label secret next s).2.slot.value next := by
  cases secret with
  | none => exact .inl ⟨⟨_, rfl⟩, rfl, rfl⟩
  | some key =>
      -- The map changes after the write, so a write that is refused leaves both as they are.
      rw [commit_room]
      split
      · exact .inr ⟨key, rfl, rfl, rfl, holds_sealed label key next s.entropy⟩
      · exact .inl ⟨⟨_, rfl⟩, rfl, rfl⟩

/-- To commit a map is to edit the one that was loaded, or to fail and leave both. -/
theorem commit_acts [LawfulWire α] {next : OriginMap α} (hbefore : s.entries = some m)
    (hedit : edits m next) : Acts label secret edits s (commit label secret next s).2 := by
  rcases commit_cases label secret next s with
    ⟨_, hentries, hslot⟩ | ⟨key, hsecret, _, hentries, hholds⟩
  · exact .single (.kept hentries hslot)
  · exact .single (.edited key m next hsecret hbefore hedit hentries hholds)

/-- A map that was committed is beside the slot. -/
theorem commit_ok [LawfulWire α] {u : Unit} (h : commit label secret next s = (.ok u, t)) :
    t.entries = some next := by
  rcases commit_cases label secret next s with ⟨⟨e, herror⟩, _, _⟩ | ⟨_, _, _, hentries, _⟩
  · rw [h] at herror
    cases herror
  · rw [h] at hentries
    exact hentries

section Upsert

variable [DecidableEq α] {origin : String} {v : α}

/-- In a map that is loaded a value is set at once. -/
theorem upsert_loaded (label : ShelfLabel) (secret : Option String) (h : s.entries = some m) :
    upsert label secret origin v s =
      if m.get? origin = some v then (.ok false, s)
      else (commit label secret (m.insert origin v) >>= fun _ =>
        (pure true : Op (Shelf α) Bool)) s := by
  rw [upsert, Op.bind_ok (load_loaded secret h), Op.bind_ok (held_loaded h)]
  split
  · rfl
  · rfl

variable [LawfulWire α]

/-- Setting a value edits the map that is loaded, if there is one. -/
theorem upsert_acts (label : ShelfLabel) (secret : Option String) (origin : String) (v : α)
    (s : Shelf α) :
    Acts label secret (fun m next => (s.isLoaded → s.entries = some m) ∧ next = m.insert origin v)
      s (upsert label secret origin v s).2 := by
  rcases hentries : s.entries with _ | m
  · -- What is loaded on the way is not known beforehand, but then nothing is said of it either.
    have hwithin : Within (Acts label secret fun m next => next = m.insert origin v)
        (upsert label secret origin v) := by
      refine .bind (load_acts _ _) fun _ => ?_
      refine held_bind fun s m hm => ?_
      split
      · exact Std.Refl.refl s
      · rw [Op.bind_pure_state]
        exact commit_acts hm rfl
    refine (hwithin s).mono fun m n hinsert => ⟨fun hloaded => ?_, hinsert⟩
    rw [isLoaded, hentries] at hloaded
    cases hloaded
  -- The map is known, and so is the one that takes its place.
  · rw [upsert_loaded label secret hentries]
    split
    · exact Std.Refl.refl s
    · rw [Op.bind_pure_state]
      exact commit_acts hentries ⟨fun _ => rfl, rfl⟩

/-- Setting a value edits nothing unless it succeeds. -/
theorem upsert_cases (label : ShelfLabel) (secret : Option String) (origin : String) (v : α)
    (s : Shelf α) : (upsert label secret origin v s).1 = .ok true ∨
      Acts label secret Untouched s (upsert label secret origin v s).2 := by
  have hloads : Acts label secret Untouched s (load label secret s).2 := load_acts label secret s
  rcases hload : load label secret s with ⟨outcome, t⟩
  rw [hload] at hloads
  cases outcome with
  | error e =>
      rw [upsert, Op.bind_error hload]
      exact .inr hloads
  | ok _ =>
      rw [upsert, Op.bind_ok hload]
      rcases hentries : t.entries with _ | m
      · have hheld : held t = (.error .notProvided, t) := by
          simp only [held, Op.bind_apply, Op.get, hentries, Op.ofOption, Op.fail]
        rw [Op.bind_error hheld]
        exact .inr hloads
      · rw [Op.bind_ok (held_loaded hentries)]
        split
        · exact .inr hloads
        · rcases hcommit : commit label secret (m.insert origin v) t with ⟨outcome, u⟩
          -- A commit that fails edits nothing, and one that succeeds is the whole answer.
          cases outcome with
          | ok _ => exact .inl (by rw [Op.bind_ok hcommit, Op.pure_apply])
          | error e =>
              rw [Op.bind_error hcommit]
              have hcases := commit_cases label secret (m.insert origin v) t
              rw [hcommit] at hcases
              rcases hcases with ⟨_, hsame, hslot⟩ | ⟨_, _, hok, _⟩
              · exact .inr (hloads.tail (.kept hsame hslot))
              · cases hok

/-- A value that was set is there. -/
theorem upsert_ok {b : Bool} (h : upsert label secret origin v s = (.ok b, t)) :
    ∃ m, t.entries = some m ∧ m.get? origin = some v := by
  rcases Op.bind_cases h with ⟨_, u, _, hrest⟩
  rcases Op.bind_cases hrest with ⟨m, u', hheld, hset⟩
  rcases held_ok hheld with ⟨hm, rfl⟩
  split at hset
  · next hsame =>
    rcases Prod.mk.inj hset with ⟨_, rfl⟩
    exact ⟨m, hm, hsame⟩
  · rcases Op.bind_cases hset with ⟨_, u'', hcommit, hdone⟩
    rcases Prod.mk.inj hdone with ⟨_, rfl⟩
    exact ⟨m.insert origin v, commit_ok hcommit, m.get?_insert_self origin v⟩

end Upsert

/-! ## The other operations -/

/-- In a map that is loaded an origin is removed at once, if it is there. -/
theorem remove_loaded (label : ShelfLabel) (secret : Option String) (origin : String)
    (h : s.entries = some m) : remove label secret origin s = match m.get? origin with
      | none => (.ok none, s)
      | some v => (commit label secret (m.erase origin) >>= fun _ =>
          (pure (some v) : Op (Shelf α) (Option α))) s := by
  rw [remove, Op.bind_ok (load_loaded secret h), Op.bind_ok (held_loaded h)]
  cases m.get? origin with
  | none => rfl
  | some v => rfl

/-- Removing an origin from a map that is loaded is a matter of room. -/
theorem remove_room [LawfulWire α] {v : α} {origin : String} (label : ShelfLabel) (key : String)
    (h : s.entries = some m) (hget : m.get? origin = some v) :
    (s.HasRoom label key (m.erase origin) ∧
      ∃ t, remove label (some key) origin s = (.ok (some v), t) ∧
        t.entries = some (m.erase origin) ∧ Holds label key t.slot.value (m.erase origin)) ∨
    (¬ s.HasRoom label key (m.erase origin) ∧
      ∃ t, remove label (some key) origin s = (.error (.storageWrite "quota exceeded"), t) ∧
        t.entries = some m ∧ t.slot.value = s.slot.value) := by
  rw [remove_loaded label (some key) origin h, hget]
  dsimp only
  by_cases hroom : s.HasRoom label key (m.erase origin)
  · exact .inl ⟨hroom, _, Op.bind_ok (commit_fits hroom) _, rfl,
      holds_sealed label key _ s.entropy⟩
  · exact .inr ⟨hroom, _, Op.bind_error (commit_full hroom) _, h, rfl⟩

omit [Wire α] in
/-- A slot that can be cleared is, and the map beside it is empty then if there is one. -/
theorem clear_clearable (key : String) (h : s.slot.clearable = true) :
    clear (some key) s = (.ok (), {
      s with slot := s.slot.erased, entries := s.entries.map fun _ => .empty }) := by
  simp only [clear, borrow, Op.ofOption, Op.bind_apply, Op.pure_apply, onSlot, Op.zoom, Slot.clear,
    h, if_true, Op.modify]

omit [Wire α] in
/-- A slot that cannot be cleared keeps what it holds, and the map beside it stays too. -/
theorem clear_unclearable (key : String) (h : s.slot.clearable = false) :
    clear (some key) s = (.error (.storageWrite "slot not clearable"), s) := by
  simp only [clear, borrow, Op.ofOption, Op.bind_apply, Op.pure_apply, onSlot, Op.zoom, Slot.clear,
    h, Bool.false_eq_true, if_false]

/-- Clearing makes the map the empty one. -/
theorem clear_acts (label : ShelfLabel) (secret : Option String) :
    Within (Acts label secret fun _ next => next = .empty)
      (clear secret : Op (Shelf α) Unit) := by
  intro s
  cases secret with
  | none => exact Std.Refl.refl s
  | some key =>
      rcases hclearable : s.slot.clearable with _ | _
      · rw [clear_unclearable key hclearable]
        exact Std.Refl.refl s
      · rw [clear_clearable key hclearable]
        exact .single (.cleared key rfl (fun _ => rfl) rfl rfl)

/-- A backup edits nothing, however it ends. -/
theorem downloadBackup_acts (label : ShelfLabel) (secret : Option String) (password : String) :
    Within (Acts label secret edits)
      (downloadBackup label secret password : Op (Shelf α) (Option String)) := by
  unfold downloadBackup
  refine .bind read_acts fun sealed => ?_
  cases sealed with
  | none => exact .pure _
  | some sealed =>
      refine .bind (.ofOption _ _) fun key => ?_
      refine .bind (.ofExcept _) fun plain => ?_
      refine .bind (sealWith_acts _ _ _) fun _ => ?_
      exact .pure _

variable [LawfulWire α]

/-- Removing an origin edits the map by erasing it, or not at all. -/
theorem remove_acts (label : ShelfLabel) (secret : Option String) (origin : String) :
    Within (Acts label secret fun m next => next = m.erase origin)
      (remove label secret origin : Op (Shelf α) (Option α)) := by
  unfold remove
  refine .bind (load_acts _ _) fun _ => ?_
  refine held_bind fun s m hm => ?_
  cases m.get? origin with
  | none => exact Std.Refl.refl s
  | some value =>
      dsimp only
      rw [Op.bind_pure_state]
      exact commit_acts hm rfl

/-- Removing an origin edits nothing unless it succeeds. -/
theorem remove_cases (label : ShelfLabel) (secret : Option String) (origin : String)
    (s : Shelf α) :
    (∃ e t, remove label secret origin s = (.error e, t) ∧ Acts label secret Untouched s t) ∨
    ∃ m t, remove label secret origin s = (.ok (m.get? origin), t) ∧
      (s.isLoaded → s.entries = some m) ∧ t.entries = some (m.erase origin) ∧
      Acts label secret (fun n next => n = m ∧ next = m.erase origin) s t := by
  have hloads : Acts label secret Untouched s (load label secret s).2 := load_acts label secret s
  rcases hload : load label secret s with ⟨outcome, t⟩
  rw [hload] at hloads
  cases outcome with
  | error e => exact .inl ⟨e, t, by rw [remove, Op.bind_error hload], hloads⟩
  | ok _ =>
      rcases load_ok hload with ⟨m, hm, _⟩
      -- Loading twice is loading once, so the removal may start from the loaded shelf.
      have hbefore : s.isLoaded → s.entries = some m := fun hloaded => by
        rcases Option.isSome_iff_exists.1 hloaded with ⟨n, hn⟩
        rw [load_loaded secret hn] at hload
        rw [(Prod.mk.inj hload).2, hm]
      have hrun : remove label secret origin s = remove label secret origin t := by
        rw [remove, Op.bind_ok hload, Op.bind_ok (load_loaded secret hm)]
      rw [hrun, remove_loaded label secret origin hm]
      rcases hget : m.get? origin with _ | v
      · -- An origin that is not there is removed by leaving the map as it is.
        refine .inr ⟨m, t, by rw [hget], hbefore, ?_, hloads.mono fun _ _ hnone => hnone.elim⟩
        rw [OriginMap.erase_absent hget]
        exact hm
      · dsimp only
        have hcommits : Acts label secret (fun n next => n = m ∧ next = m.erase origin) t
            (commit label secret (m.erase origin) t).2 := commit_acts hm ⟨rfl, rfl⟩
        -- A write that is refused keeps the map, and the removal has failed.
        rcases hcommit : commit label secret (m.erase origin) t with ⟨outcome, u⟩
        rw [hcommit] at hcommits
        cases outcome with
        | error e =>
            have hcases := commit_cases label secret (m.erase origin) t
            rw [hcommit] at hcases
            rcases hcases with ⟨_, hentries, hslot⟩ | ⟨_, _, hok, _⟩
            · exact .inl ⟨e, u, by rw [Op.bind_error hcommit], hloads.tail (.kept hentries hslot)⟩
            · cases hok
        | ok _ =>
            refine .inr ⟨m, u, by rw [Op.bind_ok hcommit, Op.pure_apply, hget], hbefore,
              commit_ok hcommit, ?_⟩
            exact ReflTransGen.trans (hloads.mono fun _ _ hnone => hnone.elim) hcommits

/-- A backup that is restored is put over the map that is there. -/
theorem uploadBackup_acts (label : ShelfLabel) (secret : Option String) (blob password : String) :
    Within (Acts label secret fun m next => ∃ uploaded, next = m.overrideBy uploaded)
      (uploadBackup label secret blob password : Op (Shelf α) Unit) := by
  unfold uploadBackup
  refine .bind (.ofOption _ _) fun uploaded => ?_
  refine .bind (load_acts _ _) fun _ => ?_
  exact held_bind fun s m hm => commit_acts hm ⟨uploaded, rfl⟩

/-! ## Without the secret -/

omit [LawfulWire α]

/-- Without a secret there is nothing loaded and nothing can be, so nothing is changed either. -/
theorem upsert_locked [DecidableEq α] (origin : String) (v : α) (h : s.entries = none) :
    upsert label none origin v s = (.error .notProvided, s) := by
  rw [upsert, Op.bind_error (load_locked h)]

/-- The same holds of an origin that is to be removed. -/
theorem remove_locked (origin : String) (h : s.entries = none) :
    remove label none origin s = (.error .notProvided, s) := by
  rw [remove, Op.bind_error (load_locked h)]

/-- And of a backup that is to be restored, whatever it is worth. -/
theorem uploadBackup_locked (label : ShelfLabel) (blob password : String) (h : s.entries = none) :
    ∃ e, uploadBackup label none blob password s = (.error e, s) := by
  rw [uploadBackup]
  rcases hblob : (restored? label blob password : Option (OriginMap α)) with _ | uploaded
  · exact ⟨_, Op.bind_error rfl _⟩
  · rw [Op.ofOption, Op.bind_ok (Op.pure_apply uploaded s), Op.bind_error (load_locked h)]
    exact ⟨_, rfl⟩

end Shelf

end WalletTrust

import Mathlib.Data.List.Sort
import Mathlib.Logic.Function.Basic
import WalletTrust.Proofs.ByteOrder
import WalletTrust.Proofs.Failures
import WalletTrust.Proofs.Maps
import WalletTrust.Proofs.Restoring

/-!
# A Shelf is a Finite Map

What a shelf answers, said without secrets and texts.

A shelf keeps its map as one sealed text, rewrites the whole of it for each change and forgets what
it has read when it is unloaded. None of this shows in its answers. As long as it is lent one secret
it answers as a function from origins to values does that is changed at one origin at a time.

The slot has a say in this, and it is the only thing that has. It may be out of order when it has to
be read or cleared, and it may have no room for the map that a change would lead to. `Refuses` says
which requests meet such an obstacle, and it says so of the slot and of the function alone. What the
shelf answers does not come into it, so no answer is excused by being an error. A request that is
refused fails with the error of the slot, and the function stays what it was; the requests that come
after it are answered by that function. A request that is not refused is served. On a slot that can
be read and cleared and takes every text nothing is ever refused, and there the slot disappears from
the statement: the answers are those of the function, one after the other.

What carries this through a sequence of requests is that the slot holds the map under the secret,
and that the map beside the slot is this map if it is loaded at all. A request that needs the map
finds it in either case, so it does not matter when the shelf was loaded and unloaded, as long as
the slot can be read when the map is not loaded. A write replaces both at once, and a write that is
refused replaces neither.

## Main definitions

* `Shelf.backupPairs?`: What a backup restores, if it is accepted.
* `Shelf.Request.next`, `Shelf.Request.Answers`, `Shelf.Request.writes`, `Shelf.Request.loads`:
  How a finite map changes with a request, what is answered, how often the slot is written, and
  whether the map is loaded afterwards.
* `Shelf.Request.reads`, `Shelf.Refuses`: When the slot has to be read, and what it refuses.
* `Shelf.Serves`: A shelf answers all of some requests as a finite map does, and as its slot where
  that refuses.
* `Shelf.Represents`: A map is what the slot holds, and what is beside it if anything is.
* `Shelf.replies`, `Shelf.Answered`: What some requests are answered, and whether a finite map
  answers that.

## Theorems

* `OriginMap.get?_setAll_last`: Of several pairs with one origin the last counts.
* `OriginMap.ext_get?`: A map is what is looked up in it.
* `Shelf.Represents.load`: The map is found, unless it has to be read from a slot that cannot be.
* `Shelf.Represents.settles`: One request is refused and changes nothing, or it is served.
* `Shelf.serves_from_empty`: Any number of requests, beginning with an empty slot.
* `Shelf.Serves.answered`: Without an obstacle all answers are those of the finite map.
* `Shelf.upsert_unread`: A slot that is not read is not enough.
-/

namespace WalletTrust

namespace OriginMap

variable {α : Type}

/-- Of several pairs with one origin the last counts. -/
theorem get?_setAll_last (m : OriginMap α) (pairs : List (String × α)) (origin : String) :
    (m.setAll pairs).get? origin = (Assoc.lookup origin pairs.reverse).or (m.get? origin) := by
  induction pairs generalizing m with
  | nil => rfl
  | cons pair rest ih =>
      have hrest := ih (m.insert pair.1 pair.2)
      rw [setAll] at hrest
      rw [setAll, List.foldl_cons, hrest, List.reverse_cons, Assoc.lookup_append, Option.or_assoc]
      congr 1
      rw [Assoc.lookup]
      split
      · next same => rw [same, get?_insert_self, Option.some_or]
      · next hne => rw [get?_insert_of_ne (Ne.symm hne), Assoc.lookup, Option.none_or]

/-- Of several pairs for an origin the last one counts. -/
theorem get?_overrideBy_ofList (m : OriginMap α) (pairs : List (String × α)) (origin : String) :
    (m.overrideBy (ofList pairs)).get? origin =
      (Assoc.lookup origin pairs.reverse).or (m.get? origin) := by
  rw [get?_overrideBy, ofList, get?_setAll_last]
  have hempty : (empty : OriginMap α).get? origin = none := rfl
  rw [hempty, Option.or_none]

theorem get?_insert (m : OriginMap α) (origin : String) (value : α) :
    (m.insert origin value).get? = Function.update m.get? origin (some value) := by
  funext other
  rw [Function.update_apply]
  split
  · next same => rw [same, get?_insert_self]
  · next hne => exact get?_insert_of_ne hne m value

theorem get?_erase (m : OriginMap α) (origin : String) :
    (m.erase origin).get? = Function.update m.get? origin none := by
  funext other
  rw [Function.update_apply]
  split
  · next same => rw [same, get?_erase_self]
  · next hne => exact get?_erase_of_ne hne m

/-- A map is what is looked up in it. Two lists that ascend and have the same members are one list,
and the members of a map are its look-ups. -/
theorem ext_get? {m n : OriginMap α} (h : m.get? = n.get?) : m = n := by
  have hmem (m : OriginMap α) (e : String × α) : e ∈ m.entries ↔ m.get? e.1 = some e.2 :=
    ⟨m.get?_of_mem, Assoc.mem_of_lookup⟩
  have hirrefl : Std.Irrefl fun a b : String × α => a.1 < b.1 := ⟨fun a => String.lt_irrefl a.1⟩
  have hantisymm : Std.Antisymm fun a b : String × α => a.1 < b.1 :=
    ⟨fun a _ hab hba => absurd (String.lt_trans hab hba) (String.lt_irrefl a.1)⟩
  refine ext_entries (m.sorted.eq_of_mem_iff n.sorted fun e => ?_)
  rw [hmem, hmem, h]

end OriginMap

namespace Shelf

variable {α : Type}

/-! ## The finite map -/

/-- The entries are those of the finite map, in the order of their origins' bytes. -/
structure Lists (f : String → Option α) (entries : List (String × α)) : Prop where
  ascending : entries.Pairwise fun a b => Utf8.encode a.1 < Utf8.encode b.1
  complete : ∀ origin value, (origin, value) ∈ entries ↔ f origin = some value

/-- The entry is the one with the least origin among those of the finite map that pass a test. -/
def Finds (f : String → Option α) (test : α → Bool) : Option (String × α) → Prop
  | none => ∀ origin value, f origin = some value → test value = false
  | some e => f e.1 = some e.2 ∧ test e.2 = true ∧ ∀ origin value, f origin = some value →
      test value = true → origin ≠ e.1 → Utf8.encode e.1 < Utf8.encode origin

/-- The search stops at the least origin whose value passes. -/
theorem finds_find? (m : OriginMap α) (test : α → Bool) : Finds m.get? test (m.find? test) := by
  rcases hfind : m.find? test with _ | e
  · intro origin value hvalue
    have hnone := List.find?_eq_none.1 hfind _ (Assoc.mem_of_lookup hvalue)
    exact Bool.eq_false_iff.2 hnone
  · rcases List.find?_eq_some_iff_append.1 hfind with ⟨htest, before, after, hentries, hbefore⟩
    have hmem : e ∈ m.entries := by
      rw [hentries]
      exact List.mem_append_right _ List.mem_cons_self
    refine ⟨m.get?_of_mem hmem, htest, fun origin value hvalue hpasses hne => ?_⟩
    have hother := Assoc.mem_of_lookup hvalue
    have hsorted := m.sorted
    rw [hentries] at hother
    rw [Assoc.Sorted, hentries] at hsorted
    -- Whoever passes the test and stands before the one that is found would have been found
    -- instead.
    rcases List.mem_append.1 hother with hmem | hmem
    · have hfails := hbefore _ hmem
      rw [hpasses] at hfails
      cases hfails
    · rcases List.mem_cons.1 hmem with rfl | hmem
      · exact absurd rfl hne
      · have hrest := (List.pairwise_append.1 hsorted).2.1
        exact Utf8.encode_lt_iff.2 ((List.pairwise_cons.1 hrest).1 _ hmem)

/-- The list has each origin once, in order. -/
theorem lists_entries (m : OriginMap α) : Lists m.get? m.entries where
  ascending := m.sorted.imp Utf8.encode_lt_iff.2
  complete _ _ := ⟨m.get?_of_mem, Assoc.mem_of_lookup⟩

variable [Wire α]

/-- The pairs that a backup restores, if it is signed with the password, opens with it and is a list
of pairs. -/
def backupPairs? (label : ShelfLabel) (blob password : String) : Option (List (String × α)) :=
  match BackupBlob.verify blob password with
  | .error _ => none
  | .ok sealed =>
    match SealedText.open sealed password label.purpose with
    | .error _ => none
    | .ok plain => (Json.read? plain).bind Wire.ofJson?

namespace Request

/-- The finite map after a request. -/
def next (label : ShelfLabel) (f : String → Option α) : Request α → String → Option α
  | .upsert origin value => Function.update f origin (some value)
  | .remove origin => Function.update f origin none
  | .clear => fun _ => none
  | .uploadBackup blob password =>
    match backupPairs? label blob password with
    | some pairs => fun origin => (Assoc.lookup origin pairs.reverse).or (f origin)
    | none => f
  | _ => f

variable [DecidableEq α]

/-- What is answered. -/
def Answers (label : ShelfLabel) (f : String → Option α) :
    Request α → Except Error (Reply α) → Prop
  | .load, outcome => outcome = .ok .done
  | .unload, outcome => outcome = .ok .done
  | .get origin, outcome => outcome = .ok (.value (f origin))
  | .find test, outcome => ∃ found, outcome = .ok (.entry found) ∧ Finds f test found
  | .list, outcome => ∃ all, outcome = .ok (.entries all) ∧ Lists f all
  | .upsert origin value, outcome => outcome = .ok (.changed (f origin ≠ some value))
  | .remove origin, outcome => outcome = .ok (.value (f origin))
  | .clear, outcome => outcome = .ok .done
  | .uploadBackup blob password, outcome =>
    outcome = match (backupPairs? label blob password : Option (List (String × α))) with
      | some _ => .ok .done
      | none => .error (.incorrectBackupFormat label.component)
  | .downloadBackup password, outcome => ∃ data m, outcome = .ok (.backup data) ∧
      Backs label password data m ∧ m.get? = f

/-- Whether the request only looks at a map that is loaded. -/
def looks : Request α → Bool
  | .get _ | .find _ | .list => true
  | _ => false

/-- How often the slot is written: for a change at an origin, and for a backup that is accepted. -/
def writes (label : ShelfLabel) (f : String → Option α) : Request α → Nat
  | .upsert origin value => if f origin = some value then 0 else 1
  | .remove origin => if f origin = none then 0 else 1
  | .uploadBackup blob password =>
    if (backupPairs? label blob password : Option (List (String × α))).isSome then 1 else 0
  | _ => 0

omit [DecidableEq α]

/-- Whether the map is loaded after the request, if it was or was not before. -/
def loads (label : ShelfLabel) (loaded : Bool) : Request α → Bool
  | .load | .upsert _ _ | .remove _ => true
  | .unload => false
  | .uploadBackup blob password =>
    loaded || (backupPairs? label blob password : Option (List (String × α))).isSome
  | _ => loaded

/-- Whether the slot has to be read: to load the map, or to make a backup of what is there. -/
def reads (label : ShelfLabel) (loaded : Bool) : Request α → Bool
  | .load | .upsert _ _ | .remove _ => !loaded
  | .uploadBackup blob password =>
    !loaded && (backupPairs? label blob password : Option (List (String × α))).isSome
  | .downloadBackup _ => true
  | _ => false

end Request

variable {label : ShelfLabel} {key : String} {m next : OriginMap α} {s : Shelf α}
  {f : String → Option α} {e : Error} {tries : Nat}

/-! ## What the slot refuses -/

/-- The slot does not do what a request asks of it: it is to be read and cannot be, it is to be
written and has no room for the map that comes next, or it is to be cleared and cannot be. What it
answers then, and how often it is tried to be written. -/
inductive Refuses [DecidableEq α] (label : ShelfLabel) (key : String) (f : String → Option α)
    (request : Request α) (s : Shelf α) : Error → Nat → Prop
  | unread (hreads : request.reads label s.isLoaded = true) (h : s.slot.readable = false) :
    Refuses label key f request s (.storageRead "slot unreadable") 0
  | full (m : OriginMap α)
      (hreadable : request.reads label s.isLoaded = true → s.slot.readable = true)
      (hwrites : request.writes label f = 1) (hm : m.get? = request.next label f)
      (h : ¬ s.HasRoom label key m) :
    Refuses label key f request s (.storageWrite "quota exceeded") 1
  | uncleared (hclears : request = .clear) (h : s.slot.clearable = false) :
    Refuses label key f request s (.storageWrite "slot not clearable") 0

/-- What a slot can be asked for. This is no affair of the shelf, which leaves it as it is. -/
def limits (s : Shelf α) : Bool × Bool × Option Nat :=
  (s.slot.readable, s.slot.clearable, s.slot.quota)

/-- A request failed with the error of the slot, and the slot holds what it held. -/
structure Denied (s t : Shelf α) (outcome : Except Error (Reply α)) (e : Error) (tries : Nat) :
    Prop where
  answers : outcome = .error e
  kept : t.slot.value = s.slot.value
  loaded : s.isLoaded → t.isLoaded
  writes : t.slot.sets = s.slot.sets + tries
  limits : t.limits = s.limits

/-- A request was answered as by a finite map, and the slot was written as often as it says. -/
structure Served [DecidableEq α] (label : ShelfLabel) (f : String → Option α) (request : Request α)
    (s t : Shelf α) (outcome : Except Error (Reply α)) : Prop where
  answers : (request.looks → s.isLoaded) → request.Answers label f outcome
  loaded : t.isLoaded = request.loads label s.isLoaded
  writes : t.slot.sets = s.slot.sets + request.writes label f
  limits : t.limits = s.limits

/-- All requests are answered as by a finite map that changes with them, but for those that the slot
refuses. These change nothing, and the requests after them are answered as if they had not been. -/
def Serves [DecidableEq α] (label : ShelfLabel) (key : String) :
    (String → Option α) → Shelf α → List (Request α) → Prop
  | _, _, [] => True
  | f, s, request :: rest =>
    let after := perform label (some key) request s
    (∀ e tries, Refuses label key f request s e tries →
      Denied s after.2 after.1 e tries ∧ Serves label key f after.2 rest) ∧
    ((∀ e tries, ¬ Refuses label key f request s e tries) →
      Served label f request s after.2 after.1 ∧
        Serves label key (request.next label f) after.2 rest)

/-! ## The map a shelf represents -/

/-- The slot holds the map, and it is the map beside the slot if there is one. -/
structure Represents (label : ShelfLabel) (key : String) (m : OriginMap α) (s : Shelf α) :
    Prop where
  holds : Holds label key s.slot.value m
  beside : ∀ n, s.entries = some n → n = m

namespace Represents

/-- Loaded before or not, the map is found, unless it has to be read from a slot that cannot be. -/
theorem load (h : Represents label key m s) :
    (s.isLoaded = false → s.slot.readable = true) ∧
      load label (some key) s = (.ok (), { s with entries := some m }) ∨
    (s.isLoaded = false ∧ s.slot.readable = false) ∧
      load label (some key) s = (.error (.storageRead "slot unreadable"), s) := by
  rcases hentries : s.entries with _ | n
  · have hunloaded : s.isLoaded = false := by rw [isLoaded, hentries]; rfl
    rcases hreadable : s.slot.readable with _ | _
    · refine .inr ⟨⟨hunloaded, rfl⟩, ?_⟩
      rw [load_unloaded hentries, Op.bind_error (read_unreadable hreadable)]
    · exact .inl ⟨fun _ => rfl, load_held hentries hreadable h.holds⟩
  · have hloaded : s.isLoaded = true := by rw [isLoaded, hentries]; rfl
    refine .inl ⟨fun hunloaded => ?_, ?_⟩
    · rw [hloaded] at hunloaded
      cases hunloaded
    · rw [load_loaded (some key) hentries, ← h.beside n hentries, ← hentries]

theorem loaded (h : Represents label key m s) :
    Represents label key m { s with entries := some m } where
  holds := h.holds
  beside _ hn := (Option.some.inj hn).symm

theorem unloaded (h : Represents label key m s) : Represents label key m s.unload where
  holds := h.holds
  beside _ hn := nomatch hn

theorem cleared (s : Shelf α) : Represents label key (.empty : OriginMap α) {
    s with slot := s.slot.erased, entries := s.entries.map fun _ => .empty } where
  holds := rfl
  beside n hn := by
    rcases Option.map_eq_some_iff.1 hn with ⟨_, _, hn⟩
    exact hn.symm

omit [Wire α] in
theorem isLoaded_cleared (s : Shelf α) : isLoaded (α := α) {
    s with slot := s.slot.erased, entries := s.entries.map fun _ => .empty } = s.isLoaded :=
  Option.isSome_map

end Represents

/-! ## One request -/

/-- What is restored from a backup is the map of its pairs. -/
theorem restored?_eq (label : ShelfLabel) (blob password : String) :
    (restored? label blob password : Option (OriginMap α)) =
      (backupPairs? label blob password).map OriginMap.ofList := by
  rw [restored?, backupPairs?]
  cases BackupBlob.verify blob password with
  | error _ => rfl
  | ok sealed =>
      dsimp only
      cases SealedText.open sealed password label.purpose with
      | error _ => rfl
      | ok plain => rfl

namespace Represents

section

variable [DecidableEq α]

/-- A request is refused by the slot and the map is what it was, or it is served and the map is what
the request makes of it. -/
structure Settles (label : ShelfLabel) (key : String) (m : OriginMap α) (request : Request α)
    (s : Shelf α) : Prop where
  denied : ∀ e tries, Refuses label key m.get? request s e tries →
    Denied s (perform label (some key) request s).2 (perform label (some key) request s).1 e tries ∧
      Represents label key m (perform label (some key) request s).2
  served : (∀ e tries, ¬ Refuses label key m.get? request s e tries) →
    Served label m.get? request s (perform label (some key) request s).2
        (perform label (some key) request s).1 ∧
      ∃ n, Represents label key n (perform label (some key) request s).2 ∧
        n.get? = request.next label m.get?

variable {request : Request α} {t : Shelf α}

/-- A request that needs to read a slot that cannot be read. -/
theorem settles_unread (h : Represents label key m s)
    (hrun : perform label (some key) request s = (.error (.storageRead "slot unreadable"), s))
    (hreads : request.reads label s.isLoaded = true) (hunreadable : s.slot.readable = false) :
    Settles label key m request s where
  denied e tries hrefuses := by
    rw [hrun]
    -- There is one thing that this slot can answer, since it is not even read.
    cases hrefuses with
    | unread => exact ⟨⟨rfl, rfl, id, rfl, rfl⟩, h⟩
    | full _ hreadable =>
        rw [hreadable hreads] at hunreadable
        cases hunreadable
    | uncleared hclears =>
        rw [hclears] at hreads
        cases hreads
  served hnone := absurd (.unread hreads hunreadable) (hnone _ _)

/-- A request that writes nothing, and of which the slot refuses nothing. -/
theorem settles_unwritten {n : OriginMap α} {outcome : Except Error (Reply α)}
    (hrun : perform label (some key) request s = (outcome, t)) (h : Represents label key n t)
    (hreadable : request.reads label s.isLoaded = true → s.slot.readable = true)
    (hclearable : request = .clear → s.slot.clearable = true)
    (hnext : n.get? = request.next label m.get?)
    (hserved : Served label m.get? request s t outcome)
    (hwrites : request.writes label m.get? = 0) : Settles label key m request s where
  -- A request that writes nothing is refused only by a slot that cannot be read or cleared.
  denied e tries hrefuses := by
    cases hrefuses with
    | unread hreads hunreadable =>
        rw [hreadable hreads] at hunreadable
        cases hunreadable
    | full _ _ hwritten =>
        rw [hwrites] at hwritten
        cases hwritten
    | uncleared hclears hunclearable =>
        rw [hclearable hclears] at hunclearable
        cases hunclearable
  served _ := by
    rw [hrun]
    exact ⟨hserved, n, h, hnext⟩

variable [LawfulWire α]

/-- A request that ends with a commit. The slot has room for the map that is committed, or it is
refused and the map stays. -/
theorem settles_committed {reply : Reply α} (h : Represents label key m s)
    (hrun : perform label (some key) request s =
      (Shelf.commit label (some key) next >>= fun _ => (pure reply : Op (Shelf α) (Reply α)))
        { s with entries := some m })
    (hreadable : request.reads label s.isLoaded = true → s.slot.readable = true)
    (hnext : next.get? = request.next label m.get?)
    (hanswers : request.Answers label m.get? (.ok reply))
    (hloads : request.loads label s.isLoaded = true)
    (hwrites : request.writes label m.get? = 1) : Settles label key m request s := by
  let t : Shelf α := { s with entries := some m }
  by_cases hroom : s.HasRoom label key next
  · rw [Op.bind_ok (commit_fits (s := t) hroom), Op.pure_apply] at hrun
    refine ⟨fun e tries hrefuses => ?_, fun _ => ?_⟩
    · cases hrefuses with
      | unread hreads hunreadable =>
          rw [hreadable hreads] at hunreadable
          cases hunreadable
      | full other _ _ hother hfull =>
          -- The map that comes next is the one that is looked up, so it is the one with room.
          rw [OriginMap.ext_get? (hother.trans hnext.symm)] at hfull
          exact absurd hroom hfull
      | uncleared hclears =>
          rw [hclears] at hwrites
          cases hwrites
    · rw [hrun]
      refine ⟨⟨fun _ => hanswers, hloads.symm, by rw [hwrites], rfl⟩, next, ?_, hnext⟩
      exact ⟨holds_sealed label key next s.entropy, fun _ hn => (Option.some.inj hn).symm⟩
  · rw [Op.bind_error (commit_full (s := t) hroom)] at hrun
    refine ⟨fun e tries hrefuses => ?_, fun hnone => ?_⟩
    · rw [hrun]
      cases hrefuses with
      | unread hreads hunreadable =>
          rw [hreadable hreads] at hunreadable
          cases hunreadable
      | full => exact ⟨⟨rfl, rfl, fun _ => rfl, rfl, rfl⟩, h.holds, h.loaded.beside⟩
      | uncleared hclears =>
          rw [hclears] at hwrites
          cases hwrites
    · exact absurd (.full next hreadable hwrites hnext hroom) (hnone _ _)

end

variable [DecidableEq α]

/-- A request that begins with loading the map fails if that fails. Otherwise the map is beside the
slot, and it was there before or the slot could be read. -/
theorem settles_found {request : Request α} (h : Represents label key m s)
    (hreads : request.reads label s.isLoaded = !s.isLoaded)
    (hfails : ∀ e, Shelf.load label (some key) s = (.error e, s) →
      perform label (some key) request s = (.error e, s))
    (hfound : Shelf.load label (some key) s = (.ok (), { s with entries := some m }) →
      (request.reads label s.isLoaded = true → s.slot.readable = true) →
        Settles label key m request s) : Settles label key m request s := by
  rcases h.load with ⟨hreadable, hload⟩ | ⟨⟨hunloaded, hunreadable⟩, hload⟩
  · refine hfound hload fun hneeded => hreadable ?_
    rw [hreads] at hneeded
    exact (Bool.not_eq_true' _).mp hneeded
  · refine h.settles_unread (hfails _ hload) ?_ hunreadable
    rw [hreads, hunloaded]
    rfl

theorem settles_load (h : Represents label key m s) :
    Settles label key m (.load : Request α) s := by
  refine h.settles_found rfl (fun _ he => Op.bind_error he _) fun hload hreadable => ?_
  exact settles_unwritten (Op.bind_ok hload _) h.loaded hreadable (by rintro ⟨⟩) rfl
    ⟨fun _ => rfl, rfl, rfl, rfl⟩ rfl

variable [LawfulWire α]

theorem settles_upsert (h : Represents label key m s) (origin : String) (value : α) :
    Settles label key m (.upsert origin value) s := by
  refine h.settles_found rfl (fun _ he => Op.bind_error (Op.bind_error he _) _)
    fun hload hreadable => ?_
  -- Once the map is loaded the request is as if it had been there.
  have hrun : upsert label (some key) origin value s =
      upsert label (some key) origin value { s with entries := some m } := by
    rw [upsert, Op.bind_ok hload, Op.bind_ok (load_loaded (some key) rfl)]
  replace hrun := hrun.trans (upsert_loaded label (some key) rfl)
  -- A value that is there already is not written again.
  by_cases hsame : m.get? origin = some value
  · rw [if_pos hsame] at hrun
    have hwrites : Request.writes label m.get? (.upsert origin value) = 0 := if_pos hsame
    refine settles_unwritten (Op.bind_ok hrun _) h.loaded hreadable (by rintro ⟨⟩) ?_
      ⟨fun _ => ?_, rfl, by rw [hwrites]; rfl, rfl⟩ hwrites
    · rw [Request.next, ← hsame, Function.update_eq_self]
    · rw [Request.Answers, decide_eq_false (not_not_intro hsame)]
  · rw [if_neg hsame] at hrun
    refine h.settles_committed (Op.bind_answer hrun _) hreadable (m.get?_insert origin value) ?_
      rfl (if_neg hsame)
    rw [Request.Answers, decide_eq_true hsame]

theorem settles_remove (h : Represents label key m s) (origin : String) :
    Settles label key m (.remove origin) s := by
  refine h.settles_found rfl (fun _ he => Op.bind_error (Op.bind_error he _) _)
    fun hload hreadable => ?_
  have hrun : remove label (some key) origin s =
      remove label (some key) origin { s with entries := some m } := by
    rw [remove, Op.bind_ok hload, Op.bind_ok (load_loaded (some key) rfl)]
  replace hrun := hrun.trans (remove_loaded label (some key) origin rfl)
  -- Nor is the map written when there is nothing to be removed.
  rcases hget : m.get? origin with _ | value
  · rw [hget] at hrun
    have hwrites : Request.writes label m.get? (.remove origin) = 0 := if_pos hget
    refine settles_unwritten (Op.bind_ok hrun _) h.loaded hreadable (by rintro ⟨⟩) ?_
      ⟨fun _ => ?_, rfl, by rw [hwrites]; rfl, rfl⟩ hwrites
    · rw [Request.next, ← hget, Function.update_eq_self]
    · rw [Request.Answers, hget]
  · rw [hget] at hrun
    refine h.settles_committed (Op.bind_answer hrun _) hreadable (m.get?_erase origin) ?_ rfl ?_
    · rw [Request.Answers, hget]
    · rw [Request.writes, hget]
      rfl

/-- A backup is looked at before anything else. If it is refused the slot is not asked. -/
theorem settles_uploadBackup (h : Represents label key m s) (blob password : String) :
    Settles label key m (.uploadBackup blob password : Request α) s := by
  have hrestored := restored?_eq (α := α) label blob password
  rcases hpairs : (backupPairs? label blob password : Option (List (String × α))) with _ | pairs
  -- A backup that does not open is refused without a look at the slot.
  · rw [hpairs] at hrestored
    have hrun : uploadBackup label (some key) blob password s =
        (.error (.incorrectBackupFormat label.component), s) := by
      rw [uploadBackup, hrestored]
      rfl
    have hwrites : Request.writes label m.get? (.uploadBackup blob password : Request α) = 0 := by
      rw [Request.writes, hpairs]
      rfl
    refine settles_unwritten (Op.bind_error hrun _) h (fun hreads => ?_) (by rintro ⟨⟩) ?_
      ⟨fun _ => ?_, ?_, by rw [hwrites]; rfl, rfl⟩ hwrites
    · rw [Request.reads, hpairs, Option.isSome_none, Bool.and_false] at hreads
      cases hreads
    · rw [Request.next, hpairs]
    · rw [Request.Answers, hpairs]
    · rw [Request.loads, hpairs, Option.isSome_none, Bool.or_false]
  · rw [hpairs] at hrestored
    -- One that opens gives the pairs that override the map.
    have hbacked : Op.ofOption (.incorrectBackupFormat label.component)
        (restored? label blob password) s = (.ok (OriginMap.ofList pairs), s) := by
      rw [hrestored]
      rfl
    refine h.settles_found ?_ (fun _ he =>
      Op.bind_error ((Op.bind_ok hbacked _).trans (Op.bind_error he _)) _) fun hload hreadable => ?_
    · rw [Request.reads, hpairs, Option.isSome_some, Bool.and_true]
    have hrun : uploadBackup label (some key) blob password s =
        Shelf.commit label (some key) (m.overrideBy (OriginMap.ofList pairs))
          { s with entries := some m } := by
      rw [uploadBackup, Op.bind_ok hbacked, Op.bind_ok hload, Op.bind_ok (held_loaded rfl)]
    refine h.settles_committed (Op.bind_congr hrun _) hreadable ?_ ?_ ?_ ?_
    · funext origin
      rw [OriginMap.get?_overrideBy_ofList, Request.next, hpairs]
    · rw [Request.Answers, hpairs]
    · rw [Request.loads, hpairs, Option.isSome_some, Bool.or_true]
    · rw [Request.writes, hpairs]
      rfl

omit [LawfulWire α]

theorem settles_clear (h : Represents label key m s) :
    Settles label key m (.clear : Request α) s := by
  rcases hclearable : s.slot.clearable with _ | _
  · have hrun : perform label (some key) (.clear : Request α) s =
        (.error (.storageWrite "slot not clearable"), s) :=
      Op.bind_error (clear_unclearable key hclearable) _
    refine ⟨fun e tries hrefuses => ?_, fun hnone => ?_⟩
    · rw [hrun]
      cases hrefuses with
      | unread hreads => cases hreads
      | full _ _ hwrites => cases hwrites
      | uncleared => exact ⟨⟨rfl, rfl, id, rfl, rfl⟩, h⟩
    · exact absurd (.uncleared rfl hclearable) (hnone _ _)
  · refine settles_unwritten (Op.bind_ok (clear_clearable key hclearable) _) (cleared s) ?_
      (fun _ => hclearable) rfl ⟨fun _ => rfl, isLoaded_cleared s, rfl, rfl⟩ rfl
    rintro ⟨⟩

/-- A backup is made of what the slot holds, whether the map is loaded or not. -/
theorem settles_downloadBackup (h : Represents label key m s) (password : String) :
    Settles label key m (.downloadBackup password : Request α) s := by
  rcases hreadable : s.slot.readable with _ | _
  · exact h.settles_unread (Op.bind_error (Op.bind_error (read_unreadable hreadable) _) _) rfl
      hreadable
  · rcases downloadBackup_held hreadable h.holds password with ⟨data, entropy, hrun, hbacks⟩
    have hsame : Represents label key m { s with entropy } := ⟨h.holds, h.beside⟩
    have hdone : perform label (some key) (.downloadBackup password) s =
        (.ok (.backup data), { s with entropy }) := Op.bind_ok hrun _
    exact settles_unwritten hdone hsame (fun _ => hreadable) (by rintro ⟨⟩) rfl
      ⟨fun _ => ⟨data, m, rfl, hbacks, rfl⟩, rfl, rfl, rfl⟩ rfl

/-- A request that looks at the map answers from the map beside the slot, if there is one. -/
theorem settles_looks {request : Request α} {reply : Reply α} (h : Represents label key m s)
    (hrun : perform label (some key) request s = (.ok reply, s))
    (hanswers : s.entries = some m → request.Answers label m.get? (.ok reply))
    (hlooks : request.looks = true) (hunread : request.reads label s.isLoaded = false)
    (hnext : request.next label m.get? = m.get?)
    (hloads : request.loads label s.isLoaded = s.isLoaded)
    (hwrites : request.writes label m.get? = 0) : Settles label key m request s := by
  -- What is in memory is the map that the slot stands for.
  have hentries (hloaded : s.isLoaded) : s.entries = some m := by
    rcases Option.isSome_iff_exists.1 hloaded with ⟨n, hn⟩
    rw [hn, h.beside n hn]
  refine settles_unwritten hrun h (fun hreads => ?_) (fun hclears => ?_) hnext.symm
    ⟨fun hloaded => hanswers (hentries (hloaded hlooks)), hloads.symm, by rw [hwrites]; rfl, rfl⟩
    hwrites
  · rw [hunread] at hreads
    cases hreads
  · rw [hclears] at hlooks
    cases hlooks

/-- Each request is settled as the finite map says. -/
theorem settles [LawfulWire α] (h : Represents label key m s) (request : Request α) :
    Settles label key m request s := by
  -- Each request has its own lemma, and those that only look share one.
  cases request with
  | load => exact h.settles_load
  | unload =>
      exact settles_unwritten rfl h.unloaded (by rintro ⟨⟩) (by rintro ⟨⟩) rfl
        ⟨fun _ => rfl, rfl, rfl, rfl⟩ rfl
  | get origin =>
      refine h.settles_looks rfl (fun hentries => ?_) rfl rfl rfl rfl rfl
      have hget : s.get? origin = m.get? origin := by
        rw [Shelf.get?, hentries, Option.bind_some]
      exact congrArg (fun found => Except.ok (Reply.value found)) hget
  | find test =>
      refine h.settles_looks rfl (fun hentries => ⟨s.find? test, rfl, ?_⟩) rfl rfl rfl rfl rfl
      rw [Shelf.find?, hentries, Option.bind_some]
      exact finds_find? m test
  | list =>
      refine h.settles_looks rfl (fun hentries => ⟨s.list, rfl, ?_⟩) rfl rfl rfl rfl rfl
      rw [Shelf.list, hentries]
      exact lists_entries m
  | upsert origin value => exact h.settles_upsert origin value
  | remove origin => exact h.settles_remove origin
  | clear => exact h.settles_clear
  | uploadBackup blob password => exact h.settles_uploadBackup blob password
  | downloadBackup password => exact h.settles_downloadBackup password

end Represents

/-! ## Any number of requests -/

variable [DecidableEq α] [LawfulWire α]

/-- By induction on the requests: a request that is refused leaves the map, and one that is served
leaves the map that comes next. -/
theorem Represents.serves (h : Represents label key m s) (requests : List (Request α)) :
    Serves label key m.get? s requests := by
  induction requests generalizing s m with
  | nil => trivial
  | cons request rest ih =>
      have hsettles := h.settles request
      refine ⟨fun e tries hrefuses => ?_, fun hnone => ?_⟩
      · rcases hsettles.denied e tries hrefuses with ⟨hdenied, hsame⟩
        exact ⟨hdenied, ih hsame⟩
      · rcases hsettles.served hnone with ⟨hserved, n, hn, hnext⟩
        rw [← hnext]
        exact ⟨hserved, ih hn⟩

/-- A shelf that begins with an empty slot serves all requests as a finite map does that begins
without entries, but for those that its slot refuses. -/
theorem serves_from_empty (label : ShelfLabel) (key : String) (hslot : s.slot.value = none)
    (hentries : ∀ m, s.entries = some m → m = .empty) (requests : List (Request α)) :
    Serves label key (fun _ => none) s requests := by
  have hempty : Represents label key .empty s := ⟨hslot ▸ rfl, hentries⟩
  exact hempty.serves requests

/-! ## Without an obstacle -/

/-- A slot that can be read and cleared and takes every text. -/
structure Unlimited (slot : Slot) : Prop where
  readable : slot.readable = true
  clearable : slot.clearable = true
  quota : slot.quota = none

omit [LawfulWire α] in
theorem Unlimited.not_refuses {request : Request α} (h : Unlimited s.slot) :
    ¬ Refuses label key f request s e tries := by
  intro hrefuses
  cases hrefuses with
  | unread _ hunreadable => exact Bool.false_ne_true (hunreadable.symm.trans h.readable)
  | full m _ _ _ hfull => exact hfull (hasRoom_of_quota h.quota label key m)
  | uncleared _ hunclearable => exact Bool.false_ne_true (hunclearable.symm.trans h.clearable)

/-- What some requests are answered, one after the other. -/
def replies (label : ShelfLabel) (secret : Option String) :
    List (Request α) → Shelf α → List (Except Error (Reply α))
  | [], _ => []
  | request :: rest, s =>
    let after := perform label secret request s
    after.1 :: replies label secret rest after.2

/-- These are the answers of a finite map that changes with the requests. Those to requests that
look at the map count only while it is loaded. -/
def Answered (label : ShelfLabel) : (String → Option α) → Bool → List (Request α) →
    List (Except Error (Reply α)) → Prop
  | _, _, [], outcomes => outcomes = []
  | _, _, _ :: _, [] => False
  | f, loaded, request :: rest, outcome :: outcomes =>
    ((request.looks → loaded) → request.Answers label f outcome) ∧
      Answered label (request.next label f) (request.loads label loaded) rest outcomes

omit [LawfulWire α] in
theorem Answered.first {loaded : Bool} {request : Request α} {rest : List (Request α)}
    {outcomes : List (Except Error (Reply α))}
    (h : Answered label f loaded (request :: rest) outcomes) :
    ∃ outcome later, outcomes = outcome :: later ∧
      ((request.looks → loaded) → request.Answers label f outcome) ∧
      Answered label (request.next label f) (request.loads label loaded) rest later := by
  cases outcomes with
  | nil => exact h.elim
  | cons outcome later => exact ⟨outcome, later, rfl, h⟩

omit [LawfulWire α] in
/-- A slot without an obstacle refuses nothing, now or later, and then no answer is that of the
slot. -/
theorem Serves.answered {requests : List (Request α)} (h : Serves label key f s requests)
    (hslot : Unlimited s.slot) :
    Answered label f s.isLoaded requests (replies label (some key) requests s) := by
  induction requests generalizing f s with
  | nil => rfl
  | cons request rest ih =>
      rcases h.2 fun _ _ => hslot.not_refuses with ⟨hserved, hrest⟩
      have hlater : Unlimited (perform label (some key) request s).2.slot := by
        rcases Prod.mk.inj hserved.limits with ⟨hreadable, hothers⟩
        rcases Prod.mk.inj hothers with ⟨hclearable, hquota⟩
        exact ⟨hreadable.trans hslot.readable, hclearable.trans hslot.clearable,
          hquota.trans hslot.quota⟩
      refine ⟨hserved.answers, ?_⟩
      rw [← hserved.loaded]
      exact ih hrest hlater

/-- A new slot has no limits. Two origins that are put into it one after the other are both found,
also after the shelf was unloaded and loaded again. -/
theorem serves_from_empty_unlimited :
    let label : ShelfLabel := { component := "Approvals", purpose := .settings }
    let first : HostPermission := { canSkipApprove := true }
    let second : HostPermission := { canSkipApprove := false }
    let requests : List (Request HostPermission) := [.upsert "https://a.test" first,
      .upsert "https://b.test" second, .unload, .load, .get "https://a.test", .get "https://b.test"]
    let s : Shelf HostPermission := {}
    s.slot.value = none ∧ (∀ m, s.entries = some m → m = .empty) ∧
      Serves label "password" (fun _ => none) s requests ∧
      replies label (some "password") requests s = [.ok (.changed true), .ok (.changed true),
        .ok .done, .ok .done, .ok (.value (some first)), .ok (.value (some second))] := by
  intro label first second requests s
  have hempty : ∀ m, s.entries = some m → m = .empty := fun _ hm => by cases hm
  have hserves := serves_from_empty label "password" (s := s) rfl hempty requests
  refine ⟨rfl, hempty, hserves, ?_⟩
  have hanswered := hserves.answered ⟨rfl, rfl, rfl⟩
  -- The answers are taken from the finite map, so that no text has to be sealed here.
  generalize replies label (some "password") requests s = outcomes at hanswered ⊢
  rcases hanswered.first with ⟨_, _, rfl, hputs, hanswered⟩
  rcases hanswered.first with ⟨_, _, rfl, hputs', hanswered⟩
  rcases hanswered.first with ⟨_, _, rfl, hunload, hanswered⟩
  rcases hanswered.first with ⟨_, _, rfl, hload, hanswered⟩
  rcases hanswered.first with ⟨_, _, rfl, hget, hanswered⟩
  rcases hanswered.first with ⟨_, _, rfl, hget', hanswered⟩
  rw [hputs nofun, hputs' nofun, hunload nofun, hload nofun, hget fun _ => rfl, hget' fun _ => rfl,
    hanswered]
  rfl

/-- A slot that takes everything but cannot be read keeps the first origin from being put. -/
theorem upsert_unread :
    let label : ShelfLabel := { component := "Approvals", purpose := .settings }
    let request : Request HostPermission := .upsert "https://a.test" { canSkipApprove := true }
    let s : Shelf HostPermission := { slot := { readable := false } }
    s.slot.value = none ∧ s.entries = none ∧ s.slot.clearable ∧
      (∀ text, s.slot.admits text = true) ∧
      ¬ request.Answers label (fun _ => none) (perform label (some "password") request s).1 := by
  intro label request s
  have hrun : (perform label (some "password") request s).1 =
      .error (.storageRead "slot unreadable") := rfl
  refine ⟨rfl, rfl, rfl, fun _ => rfl, ?_⟩
  rw [hrun]
  exact nofun

end Shelf

end WalletTrust

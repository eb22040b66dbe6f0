import WalletTrust.Proofs.Shelves

/-!
# Failed Operations Leave No Trace

What an operation on a shelf leaves behind when it fails.

Between its first effect and its last an operation has many ways to fail. The session may be locked,
the slot unreadable or its text not a map, a backup forged or sealed under another password, and the
slot may refuse what is written. In each of them the text in the slot and the map beside it stay
what they were. All that may have happened is that a map that was not loaded is loaded now, and then
it is the map that the slot holds.

The reason is the same for all operations. Whatever comes before the write is traceless, and the map
beside the slot is replaced after the write, so a write that fails is the last thing that happens.

Nothing is assumed of the values here. That a text which was written is read back is not needed to
see that it was written.

## Main definitions

* `Shelf.Request`, `Shelf.Reply`, `Shelf.perform`: All operations on a shelf.
* `Shelf.Traceless`: Nothing has changed, but that the map may have been loaded.
* `Shelf.Changed`: How a request changes a shelf when it succeeds.
* `Shelf.Tidy`: An operation changes the shelf by a write that succeeds, or not at all.

## Theorems

* `Shelf.Tidy.after`, `Shelf.Tidy.commit`: What comes before a commit may fail, and the commit too.
* `Shelf.perform_tidy`: A request that fails leaves no trace.
-/

namespace WalletTrust

namespace Shelf

open Op (Within)

/-- What may be asked of a shelf. -/
inductive Request (α : Type) where
  | load
  | unload
  | get (origin : String)
  | find (test : α → Bool)
  | list
  | upsert (origin : String) (value : α)
  | remove (origin : String)
  | clear
  | uploadBackup (blob password : String)
  | downloadBackup (password : String)

/-- What a shelf answers. -/
inductive Reply (α : Type) where
  | done
  | value (found : Option α)
  | entry (found : Option (String × α))
  | entries (all : List (String × α))
  | changed (answer : Bool)
  | backup (blob : Option String)

variable {α β γ : Type} [Wire α]

def perform [DecidableEq α] (label : ShelfLabel) (secret : Option String) :
    Request α → Op (Shelf α) (Reply α)
  | .load => do
    load label secret
    return .done
  | .unload => do
    Op.modify unload
    return .done
  | .get origin => Op.gets fun s => .value (s.get? origin)
  | .find test => Op.gets fun s => .entry (s.find? test)
  | .list => Op.gets fun s => .entries s.list
  | .upsert origin value => do return .changed (← upsert label secret origin value)
  | .remove origin => do return .value (← remove label secret origin)
  | .clear => do
    clear secret
    return .done
  | .uploadBackup blob password => do
    uploadBackup label secret blob password
    return .done
  | .downloadBackup password => do return .backup (← downloadBackup label secret password)

/-! ## No trace -/

/-- Nothing has changed, but that a map that was not loaded may be loaded now. -/
inductive Traceless (label : ShelfLabel) (secret : Option String) (s t : Shelf α) : Prop
  | kept (hslot : t.slot.value = s.slot.value) (hentries : t.entries = s.entries)
  | loaded (key : String) (m : OriginMap α) (hslot : t.slot.value = s.slot.value)
      (hsecret : secret = some key) (hunloaded : s.entries = none)
      (hholds : Holds label key s.slot.value m) (hentries : t.entries = some m)

variable {label : ShelfLabel} {secret : Option String} {s t u : Shelf α}

namespace Traceless

theorem slot_value (h : Traceless label secret s t) : t.slot.value = s.slot.value := by
  cases h with
  | kept hslot => exact hslot
  | loaded key m hslot => exact hslot

instance : Std.Refl (Traceless label secret (α := α)) := ⟨fun _ => .kept rfl rfl⟩

protected theorem trans (hst : Traceless label secret s t) (htu : Traceless label secret t u) :
    Traceless label secret s u := by
  have hslot := htu.slot_value.trans hst.slot_value
  cases htu with
  | kept _ hentries =>
      cases hst with
      | kept _ hbefore => exact .kept hslot (hentries.trans hbefore)
      | loaded key m _ hsecret hunloaded hholds hbefore =>
          exact .loaded key m hslot hsecret hunloaded hholds (hentries.trans hbefore)
  | loaded key m _ hsecret hunloaded hholds hentries =>
      cases hst with
      | kept hsame hbefore =>
          exact .loaded key m hslot hsecret (hbefore ▸ hunloaded) (hsame ▸ hholds) hentries
      | loaded _ n _ _ _ _ hbefore => cases hbefore.symm.trans hunloaded

instance : Trans (Traceless label secret (α := α)) (Traceless label secret (α := α))
    (Traceless label secret (α := α)) := ⟨Traceless.trans⟩

end Traceless

theorem load_traceless (label : ShelfLabel) (secret : Option String) :
    Within (Traceless label secret) (load label secret : Op (Shelf α) Unit) := by
  intro s
  rcases hentries : s.entries with _ | m
  · cases secret with
    | none =>
        rw [load_locked hentries]
        exact Std.Refl.refl s
    | some key =>
        rcases load_cases label key hentries with ⟨e, hrun⟩ | ⟨m, hholds, hrun⟩
        · rw [hrun]
          exact Std.Refl.refl s
        · rw [hrun]
          exact .loaded key m rfl rfl hentries hholds rfl
  · rw [load_loaded secret hentries]
    exact Std.Refl.refl s

/-! ## Operations that end with a write -/

/-- A map was sealed and written, and it is now the map beside the slot. -/
inductive Saved (label : ShelfLabel) (secret : Option String) (t : Shelf α) : Prop
  | written (key sealed : String) (next : OriginMap α) (e : Entropy) (hsecret : secret = some key)
      (hsealed : sealed = (SealedText.sealFresh next.text key label.purpose e).1)
      (hadmits : t.slot.admits sealed) (hslot : t.slot.value = some sealed)
      (hentries : t.entries = some next)

/-- The operation changes the shelf by a write that succeeds, and then it succeeds too, or not at
all. -/
def Tidy (label : ShelfLabel) (secret : Option String) (x : Op (Shelf α) β) : Prop :=
  ∀ s, Traceless label secret s (x s).2 ∨ (∃ b, (x s).1 = .ok b) ∧ Saved label secret (x s).2

namespace Tidy

theorem of_traceless {x : Op (Shelf α) β} (h : Within (Traceless label secret) x) :
    Tidy label secret x := fun s => .inl (h s)

/-- What comes before may fail. -/
theorem after {x : Op (Shelf α) β} {f : β → Op (Shelf α) γ} (hx : Within (Traceless label secret) x)
    (hf : ∀ b, Tidy label secret (f b)) : Tidy label secret (x >>= f) := by
  intro s
  have hbefore := hx s
  rcases hrun : x s with ⟨outcome, t⟩
  rw [hrun] at hbefore
  cases outcome with
  | error e =>
      rw [Op.bind_error hrun]
      exact .inl hbefore
  | ok b =>
      rw [Op.bind_ok hrun]
      exact (hf b t).imp_left hbefore.trans

/-- Naming the answer changes nothing. -/
theorem answer {x : Op (Shelf α) β} (h : Tidy label secret x) (f : β → γ) :
    Tidy label secret (x >>= fun b => (pure (f b) : Op (Shelf α) γ)) := by
  intro s
  rw [Op.bind_pure_state]
  refine (h s).imp_right fun ⟨⟨b, hb⟩, hsaved⟩ => ⟨⟨f b, ?_⟩, hsaved⟩
  have hrun : x s = (.ok b, (x s).2) := Prod.ext hb rfl
  rw [Op.bind_ok hrun, Op.pure_apply]

/-- A commit may fail for want of the secret or of room. -/
theorem commit (label : ShelfLabel) (secret : Option String) (next : OriginMap α) :
    Tidy label secret (commit label secret next) := by
  intro s
  cases secret with
  | none => exact .inl (.kept rfl rfl)
  | some key =>
      rw [commit_room]
      split
      · next hadmits =>
        exact .inr ⟨⟨(), rfl⟩, .written key _ next s.entropy rfl rfl hadmits rfl rfl⟩
      · exact .inl (.kept rfl rfl)

end Tidy

theorem held_traceless : Within (Traceless label secret) (held : Op (Shelf α) (OriginMap α)) := by
  unfold held
  refine .get_bind fun s => ?_
  exact Within.ofOption _ _ s

theorem upsert_tidy [DecidableEq α] (label : ShelfLabel) (secret : Option String) (origin : String)
    (value : α) : Tidy label secret (upsert label secret origin value) := by
  refine .after (load_traceless _ _) fun _ => .after held_traceless fun m => ?_
  split
  · exact .of_traceless (.pure _)
  · exact (Tidy.commit label secret _).answer fun _ => true

theorem remove_tidy (label : ShelfLabel) (secret : Option String) (origin : String) :
    Tidy label secret (remove label secret origin : Op (Shelf α) (Option α)) := by
  refine .after (load_traceless _ _) fun _ => .after held_traceless fun m => ?_
  cases m.get? origin with
  | none => exact .of_traceless (.pure _)
  | some value => exact (Tidy.commit label secret _).answer fun _ => some value

theorem uploadBackup_tidy (label : ShelfLabel) (secret : Option String) (blob password : String) :
    Tidy label secret (uploadBackup label secret blob password : Op (Shelf α) Unit) :=
  .after (.ofOption _ _) fun _ => .after (load_traceless _ _) fun _ =>
    .after held_traceless fun _ => .commit _ _ _

/-- Neither the slot nor the map beside it has changed. -/
def Unchanged (s t : Shelf α) : Prop :=
  t.slot = s.slot ∧ t.entries = s.entries

instance : Std.Refl (Unchanged (α := α)) := ⟨fun _ => ⟨rfl, rfl⟩⟩

instance : Trans (Unchanged (α := α)) (Unchanged (α := α)) (Unchanged (α := α)) :=
  ⟨fun h k => ⟨k.1.trans h.1, k.2.trans h.2⟩⟩

omit [Wire α] in
theorem downloadBackup_unchanged (label : ShelfLabel) (secret : Option String) (password : String) :
    Within Unchanged (downloadBackup label secret password : Op (Shelf α) (Option String)) := by
  have hread : Within Unchanged (onSlot Slot.read : Op (Shelf α) (Option String)) := fun s => by
    simp only [onSlot, Op.zoom, Slot.read]
    split
    · exact ⟨rfl, rfl⟩
    · exact ⟨rfl, rfl⟩
  refine .bind hread fun sealed => ?_
  cases sealed with
  | none => exact .pure _
  | some sealed =>
      refine .bind (.ofOption _ _) fun key => ?_
      refine .bind (.ofExcept _) fun plain => ?_
      refine .bind (fun _ => ⟨rfl, rfl⟩) fun _ => ?_
      exact .pure _

/-! ## All requests -/

/-- How a request changes a shelf when it succeeds. -/
inductive Changed (label : ShelfLabel) (secret : Option String) (request : Request α)
    (s t : Shelf α) : Prop
  | saved (h : Saved label secret t)
  | erased (hclear : request = .clear) (hclearable : s.slot.clearable) (hslot : t.slot.value = none)
      (hentries : t.entries = s.entries.map fun _ => .empty)
  | unloaded (hunload : request = .unload) (hslot : t.slot = s.slot) (hentries : t.entries = none)

/-- A request that fails leaves no trace, and one that succeeds changes a shelf only by a write that
succeeds or, if it is no write, by forgetting the map. -/
theorem perform_tidy [DecidableEq α] (label : ShelfLabel) (secret : Option String)
    (request : Request α) (s : Shelf α) :
    Traceless label secret s (perform label secret request s).2 ∨
    (∃ reply, (perform label secret request s).1 = .ok reply) ∧
      Changed label secret request s (perform label secret request s).2 := by
  have hsaves : ∀ {x : Op (Shelf α) (Reply α)}, Tidy label secret x →
      Traceless label secret s (x s).2 ∨
      (∃ reply, (x s).1 = .ok reply) ∧ Changed label secret request s (x s).2 :=
    fun h => (h s).imp_right fun ⟨hok, hsaved⟩ => ⟨hok, .saved hsaved⟩
  -- What writes has a lemma of its own for saving; what looks leaves no trace; only unloading and
  -- clearing change the shelf otherwise.
  cases request with
  | load => exact .inl (Within.bind (load_traceless _ _) (fun _ => .pure _) s)
  | unload => exact .inr ⟨⟨.done, rfl⟩, .unloaded rfl rfl rfl⟩
  | get origin => exact .inl (.kept rfl rfl)
  | find test => exact .inl (.kept rfl rfl)
  | list => exact .inl (.kept rfl rfl)
  | upsert origin value => exact hsaves ((upsert_tidy label secret origin value).answer _)
  | remove origin => exact hsaves ((remove_tidy label secret origin).answer _)
  | clear =>
      rw [perform, Op.bind_pure_state]
      cases secret with
      | none => exact .inl (.kept rfl rfl)
      | some key =>
          rcases hclearable : s.slot.clearable with _ | _
          · rw [clear_unclearable key hclearable]
            exact .inl (.kept rfl rfl)
          · have hrun := clear_clearable key hclearable
            rw [hrun, Op.bind_ok hrun]
            exact .inr ⟨⟨.done, rfl⟩, .erased rfl hclearable rfl rfl⟩
  | uploadBackup blob password =>
      exact hsaves ((uploadBackup_tidy label secret blob password).answer _)
  | downloadBackup password =>
      rw [perform, Op.bind_pure_state]
      rcases downloadBackup_unchanged label secret password s with ⟨hslot, hentries⟩
      exact .inl (.kept (congrArg Slot.value hslot) hentries)

/-- Whatever becomes of a request, the map beside the slot holds or misses no entry on account of a
write that did not succeed. -/
theorem leaves_no_trace [DecidableEq α] (label : ShelfLabel) (secret : Option String)
    (s : Shelf α) :
    (∀ request e, (perform label secret request s).1 = .error e →
      Traceless label secret s (perform label secret request s).2) ∧
    (∀ request, Traceless label secret s (perform label secret request s).2 ∨
      (∃ reply, (perform label secret request s).1 = .ok reply) ∧
        Changed label secret request s (perform label secret request s).2) ∧
    ∀ password, Unchanged s (perform label secret (.downloadBackup password) s).2 := by
  refine ⟨fun request e he => ?_, fun request => perform_tidy label secret request s,
    fun password => ?_⟩
  · rcases perform_tidy label secret request s with htraceless | ⟨⟨reply, hreply⟩, _⟩
    · exact htraceless
    · cases he.symm.trans hreply
  · rw [perform, Op.bind_pure_state]
    exact downloadBackup_unchanged label secret password s

end Shelf

end WalletTrust

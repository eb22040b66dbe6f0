import WalletTrust.Op

/-!
# Storage Slots

Named places that each hold one text.

A slot counts its writes, so that it can be seen that an operation wrote nothing, and may have a
quota in bytes, which a write over the quota does not get past. Reading and clearing may be out of
order; writing is only ever refused for its size.

## Main definitions

* `Slot`: A slot with its counters.
* `Slot.read`, `Slot.write`, `Slot.clear`: The operations of a component on its slot.
* `Storage`: Slots by name; a slot that was never used is empty.

## Theorems

* `Storage.slot_put_self`, `Storage.slot_put_of_ne`: What replacing a slot does to each slot.
* `Storage.put_slot`: Putting back what is there changes nothing.
-/

namespace WalletTrust

/-- A place that holds one text. -/
structure Slot where
  value : Option String := none
  /-- The most bytes a value may have. -/
  quota : Option Nat := none
  /-- How often a value was written, or refused for its size. -/
  sets : Nat := 0
  clears : Nat := 0
  readable : Bool := true
  clearable : Bool := true
deriving DecidableEq, Repr, Inhabited

namespace Slot

/-- Whether a value is within the quota. -/
def admits (s : Slot) (value : String) : Bool :=
  match s.quota with
  | some limit => value.utf8ByteSize ≤ limit
  | none => true

def read : Op Slot (Option String) := fun s =>
  if s.readable then (.ok s.value, s) else (.error (.storageRead "slot unreadable"), s)

def write (value : String) : Op Slot Unit := fun s =>
  if s.admits value then (.ok (), { s with value := some value, sets := s.sets + 1 })
  else (.error (.storageWrite "quota exceeded"), { s with sets := s.sets + 1 })

/-- The slot without a value. -/
def erased (s : Slot) : Slot :=
  { s with value := none, clears := s.clears + 1 }

/-- Remove the value of the slot. -/
def clear : Op Slot Unit := fun s =>
  if s.clearable then (.ok (), s.erased) else (.error (.storageWrite "slot not clearable"), s)

end Slot

/-- Slots by name. -/
structure Storage where
  slot : String → Slot := fun _ => {}
deriving Inhabited

namespace Storage

/-- The storage with the slot of a name replaced. -/
def put (name : String) (slot : Slot) (s : Storage) : Storage :=
  { slot := fun other => if other = name then slot else s.slot other }

@[simp] theorem slot_put_self (name : String) (slot : Slot) (s : Storage) :
    (s.put name slot).slot name = slot :=
  if_pos rfl

theorem slot_put_of_ne {name other : String} (h : other ≠ name) (slot : Slot) (s : Storage) :
    (s.put name slot).slot other = s.slot other :=
  if_neg h

@[simp] theorem put_slot (name : String) (s : Storage) : s.put name (s.slot name) = s := by
  cases s
  simp only [put, mk.injEq]
  funext other
  split
  · next same => rw [same]
  · rfl

def on {α : Type} (name : String) (x : Op Slot α) : Op Storage α :=
  x.zoom (fun s => s.slot name) (put name)

end Storage

/-- The names of the slots of the components. -/
structure StorageKeys where
  password : String := "keeper.password"
  approvals : String := "keeper.approvals"
  connections : String := "keeper.connections"
deriving DecidableEq, Repr, Inhabited

end WalletTrust

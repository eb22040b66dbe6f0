import WalletTrust.Assoc
import WalletTrust.Json.Printer
import WalletTrust.Json.Reader
import WalletTrust.Json.Wire

/-!
# Origin Maps

Finite maps from origins to values.

An origin map is a list of pairs that ascends strictly by origin. The order is part of the type, so
two maps with the same values under the same origins are equal, and the list is at once the order in
which entries are shown and the order in which they are written.

A map is written as a JSON array of pairs. Reading takes pairs in any order, and of several pairs of
one origin the last counts.

## Main definitions

* `OriginMap`: The maps.
* `OriginMap.get?`, `OriginMap.insert`, `OriginMap.erase`, `OriginMap.overrideBy`: Their operations.
* `OriginMap.text`, `OriginMap.ofText?`: The text of a map, and the map of a text.

## Theorems

* `Assoc.sorted_insert`, `Assoc.sorted_erase`: Setting and removing a key keeps a list in order.
-/

namespace WalletTrust

namespace Assoc

variable {α : Type}

/-- The list ascends strictly by key. -/
def Sorted (entries : List (String × α)) : Prop :=
  entries.Pairwise fun a b => a.1 < b.1

theorem mem_insert {key : String} {value : α} {entries : List (String × α)} {e : String × α}
    (h : e ∈ insert key value entries) : e = (key, value) ∨ e ∈ entries := by
  induction entries with
  | nil => exact .inl (List.mem_singleton.1 h)
  | cons head rest ih =>
    obtain ⟨k, v⟩ := head
    rw [insert] at h
    split at h
    · exact (List.mem_cons.1 h).imp_right id
    · split at h
      · exact (List.mem_cons.1 h).imp_right (List.mem_cons_of_mem _)
      · rcases List.mem_cons.1 h with rfl | h
        · exact .inr List.mem_cons_self
        · exact (ih h).imp_right (List.mem_cons_of_mem _)

theorem sorted_insert (key : String) (value : α) {entries : List (String × α)}
    (h : Sorted entries) : Sorted (insert key value entries) := by
  induction entries with
  | nil => exact List.pairwise_singleton _ _
  | cons head rest ih =>
    obtain ⟨k, v⟩ := head
    obtain ⟨below, tail⟩ := List.pairwise_cons.1 h
    rw [insert]
    split
    · next before =>
      refine List.pairwise_cons.2 ⟨fun e he => ?_, h⟩
      rcases List.mem_cons.1 he with rfl | he
      · exact before
      · exact String.lt_trans before (below e he)
    · next notBefore =>
      split
      · next same =>
        subst same
        exact List.pairwise_cons.2 ⟨below, tail⟩
      · next differs =>
        refine List.pairwise_cons.2 ⟨fun e he => ?_, ih tail⟩
        rcases mem_insert he with rfl | he
        · -- A key that is neither before `k` nor `k` itself comes after it.
          exact Decidable.byContradiction fun notAfter =>
            differs (String.le_antisymm notAfter notBefore)
        · exact below e he

theorem sorted_erase (key : String) {entries : List (String × α)} (h : Sorted entries) :
    Sorted (erase key entries) :=
  List.Pairwise.filter _ h

end Assoc

/-- A finite map from origins to values. -/
structure OriginMap (α : Type) where
  entries : List (String × α)
  sorted : Assoc.Sorted entries

namespace OriginMap

variable {α : Type}

def empty : OriginMap α := ⟨[], List.Pairwise.nil⟩

instance : Inhabited (OriginMap α) := ⟨empty⟩

instance [DecidableEq α] : DecidableEq (OriginMap α) := fun m n =>
  decidable_of_iff (m.entries = n.entries) (by cases m; cases n; simp)

def get? (m : OriginMap α) (origin : String) : Option α :=
  Assoc.lookup origin m.entries

def contains (m : OriginMap α) (origin : String) : Bool :=
  (m.get? origin).isSome

/-- The map with the value of an origin set. -/
def insert (m : OriginMap α) (origin : String) (value : α) : OriginMap α :=
  ⟨Assoc.insert origin value m.entries, Assoc.sorted_insert origin value m.sorted⟩

/-- The map without an origin. -/
def erase (m : OriginMap α) (origin : String) : OriginMap α :=
  ⟨Assoc.erase origin m.entries, Assoc.sorted_erase origin m.sorted⟩

/-- The entry with the least origin among those whose value passes a test. -/
def find? (m : OriginMap α) (test : α → Bool) : Option (String × α) :=
  m.entries.find? fun e => test e.2

/-- The map with pairs set one after the other. -/
def setAll (m : OriginMap α) (pairs : List (String × α)) : OriginMap α :=
  pairs.foldl (fun m e => m.insert e.1 e.2) m

/-- The map of some pairs; of several with one origin the last counts. -/
def ofList (pairs : List (String × α)) : OriginMap α :=
  empty.setAll pairs

/-- The map with the entries of another put over its own. -/
def overrideBy (m n : OriginMap α) : OriginMap α :=
  m.setAll n.entries

/-- The text of a map: an array of pairs. -/
def text [Wire α] (m : OriginMap α) : String :=
  (toJson m.entries).text

/-- The map that a text writes. -/
def ofText? [Wire α] (s : String) : Option (OriginMap α) :=
  ((Json.read? s).bind Wire.ofJson?).map ofList

end OriginMap

end WalletTrust

import WalletTrust.OriginMap

/-!
# Looking Up Origins

What the operations of an origin map change, and what they leave alone.

Setting and removing an origin changes that origin and no other. Since the entries of a map ascend,
an origin has one entry at most, and whatever a search through the entries finds is the value that a
look-up gives.

The laws come twice, for lists of entries and for maps. A map carries the proof that its entries
ascend, by the bytes of the origins, and the laws of `Assoc` that need an ascending list are stated
for one. Where two lists are joined it matters which part is searched first, so these laws say which
part has the key.

To put one map over another is to set the entries of the second, one by one. What it comes to is
therefore said by what setting comes to, and putting the same map over once more changes nothing.
That is what makes it harmless to restore a backup twice.

## Theorems

* `OriginMap.get?_insert_self`, `OriginMap.get?_erase_self`: An origin that was set or removed.
* `OriginMap.get?_insert_of_ne`, `OriginMap.get?_erase_of_ne`: Setting or removing an origin leaves
  the others alone.
* `OriginMap.get?_of_mem`: An entry is the value of its origin.
* `Assoc.lookup_append`: A key is looked up in one part after the other.
* `OriginMap.get?_overrideBy`, `OriginMap.overrideBy_again`: One map over another.
* `Assoc.lookup_of_mem`: In an ascending list an entry is what its key looks up.
* `OriginMap.erase_absent`, `Assoc.insert_of_lookup`: Removing what is not there, and setting what
  is set already, change nothing.
-/

namespace WalletTrust

namespace Assoc

variable {α : Type} {key other : String} {value : α} {entries : List (String × α)}

/-- Setting a key leaves the others alone. -/
theorem lookup_insert_of_ne (h : other ≠ key) :
    lookup other (insert key value entries) = lookup other entries := by
  -- The new entry is put before the head, takes its place, or goes into the rest.
  induction entries with
  | nil => exact if_neg (Ne.symm h)
  | cons head rest ih =>
      rw [insert]
      split
      · exact if_neg (Ne.symm h)
      · split
        · next same =>
          rw [lookup, if_neg (Ne.symm h), lookup, if_neg (same ▸ Ne.symm h)]
        · rw [lookup, lookup, ih]

theorem erase_cons (head : String × α) (rest : List (String × α)) :
    erase key (head :: rest) = if head.1 = key then erase key rest else head :: erase key rest := by
  simp only [erase, List.filter_cons, ne_eq, decide_not, Bool.not_eq_true', decide_eq_false_iff_not]
  by_cases same : head.1 = key
  · rw [if_neg (not_not_intro same), if_pos same]
  · rw [if_pos same, if_neg same]

/-- So does removing it. -/
theorem lookup_erase_of_ne (h : other ≠ key) :
    lookup other (erase key entries) = lookup other entries := by
  induction entries with
  | nil => rfl
  | cons head rest ih =>
      rw [erase_cons]
      split
      · next same =>
        rw [ih, lookup, if_neg (fun hsame => h (hsame.symm.trans same))]
      · rw [lookup, lookup, ih]

theorem lookup_insert_self : lookup key (insert key value entries) = some value := by
  induction entries with
  | nil => exact if_pos rfl
  | cons head rest ih =>
      rw [insert]
      split
      · exact if_pos rfl
      · split
        · exact if_pos rfl
        · next hne => rw [lookup, if_neg (Ne.symm hne), ih]

theorem lookup_erase_self : lookup key (erase key entries) = none := by
  induction entries with
  | nil => rfl
  | cons head rest ih =>
      rw [erase_cons]
      split
      · exact ih
      · next hne => rw [lookup, if_neg hne, ih]

/-- Removing a key that is not there changes nothing. -/
theorem erase_of_lookup (h : lookup key entries = none) : erase key entries = entries := by
  induction entries with
  | nil => rfl
  | cons head rest ih =>
      rw [lookup] at h
      split at h
      · cases h
      · next hne => rw [erase_cons, if_neg hne, ih h]

/-- In an ascending list an entry is what its key looks up. -/
theorem lookup_of_mem (h : Sorted entries) {e : String × α} (he : e ∈ entries) :
    lookup e.1 entries = some e.2 := by
  induction entries with
  | nil => exact absurd he List.not_mem_nil
  | cons head rest ih =>
      rcases List.pairwise_cons.1 h with ⟨below, tail⟩
      rcases List.mem_cons.1 he with rfl | he
      · exact if_pos rfl
      · -- The head is smaller than all keys after it, so the search goes past it.
        have hlt := below e he
        have hne : head.1 ≠ e.1 := fun hsame => String.lt_irrefl _ (hsame ▸ hlt)
        rw [lookup, if_neg hne, ih tail he]

theorem mem_of_lookup (h : lookup key entries = some value) : (key, value) ∈ entries := by
  induction entries with
  | nil => cases h
  | cons head rest ih =>
      rw [lookup] at h
      split at h
      · next same =>
        rw [← same, ← Option.some.inj h]
        exact List.mem_cons_self
      · exact List.mem_cons_of_mem _ (ih h)

/-- Setting a key to the value that it has changes nothing. -/
theorem insert_of_lookup (hsorted : Sorted entries) (h : lookup key entries = some value) :
    insert key value entries = entries := by
  induction entries with
  | nil => cases h
  | cons head rest ih =>
      rcases List.pairwise_cons.1 hsorted with ⟨below, tail⟩
      rw [lookup] at h
      split at h
      · next same =>
        rw [insert, if_neg (same ▸ String.lt_irrefl _), if_pos same.symm, ← same,
          ← Option.some.inj h]
      · next hne =>
        have hlt : head.1 < key := below _ (mem_of_lookup h)
        rw [insert, if_neg (String.lt_asymm hlt), if_neg (Ne.symm hne), ih tail h]

/-! ## Lists in no order -/

/-- A key is looked up in the first part, and then in the second. -/
theorem lookup_append (key : String) (before after : List (String × α)) :
    lookup key (before ++ after) = (lookup key before).or (lookup key after) := by
  induction before with
  | nil => rfl
  | cons head rest ih =>
      rw [List.cons_append, lookup, lookup]
      split
      · rfl
      · exact ih

theorem lookup_eq_none (h : key ∉ entries.map Prod.fst) : lookup key entries = none := by
  rcases hlookup : lookup key entries with _ | value
  · rfl
  · exact absurd (List.mem_map_of_mem (mem_of_lookup hlookup)) h

/-- A key that the second part lacks is looked up in the first. -/
theorem lookup_append_left {before after : List (String × α)} (h : key ∉ after.map Prod.fst) :
    lookup key (before ++ after) = lookup key before := by
  rw [lookup_append, lookup_eq_none h, Option.or_none]

theorem lookup_append_right {before after : List (String × α)} (h : key ∉ before.map Prod.fst) :
    lookup key (before ++ after) = lookup key after := by
  rw [lookup_append, lookup_eq_none h, Option.none_or]

end Assoc

namespace OriginMap

variable {α : Type}

theorem get?_insert_of_ne {origin other : String} (h : other ≠ origin) (m : OriginMap α)
    (value : α) : (m.insert origin value).get? other = m.get? other :=
  Assoc.lookup_insert_of_ne h

theorem get?_erase_of_ne {origin other : String} (h : other ≠ origin) (m : OriginMap α) :
    (m.erase origin).get? other = m.get? other :=
  Assoc.lookup_erase_of_ne h

theorem get?_insert_self (m : OriginMap α) (origin : String) (value : α) :
    (m.insert origin value).get? origin = some value :=
  Assoc.lookup_insert_self

theorem get?_erase_self (m : OriginMap α) (origin : String) : (m.erase origin).get? origin = none :=
  Assoc.lookup_erase_self

/-- Removing an origin that is not there changes nothing. -/
theorem erase_absent {m : OriginMap α} {origin : String} (h : m.get? origin = none) :
    m.erase origin = m := by
  cases m
  simp only [erase, mk.injEq]
  exact Assoc.erase_of_lookup h

theorem get?_of_mem (m : OriginMap α) {e : String × α} (h : e ∈ m.entries) :
    m.get? e.1 = some e.2 :=
  Assoc.lookup_of_mem m.sorted h

/-! ## One map over another -/

theorem get?_setAll (m : OriginMap α) {pairs : List (String × α)} (h : Assoc.Sorted pairs)
    (origin : String) :
    (m.setAll pairs).get? origin = (Assoc.lookup origin pairs).or (m.get? origin) := by
  induction pairs generalizing m with
  | nil => rfl
  | cons pair rest ih =>
      rcases List.pairwise_cons.1 h with ⟨below, tail⟩
      have hrest := ih (m.insert pair.1 pair.2) tail
      rw [setAll] at hrest
      rw [setAll, List.foldl_cons, hrest, Assoc.lookup]
      split
      · next same =>
        -- The pairs ascend, so what comes later is not about this origin again.
        have hnone : Assoc.lookup origin rest = none := by
          rcases hlookup : Assoc.lookup origin rest with _ | value
          · rfl
          · have hlt := below _ (Assoc.mem_of_lookup hlookup)
            exact absurd (same ▸ hlt) (String.lt_irrefl _)
        rw [hnone, ← same, get?_insert_self]
        rfl
      · next hne => rw [get?_insert_of_ne (Ne.symm hne)]

/-- An origin has the value of the upper map, or else that of the lower. -/
theorem get?_overrideBy (m n : OriginMap α) (origin : String) :
    (m.overrideBy n).get? origin = (n.get? origin).or (m.get? origin) :=
  get?_setAll m n.sorted origin

/-- Setting what is set already changes nothing. -/
theorem setAll_of_held {m : OriginMap α} {pairs : List (String × α)}
    (h : ∀ e ∈ pairs, m.get? e.1 = some e.2) : m.setAll pairs = m := by
  induction pairs with
  | nil => rfl
  | cons pair rest ih =>
      have hsame : m.insert pair.1 pair.2 = m := by
        cases m
        simp only [insert, mk.injEq]
        exact Assoc.insert_of_lookup ‹_› (h pair List.mem_cons_self)
      rw [setAll, List.foldl_cons, hsame]
      exact ih fun e he => h e (List.mem_cons_of_mem _ he)

/-- Putting a map over another once more changes nothing. -/
theorem overrideBy_again (m n : OriginMap α) :
    (m.overrideBy n).overrideBy n = m.overrideBy n := by
  refine setAll_of_held fun e he => ?_
  rw [get?_overrideBy, n.get?_of_mem he]
  rfl

/-- A map over nothing is that map. -/
theorem overrideBy_empty (m : OriginMap α) : m.overrideBy .empty = m := rfl

end OriginMap

end WalletTrust

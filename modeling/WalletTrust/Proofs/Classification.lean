import WalletTrust.Proofs.WireFormats

/-!
# How Sources Are Classified

Which source a value is, and what is said of a value that is none.

A page's membership data is classified twice. Here its keys decide: a text is an address, an object
with all keys of a tree is a tree, one that lacks some of them and has all keys of a proof is a
proof. On the wire the first shape counts that can be decoded. The two agree on whatever the first
accepts, also on an object that has the keys of both: what lacks a key of a tree cannot be decoded
as one, so nothing that is a proof by its keys is taken for a tree on the wire.

The checks of a shape run in order and the first that fails is reported. What there may be to object
is written as a list, and `Checked` says that an outcome is that of checks in the order of such a
list. A value that cannot be decoded in the shape that its keys select does not get as far as the
checks.

## Main definitions

* `Objection`, `FirstOf`, `Unobjected`: What speaks against something, and the first that does.
* `Checked`: The outcome of checks that are made in order.
* `Json.HasKeys`: An object with all keys of a list.
* `MerkleSource.Selected`: A value is a source in the shape that its keys select.
* `MerkleSource.objections`: What there may be to object to a source.
* `MerkleSource.Classified`: What becomes of a value.

## Theorems

* `Checked.bind`: A check before others.
* `TreeData.validate_checked`, `MerkleProof.validate_checked`: The checks of the two shapes.
* `MerkleSource.validate_of_selected`, `MerkleSource.validate_of_unselected`: A value that a shape
  is selected for, and one that is no source.
* `MerkleSource.decodes_of_selected`: The wire agrees with the keys.
* `MerkleSource.selected_toJson`: An encoding selects the shape that it is of.
* `MerkleSource.classified`: All together, for every value.
-/

namespace WalletTrust

/-! ## Objections in order -/

/-- What speaks against something, as the failures that are reported for it. -/
abbrev Objection := Error → Prop

namespace Objection

/-- A condition is not met. -/
def unmet (condition : Prop) (e : Error) : Objection :=
  fun cause => ¬ condition ∧ cause = e

/-- What is tried fails. -/
def raised {α : Type} (outcome : Except Error α) : Objection :=
  fun e => outcome = .error e

end Objection

/-- What the first objection says that there is. -/
inductive FirstOf : List Objection → Error → Prop
  | here {objection : Objection} {e : Error} {rest : List Objection} (h : objection e) :
      FirstOf (objection :: rest) e
  | later {objection : Objection} {e : Error} {rest : List Objection}
      (h : ∀ cause, ¬ objection cause) (hrest : FirstOf rest e) : FirstOf (objection :: rest) e

/-- There is no objection. -/
def Unobjected (objections : List Objection) : Prop :=
  ∀ objection ∈ objections, ∀ e, ¬ objection e

/-- The outcome of checks that are made in order. -/
def Checked {α : Type} (outcome : Except Error α) (objections : List Objection) : Prop :=
  ∀ e, outcome = .error e ↔ FirstOf objections e

/-- There is a first objection or there is none. -/
theorem firstOf_or_unobjected (objections : List Objection) :
    (∃ e, FirstOf objections e) ∨ Unobjected objections := by
  induction objections with
  | nil => exact .inr (List.forall_mem_nil _)
  | cons objection rest ih =>
      by_cases h : ∃ e, objection e
      · rcases h with ⟨e, he⟩
        exact .inl ⟨e, .here he⟩
      · rcases ih with ⟨e, he⟩ | hrest
        · exact .inl ⟨e, .later (not_exists.1 h) he⟩
        · exact .inr (List.forall_mem_cons.2 ⟨not_exists.1 h, hrest⟩)

/-- The first objection is one of them. -/
theorem FirstOf.exists_mem {objections : List Objection} {e : Error} (h : FirstOf objections e) :
    ∃ objection ∈ objections, objection e := by
  induction h with
  | here h => exact ⟨_, List.mem_cons_self, h⟩
  | later _ _ ih =>
      rcases ih with ⟨objection, hmem, h⟩
      exact ⟨objection, List.mem_cons_of_mem _ hmem, h⟩

/-- Where nobody objects nobody is the first. -/
theorem Unobjected.not_firstOf {objections : List Objection} (h : Unobjected objections)
    (e : Error) : ¬ FirstOf objections e := by
  intro hfirst
  rcases hfirst.exists_mem with ⟨objection, hmem, he⟩
  exact h objection hmem e he

namespace Checked

variable {α β : Type} {outcome : Except Error α} {f : α → Except Error β} {objection : Objection}
  {objections : List Objection}

/-- A value that is checked passes if nobody objects to it. -/
theorem passes (h : Checked outcome objections) :
    (∃ a, outcome = .ok a) ↔ Unobjected objections := by
  constructor
  · rintro ⟨a, rfl⟩
    rcases firstOf_or_unobjected objections with ⟨e, he⟩ | hnone
    · cases (h e).2 he
    · exact hnone
  · intro hnone
    cases outcome with
    | ok a => exact ⟨a, rfl⟩
    | error e => exact absurd ((h e).1 rfl) (hnone.not_firstOf e)

theorem nil (a : α) : Checked (.ok a) [] := by
  intro e
  constructor
  · intro h
    cases h
  · intro h
    cases h

/-- A check before others: they are not reached if it fails. -/
theorem bind (h : ∀ e, outcome = .error e ↔ objection e)
    (hrest : ∀ a, outcome = .ok a → Checked (f a) objections) :
    Checked (outcome >>= f) (objection :: objections) := by
  intro e
  -- The first check that fails decides, and the later ones are not made.
  cases outcome with
  | error cause =>
      have hstops : ((.error cause : Except Error α) >>= f) = .error cause := rfl
      rw [hstops]
      constructor
      · intro hsame
        rw [← Except.error.inj hsame]
        exact .here ((h cause).1 rfl)
      · intro hfirst
        cases hfirst with
        | here he => rw [Except.error.inj ((h e).2 he)]
        | later hnone => exact absurd ((h cause).1 rfl) (hnone cause)
  | ok a =>
      have hruns : ((.ok a : Except Error α) >>= f) = f a := rfl
      have hnone (cause : Error) : ¬ objection cause := fun hcause => by
        cases (h cause).2 hcause
      rw [hruns, hrest a rfl e]
      constructor
      · exact .later hnone
      · intro hfirst
        cases hfirst with
        | here he => exact absurd he (hnone e)
        | later _ hlater => exact hlater

/-- The last check. -/
theorem last (h : ∀ e, outcome = .error e ↔ objection e) : Checked outcome [objection] := by
  intro e
  rw [h e]
  constructor
  · exact .here
  · intro hfirst
    cases hfirst with
    | here he => exact he
    | later _ hrest => cases hrest

end Checked

/-! ## The checks of the two shapes -/

/-- A check objects with the error it was given, if its condition is not met. -/
theorem check_error_iff {holds : Bool} {condition : Prop} (h : holds = true ↔ condition)
    (e cause : Error) : check holds e = .error cause ↔ Objection.unmet condition e cause := by
  rw [check]
  split
  · next hholds =>
    exact iff_of_false nofun fun hunmet => hunmet.1 (h.1 hholds)
  · next hnot =>
    constructor
    · intro hsame
      exact ⟨mt h.2 hnot, (Except.error.inj hsame).symm⟩
    · rintro ⟨_, rfl⟩
      rfl

/-- A list is tested for emptiness, and so it is not empty. -/
theorem nonempty_iff {α : Type} {as : List α} : (!as.isEmpty) = true ↔ as ≠ [] := by
  rw [Bool.not_eq_true', List.isEmpty_eq_false_iff]

/-- A tree needs a depth, leaves and a fan-out. -/
def TreeData.objections (d : TreeData) : List Objection :=
  [.unmet (0 < d.depth) .invalidDepth, .unmet (d.leaves ≠ []) .invalidLeaves,
    .unmet (0 < d.leavesPerNode) .invalidLeavesPerNode]

/-- A proof needs a root and a leaf that are not zero, siblings and path indices. -/
def MerkleProof.objections (p : MerkleProof) : List Objection :=
  [.unmet (p.root.isZero = false) .invalidRoot, .unmet (p.siblings ≠ []) .invalidSiblings,
    .unmet (p.pathIndices ≠ []) .invalidPathIndices, .unmet (p.leaf.isZero = false) .invalidLeaf]

/-- The checks of a tree are made in the order of its objections. -/
theorem TreeData.validate_checked (d : TreeData) : Checked d.validate d.objections := by
  have hpositive (n : UInt32) : decide (n ≠ 0) = true ↔ 0 < n := by
    rw [decide_eq_true_iff, UInt32.pos_iff_ne_zero]
  refine .bind (check_error_iff (hpositive _) _) fun _ _ => ?_
  refine .bind (check_error_iff nonempty_iff _) fun _ _ => ?_
  exact .last (check_error_iff (hpositive _) _)

/-- And so are those of a membership proof. -/
theorem MerkleProof.validate_checked (p : MerkleProof) : Checked p.validate p.objections := by
  have hnonzero (e : FieldElement) : (!e.isZero) = true ↔ e.isZero = false :=
    Bool.not_eq_true' _ ▸ Iff.rfl
  refine .bind (check_error_iff (hnonzero _) _) fun _ _ => ?_
  refine .bind (check_error_iff nonempty_iff _) fun _ _ => ?_
  refine .bind (check_error_iff nonempty_iff _) fun _ _ => ?_
  exact .last (check_error_iff (hnonzero _) _)

/-! ## What the keys select -/

theorem Assoc.lookup_isSome_iff {α : Type} {key : String} {entries : List (String × α)} :
    (lookup key entries).isSome = true ↔ key ∈ entries.map Prod.fst := by
  induction entries with
  | nil => exact iff_of_false Bool.false_ne_true List.not_mem_nil
  | cons head rest ih =>
      rw [lookup, List.map_cons, List.mem_cons]
      split
      · next h => exact iff_of_true rfl (.inl h.symm)
      · next h => rw [ih, or_iff_right (Ne.symm h)]

/-- An object with all keys of a list. -/
def Json.HasKeys (j : Json) (names : List String) : Prop :=
  ∃ members, j = .obj members ∧ ∀ name ∈ names, name ∈ members.map Prod.fst

/-- An object has some members if their names are among its keys. -/
theorem Json.hasKeys_iff {members : List (String × Json)} {names keys : List String}
    (hkeys : members.map Prod.fst = keys) :
    (obj members).HasKeys names ↔ ∀ name ∈ names, name ∈ keys := by
  constructor
  · rintro ⟨_, hmembers, h⟩
    cases hmembers
    rwa [hkeys] at h
  · intro h
    exact ⟨members, rfl, by rwa [hkeys]⟩

theorem MerkleSource.hasMembers_iff {members : List (String × Json)} {names : List String} :
    hasMembers (.obj members) names = true ↔ (Json.obj members).HasKeys names := by
  rw [hasMembers, List.all_eq_true, Json.hasKeys_iff rfl]
  exact forall₂_congr fun _ _ => Assoc.lookup_isSome_iff

theorem Record.mem_of_required {α : Type} [Wire α] {r : Record} {name : String} {a : α}
    (h : r.required name = some a) : name ∈ r.map Prod.fst := by
  rcases Option.bind_eq_some_iff.1 h with ⟨j, hj, _⟩
  exact Assoc.lookup_isSome_iff.1 (Option.isSome_iff_exists.2 ⟨j, hj⟩)

abbrev TreeData.keys : List String :=
  ["leaves", "depth", "leavesPerNode"]

abbrev MerkleProof.keys : List String :=
  ["root", "leaf", "siblings", "pathIndices"]

/-- An object that lacks a key of a tree cannot be decoded as one. -/
theorem TreeData.hasKeys_of_decoded {members : List (String × Json)} {d : TreeData}
    (h : Wire.ofJson? (.obj members) = some d) : (Json.obj members).HasKeys keys := by
  rcases Option.bind_eq_some_iff.1 h with ⟨r, hrecord, h⟩
  rcases Option.bind_eq_some_iff.1 h with ⟨_, hdepth, h⟩
  rcases Option.bind_eq_some_iff.1 h with ⟨_, hleaves, h⟩
  rcases Option.bind_eq_some_iff.1 h with ⟨_, hfan, _⟩
  -- Of an object the record has all members, also those that no field asks for.
  have hr : members = r := by
    simp only [Json.record?, Json.openRecord?] at hrecord
    split at hrecord
    · exact Option.some.inj hrecord
    · cases hrecord
  refine ⟨members, rfl, ?_⟩
  rw [hr, keys, List.forall_mem_cons, List.forall_mem_cons, List.forall_mem_singleton]
  exact ⟨Record.mem_of_required hleaves, Record.mem_of_required hdepth,
    Record.mem_of_required hfan⟩

namespace MerkleSource

/-- A value is a source in the shape that its keys select: a text, an object with all keys of a tree
that can be decoded as one, or an object that lacks some of them, has all keys of a proof and can be
decoded as one. -/
inductive Selected (j : Json) : MerkleSource → Prop
  | storageUrl {url : String} (h : j = .str url) : Selected j (.storageUrl url)
  | tree {data : TreeData} (hkeys : j.HasKeys TreeData.keys) (h : Wire.ofJson? j = some data) :
      Selected j (.tree data)
  | proof {given : MerkleProof} (hother : ¬ j.HasKeys TreeData.keys)
      (hkeys : j.HasKeys MerkleProof.keys) (h : Wire.ofJson? j = some given) :
      Selected j (.proof given)

/-- What there may be to object to a source. An address is not looked into. -/
def objections : MerkleSource → List Objection
  | .storageUrl _ => []
  | .tree data => data.objections
  | .proof given => given.objections

variable {j : Json} {s t : MerkleSource}

/-- The keys of a value select one shape at most, and in it there is one source. -/
theorem Selected.unique (hs : Selected j s) (ht : Selected j t) : s = t := by
  -- A text is no object, and of the objects a proof is only what lacks a key of a tree.
  cases hs with
  | storageUrl h =>
      cases ht with
      | storageUrl h' => rw [Json.str.inj (h.symm.trans h')]
      | tree hkeys => rcases hkeys with ⟨_, hobj, _⟩; cases h.symm.trans hobj
      | proof _ hkeys => rcases hkeys with ⟨_, hobj, _⟩; cases h.symm.trans hobj
  | tree hkeys h =>
      cases ht with
      | storageUrl h' => rcases hkeys with ⟨_, hobj, _⟩; cases h'.symm.trans hobj
      | tree _ h' => rw [Option.some.inj (h.symm.trans h')]
      | proof hother => exact absurd hkeys hother
  | proof hother hkeys h =>
      cases ht with
      | storageUrl h' => rcases hkeys with ⟨_, hobj, _⟩; cases h'.symm.trans hobj
      | tree htree => exact absurd htree hother
      | proof _ _ h' => rw [Option.some.inj (h.symm.trans h')]

/-- If a shape is selected the outcome is that of its checks. -/
theorem validate_of_selected (h : Selected j s) :
    ∃ outcome : Except Error Unit, Checked outcome s.objections ∧
      validate j = outcome.map fun _ => s := by
  -- For each selected form there is the one validator.
  cases h with
  | @storageUrl url h =>
      refine ⟨.ok (), .nil (), ?_⟩
      rw [h]
      rfl
  | @tree data hkeys h =>
      refine ⟨data.validate, data.validate_checked, ?_⟩
      rcases hkeys with ⟨members, rfl, hmembers⟩
      rw [validate, if_pos (hasMembers_iff.2 ⟨members, rfl, hmembers⟩), h]
      dsimp only
      cases data.validate <;> rfl
  | @proof given hother hkeys h =>
      refine ⟨given.validate, given.validate_checked, ?_⟩
      rcases hkeys with ⟨members, rfl, hmembers⟩
      rw [validate, if_neg (mt hasMembers_iff.1 hother),
        if_pos (hasMembers_iff.2 ⟨members, rfl, hmembers⟩), h]
      dsimp only
      cases given.validate <;> rfl

/-- What is none of the three is refused, before anything about it is checked. -/
theorem validate_of_unselected (h : ∀ s, ¬ Selected j s) :
    validate j = .error .invalidMerkleInputs := by
  -- Wherever a check would be made a shape is selected, so every other branch ends in the same way.
  cases j with
  | str url => exact absurd (.storageUrl rfl) (h (.storageUrl url))
  | obj members =>
      rw [validate]
      split
      · next hkeys =>
        split
        · rfl
        · next data hdata => exact absurd (.tree (hasMembers_iff.1 hkeys) hdata) (h (.tree data))
      · next hother =>
        split
        · next hkeys =>
          split
          · rfl
          · next given hgiven =>
            exact absurd (.proof (mt hasMembers_iff.2 hother) (hasMembers_iff.1 hkeys) hgiven)
              (h (.proof given))
        · rfl
  | _ => rfl

theorem ofJson?_obj (members : List (String × Json)) :
    (Wire.ofJson? (.obj members) : Option MerkleSource) =
      match (Wire.ofJson? (.obj members) : Option TreeData) with
      | some data => some (.tree data)
      | none => (Wire.ofJson? (.obj members)).map .proof := rfl

/-- The wire agrees with the keys. -/
theorem decodes_of_selected (h : Selected j s) : Wire.ofJson? j = some s := by
  cases h with
  | storageUrl h =>
      rw [h]
      rfl
  | @tree data hkeys h =>
      rcases hkeys with ⟨members, rfl, _⟩
      rw [ofJson?_obj, h]
  | @proof given hother hkeys h =>
      rcases hkeys with ⟨members, rfl, _⟩
      -- What lacks a key of a tree cannot be decoded as one, so the wire goes on to the proof.
      have htree : (Wire.ofJson? (.obj members) : Option TreeData) = none := by
        cases hdata : (Wire.ofJson? (.obj members) : Option TreeData) with
        | none => rfl
        | some data => exact absurd (TreeData.hasKeys_of_decoded hdata) hother
      rw [ofJson?_obj, htree, h]
      rfl

/-- The encoding of a source selects its shape. -/
theorem selected_toJson (s : MerkleSource) : Selected (toJson s) s := by
  cases s with
  | storageUrl url => exact .storageUrl rfl
  | tree data =>
      have hkeys : ∀ name ∈ TreeData.keys, name ∈ ["depth", "leaves", "leavesPerNode"] := by decide
      exact .tree ((Json.hasKeys_iff rfl).2 hkeys) (Faithful.decodes data)
  | proof given =>
      have hother : ¬ ∀ name ∈ TreeData.keys, name ∈ MerkleProof.keys := by decide
      exact .proof (mt (Json.hasKeys_iff rfl).1 hother) ((Json.hasKeys_iff rfl).2 fun _ => id)
        (Faithful.decodes given)

/-- What becomes of a value. -/
structure Classified (j : Json) : Prop where
  accepts : ∀ s, validate j = .ok s ↔ Selected j s ∧ Unobjected s.objections
  /-- A value of a selected shape is refused for the first objection that there is to it. Any other
  value is refused as no source at all. -/
  rejects : ∀ e, validate j = .error e ↔ (∃ s, Selected j s ∧ FirstOf s.objections e) ∨
    ((∀ s, ¬ Selected j s) ∧ e = .invalidMerkleInputs)
  decodes : ∀ s, validate j = .ok s → Wire.ofJson? j = some s
  settles : ∀ s, validate j = .ok s → validate (toJson s) = .ok s

/-- A source that is selected is accepted as what it is, if nobody objects. -/
theorem accepts_of_selected (h : Selected j s) :
    validate j = .ok t ↔ t = s ∧ Unobjected s.objections := by
  rcases validate_of_selected h with ⟨outcome, hchecked, hvalidate⟩
  rw [hvalidate, ← hchecked.passes]
  cases outcome with
  | error e => exact iff_of_false nofun nofun
  | ok u =>
      constructor
      · intro ht
        exact ⟨(Except.ok.inj ht).symm, u, rfl⟩
      · rintro ⟨rfl, _⟩
        rfl

/-- Or it is rejected with the first objection. -/
theorem rejects_of_selected {e : Error} (h : Selected j s) :
    validate j = .error e ↔ FirstOf s.objections e := by
  rcases validate_of_selected h with ⟨outcome, hchecked, hvalidate⟩
  rw [hvalidate, ← hchecked e]
  cases outcome with
  | error cause =>
      constructor
      · intro hsame
        rw [Except.error.inj hsame]
      · intro hsame
        rw [Except.error.inj hsame]
        rfl
  | ok => exact iff_of_false nofun nofun

/-- What is accepted is one of the three, and nobody objects to it. -/
theorem accepts_iff : validate j = .ok s ↔ Selected j s ∧ Unobjected s.objections := by
  constructor
  · intro hok
    by_cases hany : ∃ t, Selected j t
    · rcases hany with ⟨t, ht⟩
      rcases (accepts_of_selected ht).1 hok with ⟨rfl, hnone⟩
      exact ⟨ht, hnone⟩
    · rw [validate_of_unselected (not_exists.1 hany)] at hok
      cases hok
  · rintro ⟨hs, hnone⟩
    exact (accepts_of_selected hs).2 ⟨rfl, hnone⟩

/-- What is rejected is none of the three, or the first objection says why. -/
theorem rejects_iff {e : Error} : validate j = .error e ↔
    (∃ s, Selected j s ∧ FirstOf s.objections e) ∨
      ((∀ s, ¬ Selected j s) ∧ e = .invalidMerkleInputs) := by
  constructor
  · intro herror
    by_cases hany : ∃ t, Selected j t
    · rcases hany with ⟨t, ht⟩
      exact .inl ⟨t, ht, (rejects_of_selected ht).1 herror⟩
    · rw [validate_of_unselected (not_exists.1 hany)] at herror
      exact .inr ⟨not_exists.1 hany, (Except.error.inj herror).symm⟩
  · rintro (⟨t, ht, hfirst⟩ | ⟨hnone, rfl⟩)
    · exact (rejects_of_selected ht).2 hfirst
    · exact validate_of_unselected hnone

/-- The two ways to tell what a value is agree on all that is accepted, and what is accepted once is
accepted again from its encoding. -/
theorem classified (j : Json) : Classified j where
  accepts _ := accepts_iff
  rejects _ := rejects_iff
  decodes _ h := decodes_of_selected (accepts_iff.1 h).1
  settles s h := accepts_iff.2 ⟨s.selected_toJson, (accepts_iff.1 h).2⟩

end MerkleSource

end WalletTrust

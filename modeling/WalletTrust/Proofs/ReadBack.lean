import WalletTrust.OriginMap
import WalletTrust.Trust.Approval
import WalletTrust.Trust.Connection

/-!
# Maps Are Read Back

The text of a map is read as that map, whatever characters its origins and names are made of.

A text is read off the front of a sequence of characters, so the law for a value speaks of what
follows it: the value is read, and the rest is left as it was. In that form the laws for the parts
of a list or an object join to the law for the whole, and since no part is longer than the whole,
one bound on the number of steps serves them all. Strings are the leaves. An escaped character is
read as one code point, so a string is read as the code points of its characters, none of which is
half of a surrogate pair.

Decoding then takes the value apart again, and the entries of a map, set one after the other, make
the map, because they ascend. Numbers are left out: no map that is kept in a slot holds any.

## Main definitions

* `Json.ReadsBack`: A value that is read off the front of its text.
* `LawfulWire`: Types whose values are decoded from their own text.

## Theorems

* `Json.readString_render`: A string is read back, whatever its characters.
* `Json.readsBack_arr`, `Json.readsBack_obj`: Lists and objects are read back if their parts are.
* `Json.read?_text`: A value is read from its text.
* `OriginMap.ofText?_text`: A map is read back from its text.
* `Json.readUnits_renderChar`: However a character is written, one code point is read.
* `Json.readItems_render`, `Json.readMembers_render`: Items and members are read one after the
  other, the last one with the closing bracket.
* `OriginMap.ofList_entries`: Setting the entries of a map one by one makes the map.
-/

namespace WalletTrust

namespace Json

/-! ## Strings -/

/-- A character that needs no escape is read as itself. -/
theorem readUnits_plain {c : Char} (hquote : c ≠ '"') (hslash : c ≠ '\\') (hlow : 32 ≤ c.toNat)
    (units : List Nat) (rest : List Char) :
    readUnits units (c :: rest) = readUnits (c.toNat :: units) rest := by
  rw [readUnits]
  · rw [if_neg]
    simp only [Bool.or_eq_true, decide_eq_true_eq, not_or]
    exact ⟨hslash, by omega⟩
  · exact hquote
  · exact fun _ _ _ _ _ h => absurd h hslash
  · exact fun _ _ h => absurd h hslash

/-- A control character is read back from its four digits. -/
theorem codeUnit?_control : ∀ n < 32,
    codeUnit? '0' '0' (Hex.digit (n / 16)) (Hex.digit (n % 16)) = some n := by decide

/-- However a character is written, one code point is read. -/
theorem readUnits_renderChar (c : Char) (units : List Nat) (rest : List Char) :
    readUnits units (renderChar c ++ rest) = readUnits (c.toNat :: units) rest := by
  -- Seven characters have an escape of their own, the other control characters a number.
  rw [renderChar]
  split
  · next h => subst h; rfl
  split
  · next h => subst h; rfl
  split
  · next h => rw [h]; rfl
  split
  · next h => rw [h]; rfl
  split
  · next h => rw [h]; rfl
  split
  · next h => rw [h]; rfl
  split
  · next h => rw [h]; rfl
  split
  · next h =>
    simp only [List.cons_append, List.nil_append]
    rw [readUnits, codeUnit?_control _ h]
  · next hquote hslash _ _ _ _ _ h =>
    exact readUnits_plain hquote hslash (Nat.le_of_not_lt h) units rest

/-- No character is half of a surrogate pair, so none is taken for one. -/
theorem pairUnits_toNat (cs : List Char) : pairUnits (cs.map Char.toNat) = some cs := by
  induction cs with
  | nil => rfl
  | cons c rest ih =>
      -- The code point of a character is none of the surrogates.
      have hvalid : c.toNat < 0xD800 ∨ 0xDFFF < c.toNat ∧ c.toNat < 0x110000 := c.valid
      rw [List.map_cons, pairUnits.eq_def]
      simp only
      rw [if_neg (by omega), if_neg (by omega), ih, Option.map_some, Char.ofNat_toNat]

theorem readUnits_flatMap (cs : List Char) (units : List Nat) (rest : List Char) :
    readUnits units (cs.flatMap renderChar ++ '"' :: rest) =
      some (units.reverse ++ cs.map Char.toNat, rest) := by
  induction cs generalizing units with
  | nil => rw [List.flatMap_nil, List.nil_append, readUnits, List.map_nil, List.append_nil]
  | cons c cs ih =>
      rw [List.flatMap_cons, List.append_assoc, readUnits_renderChar, ih, List.map_cons,
        List.reverse_cons, List.append_assoc, List.singleton_append]

/-- A string is read up to its closing quotation mark, as what it was. -/
theorem readString_render (s : String) (rest : List Char) :
    readString (s.toList.flatMap renderChar ++ '"' :: rest) = some (some s, rest) := by
  rw [readString, readUnits_flatMap]
  simp only [List.reverse_nil, List.nil_append, pairUnits_toNat, Option.map_some,
    String.ofList_toList]

/-! ## Values -/

/-- A value that is read off the front of its text. Its first character neither is a blank nor
closes a list, so a reader knows that there is a value. -/
structure ReadsBack (j : Json) : Prop where
  front : ∃ c cs, render j = c :: cs ∧ isSpace c = false ∧ c ≠ ']'
  reads : ∀ fuel rest, (render j).length ≤ fuel →
    readValue fuel (render j ++ rest) = some (j, rest)

theorem skipSpace_cons {c : Char} (h : isSpace c = false) (cs : List Char) :
    skipSpace (c :: cs) = c :: cs := by
  rw [skipSpace, List.dropWhile_cons, h, if_neg Bool.false_ne_true]

/-- A string is read back by the law for its characters. -/
theorem readsBack_str (s : String) : ReadsBack (.str s) where
  front := ⟨'"', _, rfl, rfl, by decide⟩
  reads fuel rest hfuel := by
    cases fuel with
    | zero => cases hfuel
    | succ fuel =>
        have hrender : render (.str s) ++ rest =
            '"' :: (s.toList.flatMap renderChar ++ '"' :: rest) := by
          rw [render, renderString, List.append_assoc, List.singleton_append, List.cons_append]
        rw [hrender, readValue, skipSpace_cons rfl]
        simp only [readString_render, ofString?]

theorem readsBack_bool (b : Bool) : ReadsBack (.bool b) where
  front := by
    cases b with
    | false => exact ⟨_, _, rfl, rfl, by decide⟩
    | true => exact ⟨_, _, rfl, rfl, by decide⟩
  reads fuel rest hfuel := by
    cases fuel with
    | zero => cases b <;> cases hfuel
    | succ fuel => cases b <;> rfl

/-- Items are read one after the other, the last one with the closing bracket. -/
theorem readItems_render {j : Json} {items : List Json} (hj : ReadsBack j)
    (h : ∀ k ∈ items, ReadsBack k) (fuel : Nat) (rest : List Char)
    (hfuel : (render j ++ renderItems items).length ≤ fuel) :
    readItems fuel (render j ++ renderItems items ++ rest) = some (j :: items, rest) := by
  -- Each item takes one step of the bound, and at least as many characters of the text.
  induction items generalizing j fuel with
  | nil =>
      rw [List.length_append] at hfuel
      cases fuel with
      | zero => cases hfuel
      | succ fuel =>
          have hvalue := hj.reads fuel (']' :: rest) (Nat.le_of_succ_le_succ hfuel)
          rw [renderItems, List.append_assoc, List.singleton_append, readItems, hvalue]
          rfl
  | cons k items ih =>
      simp only [renderItems, List.length_append, List.length_cons] at hfuel
      cases fuel with
      | zero => cases hfuel
      | succ fuel =>
          have hvalue := hj.reads fuel (',' :: (render k ++ renderItems items ++ rest)) (by omega)
          have hitems := ih (h k List.mem_cons_self)
            (fun i hi => h i (List.mem_cons_of_mem _ hi)) fuel
            (by rw [List.length_append]; omega)
          rw [renderItems, List.append_assoc, List.cons_append, readItems, hvalue]
          simp only
          rw [skipSpace_cons rfl]
          simp only [hitems]

theorem readsBack_arr {items : List Json} (h : ∀ j ∈ items, ReadsBack j) :
    ReadsBack (.arr items) := by
  cases items with
  | nil =>
      refine ⟨⟨_, _, rfl, rfl, by decide⟩, fun fuel rest hfuel => ?_⟩
      cases fuel with
      | zero => cases hfuel
      | succ fuel => rfl
  | cons j items =>
      have hj := h j List.mem_cons_self
      refine ⟨⟨_, _, rfl, rfl, by decide⟩, fun fuel rest hfuel => ?_⟩
      rw [render, List.length_cons] at hfuel
      cases fuel with
      | zero => cases hfuel
      | succ fuel =>
          have hitems := readItems_render hj (fun k hk => h k (List.mem_cons_of_mem _ hk)) fuel rest
            (Nat.le_of_succ_le_succ hfuel)
          rw [render, List.cons_append, readValue, skipSpace_cons rfl]
          simp only
          -- The list is not empty, and the reader sees that by the front of its first item.
          rcases hj.front with ⟨c, cs, hrender, hspace, hopen⟩
          rw [hrender, List.cons_append, List.cons_append] at hitems
          rw [hrender, List.cons_append, List.cons_append, skipSpace_cons hspace]
          split
          · next hclose => exact absurd (List.cons.inj hclose).1 hopen
          · simp only [hitems]

theorem renderString_append (name : String) (rest : List Char) :
    renderString name ++ rest = '"' :: (name.toList.flatMap renderChar ++ '"' :: rest) := by
  rw [renderString, List.append_assoc, List.singleton_append, List.cons_append]

/-- The last member is read with the closing brace. -/
theorem readMembers_last {name : String} {j : Json} {fuel : Nat} {tail rest : List Char}
    (h : readValue fuel tail = some (j, '\x7d' :: rest)) :
    readMembers (fuel + 1) (renderString name ++ ':' :: tail) =
      some (some [(name, j)], rest) := by
  rw [renderString_append, readMembers, skipSpace_cons rfl]
  simp only [readString_render]
  rw [skipSpace_cons rfl]
  simp only [h]
  rfl

/-- Another member is read with the comma after it. -/
theorem readMembers_more {name : String} {j : Json} {members : List (String × Json)} {fuel : Nat}
    {tail between rest : List Char} (h : readValue fuel tail = some (j, ',' :: between))
    (hmembers : readMembers fuel between = some (some members, rest)) :
    readMembers (fuel + 1) (renderString name ++ ':' :: tail) =
      some (some ((name, j) :: members), rest) := by
  rw [renderString_append, readMembers, skipSpace_cons rfl]
  simp only [readString_render]
  rw [skipSpace_cons rfl]
  simp only [h]
  rw [skipSpace_cons rfl]
  simp only [hmembers]

theorem readMembers_render (name : String) {j : Json} {members : List (String × Json)}
    (hj : ReadsBack j) (h : ∀ m ∈ members, ReadsBack m.2) (fuel : Nat) (rest : List Char)
    (hfuel : (render j ++ renderMembers members).length ≤ fuel) :
    readMembers fuel (renderString name ++ ':' :: (render j ++ renderMembers members ++ rest)) =
      some (some ((name, j) :: members), rest) := by
  -- One member is read with one unit of fuel, and there are at least as many characters as that.
  induction members generalizing name j fuel with
  | nil =>
      rw [List.length_append] at hfuel
      cases fuel with
      | zero => cases hfuel
      | succ fuel =>
          rw [renderMembers, List.append_assoc, List.singleton_append]
          exact readMembers_last (hj.reads fuel _ (Nat.le_of_succ_le_succ hfuel))
  | cons m members ih =>
      simp only [renderMembers, List.length_append, List.length_cons] at hfuel
      cases fuel with
      | zero => cases hfuel
      | succ fuel =>
          have hmembers := ih m.1 (h m List.mem_cons_self)
            (fun i hi => h i (List.mem_cons_of_mem _ hi)) fuel
            (by rw [List.length_append]; omega)
          refine readMembers_more ?_ hmembers
          rw [renderMembers, List.append_assoc, List.cons_append, List.append_assoc,
            List.cons_append]
          exact hj.reads fuel _ (by omega)

theorem readsBack_obj {members : List (String × Json)} (h : ∀ m ∈ members, ReadsBack m.2) :
    ReadsBack (.obj members) := by
  cases members with
  | nil =>
      refine ⟨⟨_, _, rfl, rfl, by decide⟩, fun fuel rest hfuel => ?_⟩
      cases fuel with
      | zero => cases hfuel
      | succ fuel => rfl
  | cons m members =>
      refine ⟨⟨_, _, rfl, rfl, by decide⟩, fun fuel rest hfuel => ?_⟩
      simp only [render, List.length_append, List.length_cons] at hfuel
      cases fuel with
      | zero => cases hfuel
      | succ fuel =>
          -- The brace is read first; the members are the lemma before.
          have hmembers := readMembers_render m.1 (h m List.mem_cons_self)
            (fun k hk => h k (List.mem_cons_of_mem _ hk)) fuel rest
            (by rw [List.length_append]; omega)
          have hrender : render (.obj (m :: members)) ++ rest = '\x7b' ::
              (renderString m.1 ++ ':' :: (render m.2 ++ renderMembers members ++ rest)) := by
            rw [render, List.cons_append, List.append_assoc, List.cons_append]
          rw [hrender, readValue, skipSpace_cons rfl]
          simp only
          rw [renderString_append] at hmembers ⊢
          rw [skipSpace_cons rfl]
          simp only [hmembers, ofMembers?]
          rfl

/-- The text of a value is read with nothing left over. -/
theorem read?_text {j : Json} (h : ReadsBack j) : read? j.text = some j := by
  have hvalue := h.reads ((render j).length + 1) [] (Nat.le_succ _)
  rw [List.append_nil] at hvalue
  rw [read?, text, String.toList_ofList]
  simp only [hvalue]
  rfl

end Json

/-! ## Types -/

/-- Types whose values are decoded from their own text. -/
class LawfulWire (α : Type) [Wire α] : Prop where
  reads : ∀ a : α, (toJson a).ReadsBack
  decodes : ∀ a : α, Wire.ofJson? (toJson a) = some a

instance : LawfulWire Bool where
  reads := Json.readsBack_bool
  decodes _ := rfl

instance : LawfulWire String where
  reads := Json.readsBack_str
  decodes _ := rfl

instance : LawfulWire HostPermission where
  reads p := Json.readsBack_obj (List.forall_mem_singleton.2 (LawfulWire.reads p.canSkipApprove))
  decodes p := by rcases p with ⟨_ | _⟩ <;> rfl

instance : LawfulWire ConnectedIdentity where
  reads c := Json.readsBack_obj (List.forall_mem_cons.2
    ⟨LawfulWire.reads c.commitment, List.forall_mem_singleton.2 (LawfulWire.reads c.name)⟩)
  decodes _ := rfl

instance {α β : Type} [Wire α] [Wire β] [LawfulWire α] [LawfulWire β] : LawfulWire (α × β) where
  reads p := Json.readsBack_arr (List.forall_mem_cons.2
    ⟨LawfulWire.reads p.1, List.forall_mem_singleton.2 (LawfulWire.reads p.2)⟩)
  decodes p := by
    have hpair : Wire.ofJson? (toJson p) =
        match (Wire.ofJson? (toJson p.1) : Option α), (Wire.ofJson? (toJson p.2) : Option β) with
        | some a, some b => some (a, b)
        | _, _ => none := rfl
    rw [hpair, LawfulWire.decodes, LawfulWire.decodes]

theorem Json.itemsWith?_map {α : Type} [Wire α] {decode : Json → Option α}
    (h : ∀ a, decode (toJson a) = some a) (as : List α) :
    Json.itemsWith? decode (as.map toJson) = some as := by
  induction as with
  | nil => rfl
  | cons a as ih => rw [List.map_cons, Json.itemsWith?, h, ih]

instance {α : Type} [Wire α] [LawfulWire α] : LawfulWire (List α) where
  reads as := Json.readsBack_arr fun j hj => by
    rcases List.mem_map.1 hj with ⟨a, -, rfl⟩
    exact LawfulWire.reads a
  decodes := Json.itemsWith?_map LawfulWire.decodes

/-! ## Maps -/

namespace Assoc

variable {α : Type}

/-- A key behind all others is put at the end. -/
theorem insert_last {key : String} {value : α} {entries : List (String × α)}
    (h : ∀ e ∈ entries, e.1 < key) : insert key value entries = entries ++ [(key, value)] := by
  induction entries with
  | nil => rfl
  | cons head rest ih =>
      have hlt := h head List.mem_cons_self
      have hne : key ≠ head.1 := fun hsame => String.lt_irrefl _ (hsame ▸ hlt)
      rw [insert, if_neg (String.lt_asymm hlt), if_neg hne,
        ih fun e he => h e (List.mem_cons_of_mem _ he), List.cons_append]

end Assoc

namespace OriginMap

variable {α : Type}

/-- Setting ascending pairs appends them to a map that is below them. -/
theorem entries_setAll (m : OriginMap α) {pairs : List (String × α)}
    (h : Assoc.Sorted (m.entries ++ pairs)) : (m.setAll pairs).entries = m.entries ++ pairs := by
  induction pairs generalizing m with
  | nil => exact (List.append_nil _).symm
  | cons pair rest ih =>
      -- The pair is behind all that is in the map, so setting it puts it at the end.
      have hbelow : ∀ e ∈ m.entries, e.1 < pair.1 := fun e he =>
        (List.pairwise_append.1 h).2.2 e he pair List.mem_cons_self
      have hinsert : (m.insert pair.1 pair.2).entries = m.entries ++ [pair] :=
        Assoc.insert_last hbelow
      have hrest := ih (m.insert pair.1 pair.2)
        (by rw [hinsert, List.append_assoc]; exact h)
      rw [setAll, List.foldl_cons]
      rw [setAll] at hrest
      rw [hrest, hinsert, List.append_assoc, List.singleton_append]

theorem ext_entries {m n : OriginMap α} (h : m.entries = n.entries) : m = n := by
  cases m
  cases n
  cases h
  rfl

/-- Setting the entries of a map one by one makes the map. -/
theorem ofList_entries (m : OriginMap α) : ofList m.entries = m :=
  ext_entries (entries_setAll empty m.sorted)

/-- A map is read back from its text. -/
theorem ofText?_text [Wire α] [LawfulWire α] (m : OriginMap α) : ofText? m.text = some m := by
  rw [ofText?, text, Json.read?_text (LawfulWire.reads m.entries), Option.bind_some,
    LawfulWire.decodes, Option.map_some, ofList_entries]

end OriginMap

end WalletTrust

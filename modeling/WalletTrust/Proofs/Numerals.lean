import Mathlib.Data.Nat.Digits.Defs
import WalletTrust.Proofs.Classification
import WalletTrust.Proofs.Signatures

/-!
# Field Elements as Numbers

An element that is written as a numeral is zero if the number is.

The wallet asks of an element only whether it is zero, and answers from the digits without computing
the number. Here the number is computed. A numeral is a sequence of decimal digits, or of
hexadecimal digits of either case after `0x` or `0X`, with blanks around it. It may have any length
and any number of zeros in front, so zero alone has a spelling for every length, in both bases.

The question about the digits and the number go together because no digit but `0` stands for zero
and a number in a base is zero only if all its digits are. The mark of hexadecimal is no obstacle:
`x` is no decimal digit, so no decimal numeral is taken for one with a mark.

## Main definitions

* `Numeral.IsDigit`, `Numeral.value`: The digits of a base, and the number that digits write.
* `FieldElement.Denotes`: The number that an element denotes.
* `MerkleProof.Judged`: What the checks say of a proof whose root and leaf denote numbers.

## Theorems

* `Numeral.value_eq_zero_iff`: Digits write zero if they are all `0`.
* `Numeral.value_toDigits`: The decimal digits of a number write it.
* `FieldElement.Denotes.isZero_iff`: An element is zero if the number is.
* `FieldElement.zero_by_value`: All together, also for numbers and for the checks of a proof.
* `Numeral.extend_eq_zero_iff`: Digits after a number write zero if the number is zero and they are
  all `0`.
* `FieldElement.digits_decimal`, `FieldElement.digits_hexadecimal`: The digits of a numeral, with
  its mark off.
* `FieldElement.ofJson?_int`: A whole number of sixty-four bits is taken for the element that it
  writes.
-/

namespace WalletTrust

/-! ## Digits -/

namespace Numeral

variable {base n : Nat} {c : Char} {cs : List Char}

/-- The digits of a base are the characters that stand for the numbers below it. -/
def IsDigit (base : Nat) (c : Char) : Prop :=
  ∃ d < base, Hex.value? c = some d

/-- The number that digits write after a number, the most significant digit first. -/
def extend (base : Nat) (n : Nat) (cs : List Char) : Nat :=
  cs.foldl (fun n c => base * n + (Hex.value? c).getD 0) n

/-- The number that digits write. -/
def value (base : Nat) (cs : List Char) : Nat :=
  extend base 0 cs

theorem extend_append (base n : Nat) (cs : List Char) (c : Char) :
    extend base n (cs ++ [c]) = base * extend base n cs + (Hex.value? c).getD 0 := by
  rw [extend, List.foldl_append]
  rfl

/-- The digit `0` alone stands for zero. -/
theorem eq_zero_of_value? (h : Hex.value? c = some 0) : c = '0' := by
  have hc := Hex.isDigit_of_value? h
  have hascii : ∀ k < 103, Hex.value? (Char.ofNat k) = some 0 → Char.ofNat k = '0' := by decide
  have hsame := hascii c.toNat hc.toNat_lt
  rw [Char.ofNat_toNat] at hsame
  exact hsame h

theorem IsDigit.value?_eq_zero_iff (h : IsDigit base c) :
    (Hex.value? c).getD 0 = 0 ↔ c = '0' := by
  rcases h with ⟨d, _, hd⟩
  constructor
  · intro hzero
    rw [hd, Option.getD_some] at hzero
    exact eq_zero_of_value? (hzero ▸ hd)
  · intro hzero
    rw [hzero]
    rfl

/-- Digits after a number write zero if the number is zero and they are all `0`. -/
theorem extend_eq_zero_iff (h : ∀ c ∈ cs, IsDigit base c) :
    extend base n cs = 0 ↔ n = 0 ∧ ∀ c ∈ cs, c = '0' := by
  induction cs generalizing n with
  | nil => exact (and_iff_left (List.forall_mem_nil _)).symm
  | cons c rest ih =>
      rw [List.forall_mem_cons] at h
      rcases h with ⟨hc, hrest⟩
      have hbase : 0 < base := by
        rcases hc with ⟨d, hd, _⟩
        omega
      have hstep : extend base n (c :: rest) =
          extend base (base * n + (Hex.value? c).getD 0) rest := rfl
      rw [hstep, ih hrest, List.forall_mem_cons, ← hc.value?_eq_zero_iff, Nat.add_eq_zero_iff,
        Nat.mul_eq_zero, or_iff_right (Nat.pos_iff_ne_zero.1 hbase), and_assoc]

theorem value_eq_zero_iff (h : ∀ c ∈ cs, IsDigit base c) :
    value base cs = 0 ↔ ∀ c ∈ cs, c = '0' := by
  rw [value, extend_eq_zero_iff h]
  exact and_iff_right rfl

/-- No digit is a blank. -/
theorem IsDigit.isBlank_eq_false (h : IsDigit base c) : isBlank c = false := by
  rcases h with ⟨d, _, hd⟩
  have hascii : ∀ k < 103, Hex.IsDigit (Char.ofNat k) → isBlank (Char.ofNat k) = false := by decide
  have hc := Hex.isDigit_of_value? hd
  have hshown := hascii c.toNat hc.toNat_lt
  rw [Char.ofNat_toNat] at hshown
  exact hshown hc

/-! ## The decimal digits of a number -/

theorem value?_digitChar : ∀ d < 10, Hex.value? d.digitChar = some d := by decide

theorem isDigit_digitChar {d : Nat} (h : d < 10) : IsDigit 10 d.digitChar :=
  ⟨d, h, value?_digitChar d h⟩

theorem isDigit_toDigits (n : Nat) : ∀ c ∈ Nat.toDigits 10 n, IsDigit 10 c := by
  induction n using Nat.strongRecOn with
  | ind n ih =>
      rw [Nat.toDigits_eq_if (by omega)]
      by_cases hsmall : n < 10
      · rw [if_pos hsmall, List.forall_mem_singleton]
        exact isDigit_digitChar hsmall
      · rw [if_neg hsmall, List.forall_mem_append, List.forall_mem_singleton]
        exact ⟨ih (n / 10) (by omega), isDigit_digitChar (Nat.mod_lt n (by omega))⟩

/-- The decimal digits of a number write it. -/
theorem value_toDigits (n : Nat) : value 10 (Nat.toDigits 10 n) = n := by
  induction n using Nat.strongRecOn with
  | ind n ih =>
      rw [Nat.toDigits_eq_if (by omega)]
      by_cases hsmall : n < 10
      · have hvalue : value 10 [n.digitChar] = 10 * 0 + (Hex.value? n.digitChar).getD 0 := rfl
        rw [if_pos hsmall, hvalue, value?_digitChar n hsmall, Option.getD_some, Nat.mul_zero,
          Nat.zero_add]
      · rw [if_neg hsmall, value, extend_append, ← value, ih (n / 10) (by omega),
          value?_digitChar _ (Nat.mod_lt n (by omega)), Option.getD_some, Nat.div_add_mod]

end Numeral

/-! ## Elements -/

namespace FieldElement

variable {e : FieldElement} {n : Nat}

/-- An element is written as a numeral, with blanks around it, and the number is the one that the
digits write. -/
inductive Denotes : FieldElement → Nat → Prop
  | decimal (before digits after : List Char) (hbefore : ∀ c ∈ before, isBlank c = true)
      (hdigits : ∀ c ∈ digits, Numeral.IsDigit 10 c) (hsome : digits ≠ [])
      (hafter : ∀ c ∈ after, isBlank c = true) :
      Denotes ⟨String.ofList (before ++ digits ++ after)⟩ (Numeral.value 10 digits)
  | hexadecimal (before digits after : List Char) {mark : Char}
      (hbefore : ∀ c ∈ before, isBlank c = true) (hmark : mark = 'x' ∨ mark = 'X')
      (hdigits : ∀ c ∈ digits, Numeral.IsDigit 16 c) (hsome : digits ≠ [])
      (hafter : ∀ c ∈ after, isBlank c = true) :
      Denotes ⟨String.ofList (before ++ '0' :: mark :: digits ++ after)⟩ (Numeral.value 16 digits)

/-- Decimal digits have no mark in front. -/
theorem digits_decimal {cs : List Char} (h : ∀ c ∈ cs, Numeral.IsDigit 10 c) : digits cs = cs := by
  -- If there were one, its letter would be among the digits.
  have hletter {c : Char} (hc : Hex.value? c = none) : c ∉ cs := by
    intro hmem
    rcases h c hmem with ⟨d, _, hd⟩
    cases hc.symm.trans hd
  unfold digits
  split
  · exact absurd (List.mem_cons_of_mem _ List.mem_cons_self) (hletter (c := 'x') (by decide))
  · exact absurd (List.mem_cons_of_mem _ List.mem_cons_self) (hletter (c := 'X') (by decide))
  · rfl

theorem digits_hexadecimal {mark : Char} (h : mark = 'x' ∨ mark = 'X') (cs : List Char) :
    digits ('0' :: mark :: cs) = cs := by
  rcases h with rfl | rfl
  · rfl
  · rfl

theorem isZero_surrounded {before cs after : List Char} (hbefore : ∀ c ∈ before, isBlank c = true)
    (hshown : ∀ c ∈ cs, isBlank c = false) (hafter : ∀ c ∈ after, isBlank c = true) :
    isZero ⟨String.ofList (before ++ cs ++ after)⟩ = true ↔ ∀ c ∈ digits cs, c = '0' := by
  rw [isZero, String.toList_ofList, trimChars_surrounded hbefore hshown hafter, List.all_eq_true]
  simp only [decide_eq_true_eq]

/-- An element is zero if the number is. -/
theorem Denotes.isZero_iff (h : e.Denotes n) : e.isZero = true ↔ n = 0 := by
  -- Once the blanks are off and the base is known, zero is a matter of the digits.
  cases h with
  | decimal before digits after hbefore hdigits hsome hafter =>
      have hshown := fun c hc => (hdigits c hc).isBlank_eq_false
      rw [isZero_surrounded hbefore hshown hafter, digits_decimal hdigits,
        Numeral.value_eq_zero_iff hdigits]
  | @hexadecimal before digits after mark hbefore hmark hdigits hsome hafter =>
      have hshown : ∀ c ∈ '0' :: mark :: digits, isBlank c = false := by
        rw [List.forall_mem_cons, List.forall_mem_cons]
        refine ⟨by decide, ?_, fun c hc => (hdigits c hc).isBlank_eq_false⟩
        rcases hmark with rfl | rfl
        · decide
        · decide
      rw [isZero_surrounded hbefore hshown hafter, digits_hexadecimal hmark,
        Numeral.value_eq_zero_iff hdigits]

theorem denotes_ofNat (n : Nat) : (ofNat n).Denotes n := by
  have hdenotes := Denotes.decimal [] _ [] (List.forall_mem_nil _)
    (Numeral.isDigit_toDigits n) Nat.toDigits_ne_nil (List.forall_mem_nil _)
  rwa [List.nil_append, List.append_nil, Numeral.value_toDigits] at hdenotes

/-- A whole number of sixty-four bits is taken for the element that it writes. -/
theorem ofJson?_int (n : UInt64) :
    (Wire.ofJson? (.int n.toNat) : Option FieldElement) = some (ofNat n.toNat) := by
  have hdecode : (Wire.ofJson? (.int n.toNat) : Option FieldElement) =
      ((Json.int n.toNat).below? UInt64.size).map ofNat := rfl
  rw [hdecode, Json.below?_natCast n.toNat_lt_size, Option.map_some]

end FieldElement

/-! ## Proofs -/

/-- What the checks say of a proof whose root and leaf denote two numbers. The root is looked at
first and the leaf last. -/
structure MerkleProof.Judged (p : MerkleProof) (root leaf : Nat) : Prop where
  checkRoot : p.checkRoot = if root = 0 then .error .invalidRoot else .ok ()
  checkLeaf : p.checkLeaf = if leaf = 0 then .error .invalidLeaf else .ok ()
  rootRejected : p.validate = .error .invalidRoot ↔ root = 0
  leafRejected : p.validate = .error .invalidLeaf ↔
    root ≠ 0 ∧ p.siblings ≠ [] ∧ p.pathIndices ≠ [] ∧ leaf = 0
  accepted : p.validate = .ok () ↔
    root ≠ 0 ∧ p.siblings ≠ [] ∧ p.pathIndices ≠ [] ∧ leaf ≠ 0

theorem FieldElement.Denotes.check {e : FieldElement} {n : Nat} (h : e.Denotes n) (cause : Error) :
    WalletTrust.check (!e.isZero) cause = if n = 0 then .error cause else .ok () := by
  by_cases hzero : n = 0
  · rw [WalletTrust.check, h.isZero_iff.2 hzero, if_pos hzero]
    rfl
  · have hisZero : e.isZero = false := Bool.eq_false_iff.2 (mt h.isZero_iff.1 hzero)
    rw [WalletTrust.check, hisZero, if_neg hzero]
    rfl

theorem MerkleProof.judged {p : MerkleProof} {root leaf : Nat} (hroot : p.root.Denotes root)
    (hleaf : p.leaf.Denotes leaf) : p.Judged root leaf := by
  have hcheckRoot : p.checkRoot = if root = 0 then .error .invalidRoot else .ok () :=
    hroot.check .invalidRoot
  have hcheckLeaf : p.checkLeaf = if leaf = 0 then .error .invalidLeaf else .ok () :=
    hleaf.check .invalidLeaf
  -- With the first check and the last told from the numbers, the order of all four is left.
  have hvalidate : p.validate =
      if root = 0 then .error .invalidRoot
      else if p.siblings = [] then .error .invalidSiblings
      else if p.pathIndices = [] then .error .invalidPathIndices
      else if leaf = 0 then .error .invalidLeaf else .ok () := by
    rw [validate, hcheckRoot, hcheckLeaf, checkSiblings, checkPathIndices]
    by_cases hr : root = 0
    · rw [if_pos hr, if_pos hr]
      rfl
    rw [if_neg hr, if_neg hr]
    cases p.siblings with
    | nil => rfl
    | cons sibling siblings =>
        cases p.pathIndices with
        | nil => rfl
        | cons index indices => rfl
  refine ⟨hcheckRoot, hcheckLeaf, ?_, ?_, ?_⟩
  all_goals
    rw [hvalidate]
    by_cases hr : root = 0
    · simp [hr]
    by_cases hs : p.siblings = []
    · simp [hr, hs]
    by_cases hi : p.pathIndices = []
    · simp [hr, hs, hi]
    by_cases hl : leaf = 0
    · simp [hr, hs, hi, hl]
    · simp [hr, hs, hi, hl]

/-- Whether an element is zero is told from its digits, and it is told of the number that they
write: of every numeral, of every number that is sent as such, and of the root and the leaf of a
proof. -/
theorem FieldElement.zero_by_value :
    (∀ (e : FieldElement) (n : Nat), e.Denotes n → (e.isZero = true ↔ n = 0)) ∧
    (∀ n : UInt64, ∃ e : FieldElement, Wire.ofJson? (.int n.toNat) = some e ∧
      e.Denotes n.toNat ∧ (e.isZero = true ↔ n = 0)) ∧
    ∀ (p : MerkleProof) (root leaf : Nat), p.root.Denotes root → p.leaf.Denotes leaf →
      p.Judged root leaf := by
  refine ⟨fun e n h => h.isZero_iff, fun n => ?_, fun p root leaf => MerkleProof.judged⟩
  refine ⟨ofNat n.toNat, ofJson?_int n, denotes_ofNat n.toNat, ?_⟩
  rw [(denotes_ofNat n.toNat).isZero_iff, ← UInt64.toNat_inj]
  rfl

/-- A zero in hexadecimal between blanks, and seven with zeros in front. A proof with the two as its
root and its leaf is refused for its root. -/
theorem FieldElement.zero_by_value_spellings :
    Denotes ⟨"\u30000X00\n"⟩ 0 ∧ isZero ⟨"\u30000X00\n"⟩ = true ∧
    Denotes ⟨"007"⟩ 7 ∧ ¬ isZero ⟨"007"⟩ = true ∧
    MerkleProof.Judged {
      root := ⟨"\u30000X00\n"⟩, leaf := ⟨"007"⟩, siblings := [⟨"1"⟩], pathIndices := [0] } 0 7 := by
  -- A wide blank before and a line break after, and a mark in capitals.
  have hzero : Denotes ⟨"\u30000X00\n"⟩ 0 :=
    .hexadecimal ['\u3000'] ['0', '0'] ['\n'] (List.forall_mem_singleton.2 rfl) (.inr rfl)
      (List.forall_mem_cons.2 ⟨⟨0, by decide, rfl⟩, List.forall_mem_singleton.2
        ⟨0, by decide, rfl⟩⟩) (List.cons_ne_nil _ _) (List.forall_mem_singleton.2 rfl)
  have hseven : Denotes ⟨"007"⟩ 7 :=
    .decimal [] ['0', '0', '7'] [] (List.forall_mem_nil _)
      (List.forall_mem_cons.2 ⟨⟨0, by decide, rfl⟩, List.forall_mem_cons.2 ⟨⟨0, by decide, rfl⟩,
        List.forall_mem_singleton.2 ⟨7, by decide, rfl⟩⟩⟩) (List.cons_ne_nil _ _)
      (List.forall_mem_nil _)
  have hnonzero : ¬ isZero ⟨"007"⟩ = true := fun h =>
    absurd ((zero_by_value.1 _ 7 hseven).1 h) (by decide)
  exact ⟨hzero, (zero_by_value.1 _ 0 hzero).2 rfl, hseven, hnonzero,
    zero_by_value.2.2 _ 0 7 hzero hseven⟩

end WalletTrust

import WalletTrust.Proofs.Canonical
import WalletTrust.Proofs.Files

/-!
# Which Blobs Are Authentic

A blob is authentic if it starts with the code of what follows, and not otherwise.

`Files` shows that what was signed is authentic. Here it is shown that hardly anything else is. The
code of a text is read as bytes, and bytes have one spelling in lower case. So a blob that is
authentic differs from the signed text by the case of the digits in front at most.

Whoever cuts a blob counts bytes, and the code is sixty-four of them. It need not come to that: a
blob may be shorter, or a character may lie across the cut. Digits take one byte each, so what is in
front of the cut of such a blob is not sixty-four digits, and it is refused like any other.

All of it is about texts of any length and with any characters. The cut is made at a number of bytes
and the digits are characters, so what has to be shown in the middle is that sixty-four bytes of
digits are sixty-four characters, and that a character of more than one byte cannot stand among
them.

## Main definitions

* `Hex.IsDigit`: The hexadecimal digits of either case.
* `BackupBlob.Guarded`: Which blobs are authentic, and what becomes of the others.

## Theorems

* `Hex.decode?_eq_some_iff`: Which texts are read as given bytes.
* `BackupBlob.verify_eq_ok_iff`: Which blobs are authentic.
* `BackupBlob.blobs_guarded`: All others are refused alike, wherever they are cut.
* `Hex.encode_of_decode?`: A text that is read as bytes is their spelling, but for the case of its
  digits.
* `BackupBlob.sign_eq_iff`: A blob is signed if its digits are the code of the text.
* `BackupBlob.Bears.not_straddled`: The code ends where a character ends.
-/

namespace WalletTrust

/-! ## Digits of either case -/

namespace Hex

/-- A hexadecimal digit of either case. -/
def IsDigit (c : Char) : Prop :=
  ('0' ≤ c ∧ c ≤ '9') ∨ ('a' ≤ c ∧ c ≤ 'f') ∨ ('A' ≤ c ∧ c ≤ 'F')

instance : DecidablePred IsDigit := fun c =>
  inferInstanceAs (Decidable (('0' ≤ c ∧ c ≤ '9') ∨ ('a' ≤ c ∧ c ≤ 'f') ∨ ('A' ≤ c ∧ c ≤ 'F')))

variable {c : Char} {n : Nat} {cs : List Char} {b : Bytes}

theorem IsDigit.toNat_lt (h : IsDigit c) : c.toNat < 103 := by
  rcases h with ⟨-, hlast⟩ | ⟨-, hlast⟩ | ⟨-, hlast⟩ <;>
    exact Nat.lt_of_le_of_lt (UInt32.le_iff_toNat_le.1 hlast) (by decide)

theorem isDigit_of_value? (h : value? c = some n) : IsDigit c := by
  rw [value?] at h
  split at h
  · next hrange => exact .inl hrange
  · split at h
    · next hrange => exact .inr (.inl hrange)
    · split at h
      · next hrange => exact .inr (.inr hrange)
      · cases h

theorem value?_ascii : ∀ k < 103, IsDigit (Char.ofNat k) →
    ∃ n < 16, value? (Char.ofNat k) = some n ∧ digit n = (Char.ofNat k).toLower := by decide

/-- A digit is read as a number, and the number is written as the digit in lower case. -/
theorem value?_of_isDigit (h : IsDigit c) :
    ∃ n < 16, value? c = some n ∧ digit n = c.toLower := by
  have hascii := value?_ascii c.toNat h.toNat_lt
  rw [Char.ofNat_toNat] at hascii
  exact hascii h

theorem value?_toLower (h : IsDigit c) : value? c.toLower = value? c := by
  rcases value?_of_isDigit h with ⟨n, hn, hvalue, hdigit⟩
  rw [← hdigit, value?_digit n hn, hvalue]

theorem digit_of_value? (h : value? c = some n) : n < 16 ∧ digit n = c.toLower := by
  rcases value?_of_isDigit (isDigit_of_value? h) with ⟨k, hk, hvalue, hdigit⟩
  rcases Option.some.inj (h.symm.trans hvalue)
  exact ⟨hk, hdigit⟩

theorem decode?_toLower (h : ∀ c ∈ cs, IsDigit c) : decode? (cs.map Char.toLower) = decode? cs := by
  induction cs using decode?.induct with
  | case1 => rfl
  | case2 c => rfl
  | case3 hi lo rest ih =>
      rw [List.forall_mem_cons, List.forall_mem_cons] at h
      simp only [List.map_cons, decode?, value?_toLower h.1, value?_toLower h.2.1, ih h.2.2]

/-- A text that is read as bytes is their spelling, but for the case of its digits. -/
theorem encode_of_decode? (h : decode? cs = some b) :
    (∀ c ∈ cs, IsDigit c) ∧ cs.map Char.toLower = encode b := by
  -- Digits are read in pairs, and so is the induction.
  induction cs using decode?.induct generalizing b with
  | case1 =>
      rcases Option.some.inj h
      exact ⟨fun _ hc => absurd hc List.not_mem_nil, rfl⟩
  | case2 c => cases h
  | case3 hi lo rest ih =>
      simp only [decode?, Option.bind_eq_bind, Option.bind_eq_some_iff] at h
      rcases h with ⟨p, hhi, q, hlo, bytes, hrest, h⟩
      rcases Option.some.inj h
      rcases digit_of_value? hhi with ⟨hp, hhigh⟩
      rcases digit_of_value? hlo with ⟨hq, hlow⟩
      rcases ih hrest with ⟨hdigits, hbytes⟩
      refine ⟨?_, ?_⟩
      · rw [List.forall_mem_cons, List.forall_mem_cons]
        exact ⟨isDigit_of_value? hhi, isDigit_of_value? hlo, hdigits⟩
      · have hfirst : (16 * p + q) / 16 = p := by omega
        have hsecond : (16 * p + q) % 16 = q := by omega
        rw [List.map_cons, List.map_cons, encode, Base64.toNat_byte (by omega), hfirst, hsecond,
          hhigh, hlow, hbytes]

theorem decode?_eq_some_iff :
    decode? cs = some b ↔ (∀ c ∈ cs, IsDigit c) ∧ cs.map Char.toLower = encode b := by
  constructor
  · exact encode_of_decode?
  · rintro ⟨hdigits, hbytes⟩
    rw [← decode?_toLower hdigits, hbytes, decode?_encode]

/-- A digit takes one byte. -/
theorem utf8ByteSize_ofList (h : ∀ c ∈ cs, IsDigit c) :
    (String.ofList cs).utf8ByteSize = cs.length := by
  refine WalletTrust.utf8ByteSize_ofList fun c hc => ?_
  have hlow : c.toNat ≤ 127 := Nat.le_of_lt (Nat.lt_trans (h c hc).toNat_lt (by decide))
  exact Char.utf8Size_eq_one_iff.2 (UInt32.le_iff_toNat_le.2 hlow)

end Hex

/-! ## Blobs -/

namespace BackupBlob

variable {blob text secret : String}

/-- A blob that starts with the code of the rest, in digits of either case. -/
structure Bears (digits : List Char) (blob text secret : String) : Prop where
  length : digits.length = codeLength
  hexadecimal : ∀ c ∈ digits, Hex.IsDigit c
  parts : blob = String.ofList digits ++ text
  /-- In lower case the digits are those that signing puts in front. -/
  signed : String.ofList (digits.map Char.toLower) ++ text = sign text secret

/-- A blob of digits and a text is signed if the digits are the code of the text. -/
theorem sign_eq_iff {digits : List Char} :
    String.ofList digits ++ text = sign text secret ↔
      digits = Hex.encode (mac text.toList secret) := by
  rw [sign, String.ofList_append, String.ofList_toList, ← String.toList_inj, String.toList_append,
    String.toList_append, List.append_cancel_right_eq, String.toList_ofList, String.toList_ofList]

/-- What is authentic starts with its code, and what starts with its code is authentic. -/
theorem verify_eq_ok_iff :
    verify blob secret = .ok text ↔ ∃ digits, Bears digits blob text secret := by
  constructor
  · intro h
    simp only [verify] at h
    split at h
    · next code hdecode =>
      split at h
      · next hcode =>
        -- The digits are what is taken from the front.
        rcases Except.ok.inj h
        rcases Hex.decode?_eq_some_iff.1 hdecode with ⟨hdigits, hlower⟩
        refine ⟨blob.toList.take codeLength, ?_, hdigits, ?_, ?_⟩
        · have hlength := congrArg List.length hlower
          rw [List.length_map, hcode, length_code] at hlength
          exact hlength
        · rw [← String.ofList_append, List.take_append_drop, String.ofList_toList]
        · rw [sign_eq_iff, String.toList_ofList, hlower, hcode]
      · cases h
    · cases h
  · rintro ⟨digits, hlength, hdigits, rfl, hsigned⟩
    have hdecode : Hex.decode? digits = some (mac text.toList secret) :=
      Hex.decode?_eq_some_iff.2 ⟨hdigits, sign_eq_iff.1 hsigned⟩
    simp only [verify, String.toList_append, String.toList_ofList, List.take_left' hlength,
      List.drop_left' hlength, hdecode, if_true, String.ofList_toList]

/-- There is one way to refuse a blob. -/
theorem verify_cases (blob secret : String) :
    (∃ text, verify blob secret = .ok text) ∨ verify blob secret = .error .notAuthentic := by
  simp only [verify]
  split
  · split
    · exact .inl ⟨_, rfl⟩
    · exact .inr rfl
  · exact .inr rfl

theorem verify_of_not_bears (h : ∀ digits text, ¬ Bears digits blob text secret) :
    verify blob secret = .error .notAuthentic := by
  rcases verify_cases blob secret with ⟨text, hok⟩ | hrefused
  · rcases verify_eq_ok_iff.1 hok with ⟨digits, hbears⟩
    exact absurd hbears (h digits text)
  · exact hrefused

namespace Bears

variable {digits : List Char}

/-- The code takes as many bytes as it has digits. -/
theorem utf8ByteSize (h : Bears digits blob text secret) :
    (String.ofList digits).utf8ByteSize = codeLength := by
  rw [Hex.utf8ByteSize_ofList h.hexadecimal, h.length]

theorem not_short (h : Bears digits blob text secret) : codeLength ≤ blob.utf8ByteSize := by
  rw [h.parts, String.utf8ByteSize_append, h.utf8ByteSize]
  exact Nat.le_add_right _ _

/-- The code ends where a character ends. -/
theorem not_straddled {before after : String} {c : Char}
    (h : Bears digits (before ++ String.singleton c ++ after) text secret)
    (hbefore : before.utf8ByteSize < codeLength) :
    before.utf8ByteSize + c.utf8Size ≤ codeLength := by
  have hparts := congrArg String.toList h.parts
  rw [String.toList_append, String.toList_append, String.toList_append, String.toList_singleton,
    String.toList_ofList, List.append_assoc] at hparts
  have hsize := h.utf8ByteSize
  -- Either the digits go on past `before`, or it has all of them, and is too short for that.
  rcases List.append_eq_append_iff.1 hparts with ⟨rest, hdigits, hrest⟩ | ⟨rest, hdigits, -⟩
  · cases rest with
    | nil =>
        rw [hdigits, List.append_nil, String.ofList_toList] at hsize
        exact absurd hsize (Nat.ne_of_lt hbefore)
    | cons d rest =>
        rw [List.singleton_append, List.cons_append, List.cons.injEq] at hrest
        rw [hdigits, ← hrest.1, String.ofList_append, String.ofList_cons, String.ofList_toList,
          String.utf8ByteSize_append, String.utf8ByteSize_append,
          String.utf8ByteSize_singleton] at hsize
        omega
  · have hlong : before = String.ofList digits ++ String.ofList rest := by
      rw [← String.ofList_append, ← hdigits, String.ofList_toList]
    rw [hlong, String.utf8ByteSize_append, hsize] at hbefore
    omega

end Bears

/-- Which blobs are authentic under a secret, and what becomes of the others. -/
structure Guarded (secret : String) : Prop where
  /-- What was signed is authentic. -/
  signed : ∀ text, verify (sign text secret) secret = .ok text
  /-- What is authentic was signed, up to the case of the digits. -/
  authentic : ∀ blob text, verify blob secret = .ok text ↔ ∃ digits, Bears digits blob text secret
  /-- Everything else is refused in the same way. -/
  refused : ∀ blob, (∀ digits text, ¬ Bears digits blob text secret) →
    verify blob secret = .error .notAuthentic
  /-- Among it are the blobs of fewer bytes than a code has, -/
  short : ∀ blob : String, blob.utf8ByteSize < codeLength →
    verify blob secret = .error .notAuthentic
  /-- and those in which a character lies across the end of the code. -/
  straddled : ∀ (before after : String) (c : Char), before.utf8ByteSize < codeLength →
    codeLength < before.utf8ByteSize + c.utf8Size →
    verify (before ++ String.singleton c ++ after) secret = .error .notAuthentic

/-- A blob is authentic if it starts with the code of the rest, and refused if not. -/
theorem blobs_guarded (secret : String) : Guarded secret where
  signed text := verify_sign text secret
  authentic _ _ := verify_eq_ok_iff
  refused _ h := verify_of_not_bears h
  short _ h := verify_of_not_bears fun _ _ hbears => absurd hbears.not_short (Nat.not_le_of_lt h)
  straddled _ _ _ hbefore hacross := verify_of_not_bears fun _ _ hbears =>
    absurd (hbears.not_straddled hbefore) (Nat.not_le_of_lt hacross)

end BackupBlob

end WalletTrust

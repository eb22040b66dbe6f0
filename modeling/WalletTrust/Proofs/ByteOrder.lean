import Mathlib.Data.String.Basic
import WalletTrust.Text.Utf8

/-!
# The Order of Texts is the Order of Their Bytes

Texts are compared by their characters, and their bytes are in the same order.

A smaller character has the smaller bytes, also if it has fewer of them: the first byte grows with
the length of the encoding, and among encodings of one length the bytes are the digits of the
character's number. The first byte in which two encodings differ decides, so what follows them does
not matter.

## Theorems

* `Utf8.char_lt`: A smaller character has the smaller bytes, whatever follows.
* `Utf8.encode_lt_iff`: A text is smaller exactly if its bytes are.
-/

namespace WalletTrust

namespace Utf8

theorem encode_eq_flatMap (s : String) : encode s = s.toList.flatMap String.utf8EncodeChar := by
  rw [encode, ← String.utf8Encode_toList, List.utf8Encode, List.data_toByteArray,
    List.toList_toArray]

theorem char_lt {c d : Char} (h : c < d) (after after' : Bytes) :
    String.utf8EncodeChar c ++ after < String.utf8EncodeChar d ++ after' := by
  have hlt : c.val.toNat < d.val.toNat := h
  have hvalid : d.val.toNat < 1114112 := by
    have := d.valid
    rw [UInt32.isValidChar, Nat.isValidChar] at this
    omega
  -- One to four bytes on either side. The longer encoding has the larger first byte.
  simp only [String.utf8EncodeChar]
  generalize c.val.toNat = m at *
  generalize d.val.toNat = n at *
  split_ifs
  all_goals
    simp only [List.cons_append, List.cons_lt_cons_iff, UInt8.lt_iff_toNat_lt, ← UInt8.toNat_inj,
      UInt8.toNat_ofNat']
    simp (disch := omega) only [Nat.mod_eq_of_lt]
    omega

/-- No character has no bytes. -/
theorem char_ne_nil (c : Char) : String.utf8EncodeChar c ≠ [] := by
  simp only [String.utf8EncodeChar]
  split_ifs
  all_goals exact List.cons_ne_nil _ _

theorem flatMap_lt {cs ds : List Char} (h : cs < ds) :
    cs.flatMap String.utf8EncodeChar < ds.flatMap String.utf8EncodeChar := by
  induction h with
  | nil =>
      rw [List.flatMap_cons]
      rcases List.exists_cons_of_ne_nil (char_ne_nil _) with ⟨byte, bytes, hbytes⟩
      rw [hbytes]
      exact List.nil_lt_cons _ _
  | rel h =>
      rw [List.flatMap_cons, List.flatMap_cons]
      exact char_lt h _ _
  | cons _ ih =>
      rw [List.flatMap_cons, List.flatMap_cons]
      exact List.append_left_lt ih

/-- A text is smaller exactly if its bytes are. -/
theorem encode_lt_iff {s t : String} : encode s < encode t ↔ s < t := by
  have hencode : ∀ {s t : String}, s < t → encode s < encode t := fun h => by
    rw [encode_eq_flatMap, encode_eq_flatMap]
    exact flatMap_lt (String.lt_iff.1 h)
  refine ⟨fun h => ?_, hencode⟩
  rcases lt_trichotomy s t with hlt | rfl | hgt
  · exact hlt
  · exact absurd h (List.lt_irrefl _)
  · exact absurd h (List.lt_asymm (hencode hgt))

end Utf8

end WalletTrust

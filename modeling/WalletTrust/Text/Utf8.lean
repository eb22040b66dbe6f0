/-!
# Bytes of a Text

Texts are encrypted, authenticated and measured as bytes.

A `String` carries its bytes and the proof that they are well formed, so both directions are short:
`encode` takes the bytes out, and `decode?` accepts a byte sequence exactly when it is the encoding
of a text.

## Main definitions

* `Utf8.encode`, `Utf8.decode?`: The bytes of a text, and the text of a byte sequence.

## Theorems

* `Utf8.decode?_encode`: A text is read back from its bytes.
* `Utf8.decode?_eq_some_iff`: Only the bytes of a text are read, and as that text.
-/

namespace WalletTrust

/-- A sequence of bytes. -/
abbrev Bytes := List UInt8

namespace Utf8

def encode (s : String) : Bytes :=
  s.toByteArray.data.toList

/-- The text with these bytes, if they are well formed. -/
def decode? (b : Bytes) : Option String :=
  String.fromUTF8? ⟨b.toArray⟩

theorem decode?_encode (s : String) : decode? (encode s) = some s := by
  have h : (⟨(encode s).toArray⟩ : ByteArray) = s.toByteArray := by simp [encode]
  rw [decode?, h, String.fromUTF8?, dif_pos s.isValidUTF8]
  rfl

theorem decode?_eq_some_iff {b : Bytes} {s : String} : decode? b = some s ↔ b = encode s := by
  constructor
  · intro h
    rw [decode?, String.fromUTF8?] at h
    split at h
    · injection h with h
      subst h
      simp [encode, String.fromUTF8]
    · contradiction
  · rintro rfl
    exact decode?_encode s

end Utf8

end WalletTrust

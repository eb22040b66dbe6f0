import WalletTrust.Op
import WalletTrust.Cipher.Gcm
import WalletTrust.Cipher.Keying
import WalletTrust.Text.Base64
import WalletTrust.Text.Blank

/-!
# Sealed Texts

A text encrypted under a secret, as one self-contained text.

The bytes of a sealed text are a salt, a nonce, the encrypted text and its tag, in that order, and
they are written in base 64. Salt and nonce are part of it, so a sealed text can be moved between
slots and backups without anything beside it. The key is derived from the secret and the salt under
a label that depends on the purpose, so what was sealed for one purpose does not open for the
other.

Salt and nonce come from a supply of random bytes that the caller holds.

## Main definitions

* `Purpose`: What a text is sealed for.
* `Entropy`: A supply of random bytes.
* `SealedText.sealWith`: The sealed text for a given salt and nonce.
* `SealedText.open`: The text inside, or why there is none.
-/

namespace WalletTrust

/-- What a text is sealed for. -/
inductive Purpose where
  /-- The password verifier, the approvals and other settings. -/
  | settings
  | identity
deriving DecidableEq, Repr, Inhabited

/-- The label under which keys of a purpose are derived. -/
def Purpose.label : Purpose → Bytes
  | .settings => Utf8.encode "keeper-settings-encryption-v1"
  | .identity => Utf8.encode "keeper-identity-encryption-v1"

/-- A supply of random bytes, of which the first `position` are used up. -/
structure Entropy where
  source : Nat → UInt8
  position : Nat := 0

instance : Inhabited Entropy := ⟨{ source := fun _ => 0 }⟩

/-- The next `n` bytes of the supply. -/
def Entropy.draw (n : Nat) (e : Entropy) : Bytes × Entropy :=
  ((List.range n).map fun i => e.source (e.position + i), { e with position := e.position + n })

namespace SealedText

def saltSize : Nat := 16

def nonceSize : Nat := 12

/-- The bytes of a sealed text. -/
def sealBytes (salt nonce : Bytes) (plain secret : String) (purpose : Purpose) : Bytes :=
  let key := Keying.deriveKey (Utf8.encode secret) salt purpose.label
  salt ++ nonce ++ Gcm.encrypt key nonce (Utf8.encode plain)

/-- The sealed text for a given salt and nonce. -/
def sealWith (salt nonce : Bytes) (plain secret : String) (purpose : Purpose) : String :=
  String.ofList (Base64.encode (sealBytes salt nonce plain secret purpose))

/-- Seal a text under a fresh salt and nonce. -/
def sealFresh (plain secret : String) (purpose : Purpose) (e : Entropy) : String × Entropy :=
  let (salt, e) := e.draw saltSize
  let (nonce, e) := e.draw nonceSize
  (sealWith salt nonce plain secret purpose, e)

/-- The text inside a sequence of bytes, or why there is none. -/
def openBytes (data : Bytes) (secret : String) (purpose : Purpose) : Except Error String :=
  if data.length < saltSize + nonceSize then .error (.decryptionFailed "Ciphertext too short")
  else
    let salt := data.take saltSize
    let nonce := (data.drop saltSize).take nonceSize
    let key := Keying.deriveKey (Utf8.encode secret) salt purpose.label
    match Gcm.decrypt? key nonce (data.drop (saltSize + nonceSize)) with
    | none => .error (.decryptionFailed "authentication tag mismatch")
    | some plain =>
      match Utf8.decode? plain with
      | none => .error (.decryptionFailed "Plaintext is not valid UTF-8")
      | some text => .ok text

/-- The text inside a sealed text, or why there is none. Blanks around the sealed text do not
matter. -/
def «open» (sealed secret : String) (purpose : Purpose) : Except Error String :=
  match Base64.decode? (trim sealed).toList with
  | none => .error (.decryptionFailed "Invalid encoding: not base 64")
  | some data => openBytes data secret purpose

end SealedText

end WalletTrust

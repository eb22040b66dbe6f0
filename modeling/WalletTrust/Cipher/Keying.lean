import WalletTrust.Cipher.Sha256

/-!
# Keyed Hashing and Key Derivation

HMAC and HKDF over SHA-256.

HMAC authenticates backup blobs. HKDF turns a secret and a salt into an encryption key: it first
condenses the secret under the salt and then stretches the result under a label. Keys have the
length of one hash, so the stretching is a single step.

## Main definitions

* `Keying.mac`: The authentication code of a message under a key.
* `Keying.deriveKey`: The key of a secret, a salt and a label.

## Theorems

* `Keying.length_mac`: An authentication code has thirty-two bytes.
-/

namespace WalletTrust

namespace Keying

/-- A key as one block of the hash: hashed if it is longer, and filled up with zeros. -/
def blockKey (key : Bytes) : Bytes :=
  let short := if key.length > 64 then Sha256.hash key else key
  short ++ List.replicate (64 - short.length) 0

/-- The authentication code of a message under a key. -/
def mac (key message : Bytes) : Bytes :=
  let inner := (blockKey key).map (· ^^^ 0x36)
  let outer := (blockKey key).map (· ^^^ 0x5c)
  Sha256.hash (outer ++ Sha256.hash (inner ++ message))

theorem length_mac (key message : Bytes) : (mac key message).length = 32 :=
  Sha256.length_hash _

/-- The key of a secret, a salt and a label. -/
def deriveKey (secret salt label : Bytes) : Bytes :=
  mac (mac salt secret) (label ++ [1])

end Keying

end WalletTrust

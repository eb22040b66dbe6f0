import WalletTrust.Error
import WalletTrust.Cipher.Keying
import WalletTrust.Text.Hex

/-!
# Backup Blobs

A text with its authentication code in front.

The code is the keyed hash of the text, written as sixty-four hexadecimal digits. It is checked
before anything is decrypted, so a wrong password and a changed file are both refused up front. The
key is the hash of the secret and never the secret itself.

## Main definitions

* `BackupBlob.mac`: The authentication code of a text.
* `BackupBlob.sign`: A text with its code in front.
* `BackupBlob.verify`: The text of a blob whose code is right.
-/

namespace WalletTrust

namespace BackupBlob

/-- The authentication code of a text. -/
def mac (text : List Char) (secret : String) : Bytes :=
  Keying.mac (Sha256.hash (Utf8.encode secret)) (Utf8.encode (String.ofList text))

/-- The number of digits in front of the text. -/
def codeLength : Nat := 64

/-- A text with its authentication code in front. -/
def sign (text secret : String) : String :=
  String.ofList (Hex.encode (mac text.toList secret) ++ text.toList)

/-- The text of a blob whose authentication code is right. Digits of either case are taken; whatever
does not start with sixty-four digits is not authentic. -/
def verify (blob secret : String) : Except Error String :=
  let text := blob.toList.drop codeLength
  match Hex.decode? (blob.toList.take codeLength) with
  | some code => if code = mac text secret then .ok (String.ofList text) else .error .notAuthentic
  | none => .error .notAuthentic

end BackupBlob

end WalletTrust

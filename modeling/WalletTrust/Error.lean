/-!
# Errors

Every way in which an operation of the wallet can fail, as a cause.

A page or a confirmation surface never sees a cause itself. It sees a number, a sentence and a
coarse kind, and decides from the kind how to present the failure: a failed authentication prompts
the user again, a rejection is final, and so on. The numbers are banded by kind, a hundred to each,
so the kind is read off the number and cannot disagree with it.

## Main definitions

* `Error`: The causes.
* `Error.code`: The number of a cause.
* `Error.message`: The sentence shown for a cause.
* `Error.kind`: The kind of a cause, by the band of its number.
* `Error.requiresUserAction`: Whether the user is asked again instead of the page being told.
* `ErrorPayload`: What is handed to a page or a surface.
-/

namespace WalletTrust

/-- How a failure is to be presented. -/
inductive ErrorKind where
  | validation
  | authentication
  | state
  | userRejection
  | platform
  | transport
  | storage
  | crypto
  | internal
deriving DecidableEq, Repr, Inhabited

/-- The cause of a failure. -/
inductive Error where
  -- The membership data of a proof request.
  | invalidMerkleInputs
  | invalidDepth
  | invalidLeaves
  | invalidLeavesPerNode
  | invalidRoot
  | invalidSiblings
  | invalidPathIndices
  | invalidLeaf
  -- Passwords and backup blobs.
  | incorrectPassword
  | notAuthentic
  | incorrectBackupFormat (component : String)
  -- The state of the session or of an origin.
  | notProvided
  | alreadyInitialized
  | reinstallRequired
  | originMissing
  | identityMissing
  | notConnected
  | notApproved
  -- The user's answer.
  | userRejected
  | unsupportedAction (status : String)
  -- The platform.
  | artifactsMissing (kind : String)
  | surfaceUnavailable (reason : String)
  -- Isolated contexts and provers.
  | transport (reason : String)
  | prover (reason : String)
  -- Persisted slots.
  | storageRead (reason : String)
  | storageWrite (reason : String)
  | corruptedBackup
  -- Sealing and opening texts.
  | encryptionFailed (reason : String)
  | decryptionFailed (reason : String)
  | keyDerivationFailed (reason : String)
  -- Failures wrapped for the page, and the rest.
  | connectRequestFailed (reason : String)
  | proofFailed (kind : String) (reason : String)
  | serialization (reason : String)
  | internal (reason : String)
deriving DecidableEq, Repr, Inhabited

namespace Error

/-- The number of a cause; the hundreds digit tells the kind. -/
def code : Error → Nat
  | .invalidMerkleInputs => 100
  | .invalidDepth => 101
  | .invalidLeaves => 102
  | .invalidLeavesPerNode => 103
  | .invalidRoot => 104
  | .invalidSiblings => 105
  | .invalidPathIndices => 106
  | .invalidLeaf => 107
  | .incorrectPassword => 200
  | .notAuthentic => 201
  | .incorrectBackupFormat _ => 202
  | .notProvided => 300
  | .alreadyInitialized => 301
  | .reinstallRequired => 302
  | .originMissing => 303
  | .identityMissing => 304
  | .notConnected => 305
  | .notApproved => 306
  | .userRejected => 400
  | .unsupportedAction _ => 401
  | .artifactsMissing _ => 500
  | .surfaceUnavailable _ => 501
  | .transport _ => 600
  | .prover _ => 601
  | .storageRead _ => 700
  | .storageWrite _ => 701
  | .corruptedBackup => 702
  | .encryptionFailed _ => 800
  | .decryptionFailed _ => 801
  | .keyDerivationFailed _ => 802
  | .connectRequestFailed _ => 900
  | .proofFailed _ _ => 901
  | .serialization _ => 902
  | .internal _ => 903

/-- The sentence shown for a cause. -/
def message : Error → String
  | .invalidMerkleInputs => "invalid merkle proof inputs"
  | .invalidDepth => "invalid merkle tree depth"
  | .invalidLeaves => "invalid merkle tree leaves"
  | .invalidLeavesPerNode => "invalid merkle tree leaves per node"
  | .invalidRoot => "invalid merkle proof root"
  | .invalidSiblings => "invalid merkle proof siblings"
  | .invalidPathIndices => "invalid merkle proof path indices"
  | .invalidLeaf => "invalid merkle proof leaf"
  | .incorrectPassword => "Incorrect password"
  | .notAuthentic => "This backup file is not authentic"
  | .incorrectBackupFormat component => "Incorrect backup format for " ++ component
  | .notProvided => "Password is not provided"
  | .alreadyInitialized => "Password is already set"
  | .reinstallRequired => "Something badly gone wrong (reinstallation probably required)"
  | .originMissing => "Origin is not provided"
  | .identityMissing => "Identity is not found"
  | .notConnected => "Origin is not connected"
  | .notApproved => "Origin is not approved"
  | .userRejected => "user rejected."
  | .unsupportedAction status => "action: " ++ status ++ " not supported"
  | .artifactsMissing kind => "Proof artifacts are not available for " ++ kind
  | .surfaceUnavailable reason => "Failed to open confirmation surface: " ++ reason
  | .transport reason => "Transport error: " ++ reason
  | .prover reason => "Prover error: " ++ reason
  | .storageRead reason => "Failed to read from storage: " ++ reason
  | .storageWrite reason => "Failed to write to storage: " ++ reason
  | .corruptedBackup => "File content is corrupted"
  | .encryptionFailed reason => "Encryption failed: " ++ reason
  | .decryptionFailed reason => "Decryption failed: " ++ reason
  | .keyDerivationFailed reason => "Failed to derive keys: " ++ reason
  | .connectRequestFailed reason => "error in the connect request, " ++ reason
  | .proofFailed kind reason => "Error in generating " ++ kind ++ " proof " ++ reason
  | .serialization reason => "Serialization error: " ++ reason
  | .internal reason => "Internal error: " ++ reason

end Error

/-- The kind whose band holds a number. Whatever lies outside the bands is internal. -/
def ErrorKind.ofCode (code : Nat) : ErrorKind :=
  match code / 100 with
  | 1 => .validation
  | 2 => .authentication
  | 3 => .state
  | 4 => .userRejection
  | 5 => .platform
  | 6 => .transport
  | 7 => .storage
  | 8 => .crypto
  | _ => .internal

namespace Error

def kind (e : Error) : ErrorKind :=
  ErrorKind.ofCode e.code

/-- A failed authentication prompts the user again; no other failure does. -/
def requiresUserAction (e : Error) : Bool :=
  e.kind = .authentication

end Error

/-- What a page or a surface is told about a failure. -/
structure ErrorPayload where
  code : Int32
  message : String
  kind : ErrorKind
deriving DecidableEq, Repr, Inhabited

def Error.payload (e : Error) : ErrorPayload :=
  { code := Int32.ofNat e.code, message := e.message, kind := e.kind }

end WalletTrust

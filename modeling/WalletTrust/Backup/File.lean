import WalletTrust.Json.Printer
import WalletTrust.Json.Reader
import WalletTrust.Json.Wire
import WalletTrust.Text.Percent

/-!
# Backup Files

The backups of all components in one file.

A file is a JSON object with one member for each component: its signed backup, or null if it holds
nothing. It is downloaded as a data URI and may be uploaded as one, or as the bare JSON text.

## Main definitions

* `BackupFile`: The entries of a file, by component.
* `BackupFile.text`, `BackupFile.ofText?`: The JSON text of a file, and the file of a text.
* `BackupFile.dataUri`, `BackupFile.decodeContent`: The data URI of a text, and the text of a data
  URI or of a bare text.
-/

namespace WalletTrust

/-- The backups of a file, by component. -/
abbrev BackupFile := List (String × Option String)

/-- A request to restore a file. -/
structure UploadBackup where
  content : String
  password : String
  /-- The password that the backup was made with. -/
  backupPassword : String
deriving DecidableEq, Repr, Inhabited

instance : Wire UploadBackup where
  toJson u :=
    .obj [("content", toJson u.content), ("password", toJson u.password),
      ("backupPassword", toJson u.backupPassword)]
  ofJson? j := do
    let r ← j.record? ["content", "password", "backupPassword"] 0
    return {
      content := ← r.required "content"
      password := ← r.required "password"
      backupPassword := ← r.required "backupPassword" }

namespace BackupFile

/-- The start of a downloaded file. -/
def uriStart : String := "data:application/json;charset=utf-8,"

def text (file : BackupFile) : String :=
  (Json.obj (file.map fun e => (e.1, toJson e.2))).text

/-- The entries of the members of an object; of several of one name the last counts. -/
def ofMembers? (settled : BackupFile) : List (String × Json) → Option BackupFile
  | [] => some settled
  | (name, j) :: rest =>
    match Wire.ofJson? j with
    | some value => ofMembers? (Assoc.insert name value settled) rest
    | none => none

/-- The file that a JSON text writes. -/
def ofText? (s : String) : Option BackupFile :=
  match Json.read? s with
  | some (.obj members) => ofMembers? [] members
  | _ => none

def dataUri (text : String) : String :=
  uriStart ++ Percent.encode text

/-- What follows the first comma. -/
def afterComma (cs : List Char) : Option (List Char) :=
  match cs.dropWhile (· ≠ ',') with
  | _ :: rest => some rest
  | [] => none

/-- The text that was uploaded: the data of a data URI, decoded, or the content itself. -/
def decodeContent (content : String) : Except Error String :=
  match content.toList with
  | 'd' :: 'a' :: 't' :: 'a' :: ':' :: rest =>
    match (afterComma rest).bind fun data => Percent.decode? (String.ofList data) with
    | some text => .ok text
    | none => .error .corruptedBackup
  | _ => .ok content

end BackupFile

end WalletTrust

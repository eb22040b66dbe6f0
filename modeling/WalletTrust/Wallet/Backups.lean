import WalletTrust.Backup.File
import WalletTrust.Wallet.Registries

/-!
# Saving and Restoring a Wallet

One file for the backups of all components.

Both directions need the password of the installation. A download takes the backup of every
registered component, sealed under that same password. An upload refuses a file that lacks a
component before anything is touched, and then restores the components in the order of their
registration. It stops at the first that fails; those before it stay restored.

## Main definitions

* `Wallet.registerComponent`, `Wallet.removeComponent`: The components of a backup.
* `Wallet.downloadComponent`, `Wallet.uploadComponent`: One component.
* `Wallet.downloadBackup`, `Wallet.uploadBackup`: The file.
-/

namespace WalletTrust

namespace BackupComponent

def key : BackupComponent → String
  | .approvals => approvalsLabel.component
  | .connections => connectionsLabel.component
  | .foreign key _ _ => key

end BackupComponent

namespace Wallet

/-- Register a component, in place of any with the same key. -/
def registerComponent (c : BackupComponent) (w : Wallet) : Wallet :=
  { w with
    core := { w.core with components := (w.core.components.filter fun k => k.key ≠ c.key) ++ [c] } }

/-- Remove the component with a key. The answer tells whether there was one. -/
def removeComponent (key : String) : Op Wallet Bool := fun w =>
  let rest := w.core.components.filter fun c => c.key ≠ key
  (.ok (rest.length ≠ w.core.components.length),
    { w with core := { w.core with components := rest } })

/-- The backup of a component, if it holds anything. -/
def downloadComponent (c : BackupComponent) (password : String) : Op Wallet (Option String) := do
  match c with
  | .approvals => onApprovals (Shelf.downloadBackup approvalsLabel (← secret) password)
  | .connections => onConnections (Shelf.downloadBackup connectionsLabel (← secret) password)
  | .foreign key data refuses =>
    onDesktop (Op.modify (Desktop.record (.componentDownload key password)))
    if refuses then Op.fail (.internal (key ++ " refused")) else return data

def uploadComponent (c : BackupComponent) (blob password : String) : Op Wallet Unit := do
  match c with
  | .approvals => onApprovals (Shelf.uploadBackup approvalsLabel (← secret) blob password)
  | .connections => onConnections (Shelf.uploadBackup connectionsLabel (← secret) blob password)
  | .foreign key _ refuses =>
    onDesktop (Op.modify (Desktop.record (.componentUpload key blob password)))
    if refuses then Op.fail (.incorrectBackupFormat key) else pure ()

/-- The backups of some components, put into a file one after the other. -/
def collect (password : String) : List BackupComponent → BackupFile → Op Wallet BackupFile
  | [], file => return file
  | c :: rest, file => do
    let data ← downloadComponent c password
    collect password rest (Assoc.insert c.key data file)

/-- The backup file of the wallet, as a data URI. -/
def downloadBackup (password : String) : Op Wallet String := do
  let _ ← onLock (SessionLock.isAuthentic password)
  let file ← collect password (← Op.get).core.components []
  return BackupFile.dataUri (BackupFile.text file)

/-- Restore some components from a file, one after the other. One without data stays as it is. -/
def restore (file : BackupFile) (password : String) : List BackupComponent → Op Wallet Unit
  | [] => pure ()
  | c :: rest => do
    match Assoc.lookup c.key file with
    | some (some data) => uploadComponent c data password
    | _ => pure ()
    restore file password rest

def uploadBackup (upload : UploadBackup) : Op Wallet Unit := do
  let _ ← onLock (SessionLock.isAuthentic upload.password)
  let json ← Op.ofExcept (BackupFile.decodeContent upload.content)
  let file ← Op.ofOption .corruptedBackup (BackupFile.ofText? json)
  let components := (← Op.get).core.components
  -- A file that lacks a component is refused before anything is restored.
  if components.all fun c => (Assoc.lookup c.key file).isSome then
    restore file upload.backupPassword components
  else Op.fail .corruptedBackup

end Wallet

end WalletTrust

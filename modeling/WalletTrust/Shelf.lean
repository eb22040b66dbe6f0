import WalletTrust.Backup.Blob
import WalletTrust.Host.Slot
import WalletTrust.OriginMap
import WalletTrust.SealedText

/-!
# Shelves

An origin map that is kept sealed in a slot.

While the session is locked only the sealed text exists. Loading opens it with the secret of the
session and puts the map beside the slot; unloading forgets the map. A mutation seals the whole new
map and writes it, and the map beside the slot changes only once the write has succeeded, so a
failed write leaves both as they were. A mutation that would change nothing writes nothing.

A backup is the same map sealed under a backup password and signed. Restoring one puts its entries
over those of the map.

The secret is an argument: a shelf has no access to the session, only to what the session lends it.

## Main definitions

* `ShelfLabel`: What distinguishes one shelf from another.
* `Shelf`: A slot and the map beside it.
* `Shelf.load`, `Shelf.unload`: Opening the sealed map, and forgetting it.
* `Shelf.upsert`, `Shelf.remove`, `Shelf.clear`: The mutations.
* `Shelf.downloadBackup`, `Shelf.uploadBackup`: Saving the map to a backup, and restoring one.
-/

namespace WalletTrust

/-- The name of a shelf in failures and backups, and the purpose its texts are sealed for. -/
structure ShelfLabel where
  component : String
  purpose : Purpose
deriving DecidableEq, Repr, Inhabited

/-- A slot, the map beside it if it is loaded, and the randomness that sealing draws on. -/
structure Shelf (α : Type) where
  entries : Option (OriginMap α) := none
  slot : Slot := {}
  entropy : Entropy := default
deriving Inhabited

namespace Shelf

variable {α : Type}

def onSlot {β : Type} (x : Op Slot β) : Op (Shelf α) β :=
  x.zoom Shelf.slot fun s shelf => { shelf with slot := s }

def isLoaded (shelf : Shelf α) : Bool :=
  shelf.entries.isSome

def unload (shelf : Shelf α) : Shelf α :=
  { shelf with entries := none }

/-- The value of an origin; none while the map is not loaded. -/
def get? (shelf : Shelf α) (origin : String) : Option α :=
  shelf.entries.bind (·.get? origin)

/-- The entry with the least origin among those whose value passes a test. -/
def find? (shelf : Shelf α) (test : α → Bool) : Option (String × α) :=
  shelf.entries.bind (·.find? test)

/-- All entries by origin; none while the map is not loaded. -/
def list (shelf : Shelf α) : List (String × α) :=
  (shelf.entries.map OriginMap.entries).getD []

/-- The secret, if the session lends one. -/
def borrow (secret : Option String) : Op (Shelf α) String :=
  Op.ofOption .notProvided secret

/-- Seal a text under a fresh salt and nonce. -/
def sealWith (secret plain : String) (purpose : Purpose) : Op (Shelf α) String :=
  Op.draw fun shelf =>
    let (text, entropy) := SealedText.sealFresh plain secret purpose shelf.entropy
    (text, { shelf with entropy })

variable [Wire α]

/-- The map that the opened text of a slot writes. -/
def parse (label : ShelfLabel) (plain : String) : Except Error (OriginMap α) :=
  match OriginMap.ofText? plain with
  | some m => .ok m
  | none =>
    .error (.storageRead
      (label.component ++ ": " ++ (Error.serialization "not a list of origins").message))

/-- Open the sealed map and put it beside the slot, unless it is there already. -/
def load (label : ShelfLabel) (secret : Option String) : Op (Shelf α) Unit := do
  if (← Op.get).isLoaded then pure ()
  else
    let secret ← borrow secret
    -- An empty slot is an empty map, and there is nothing to open.
    match ← onSlot Slot.read with
    | none => Op.modify fun shelf => { shelf with entries := some .empty }
    | some sealed =>
      let plain ← Op.ofExcept (SealedText.open sealed secret label.purpose)
      let m ← Op.ofExcept (parse label plain)
      Op.modify fun shelf => { shelf with entries := some m }

/-- The map beside the slot. -/
def held : Op (Shelf α) (OriginMap α) := do
  Op.ofOption .notProvided (← Op.get).entries

/-- Seal a map and write it, and only then put it beside the slot. -/
def commit (label : ShelfLabel) (secret : Option String) (next : OriginMap α) :
    Op (Shelf α) Unit := do
  let secret ← borrow secret
  let sealed ← sealWith secret next.text label.purpose
  onSlot (Slot.write sealed)
  Op.modify fun shelf => { shelf with entries := some next }

/-- Set the value of an origin. The answer tells whether that changed anything. -/
def upsert [DecidableEq α] (label : ShelfLabel) (secret : Option String) (origin : String)
    (value : α) : Op (Shelf α) Bool := do
  load label secret
  let m ← held
  if m.get? origin = some value then return false
  else
    commit label secret (m.insert origin value)
    return true

/-- Remove an origin. The answer is the value it had. -/
def remove (label : ShelfLabel) (secret : Option String) (origin : String) :
    Op (Shelf α) (Option α) := do
  load label secret
  let m ← held
  match m.get? origin with
  | none => return none
  | some value =>
    commit label secret (m.erase origin)
    return some value

/-- Empty the slot and, if it is loaded, the map. -/
def clear (secret : Option String) : Op (Shelf α) Unit := do
  let _ ← borrow secret
  onSlot Slot.clear
  Op.modify fun shelf => { shelf with entries := shelf.entries.map fun _ => .empty }

/-- A signed backup of what the slot holds, if it holds anything. -/
def downloadBackup (label : ShelfLabel) (secret : Option String) (password : String) :
    Op (Shelf α) (Option String) := do
  match ← onSlot Slot.read with
  | none => return none
  | some sealed =>
    let secret ← borrow secret
    let plain ← Op.ofExcept (SealedText.open sealed secret label.purpose)
    let backup ← sealWith password plain label.purpose
    return some (BackupBlob.sign backup password)

/-- The map inside a backup, if the backup is signed with the password, opens with it and is a map.
-/
def restored? (label : ShelfLabel) (blob password : String) : Option (OriginMap α) :=
  match BackupBlob.verify blob password with
  | .error _ => none
  | .ok sealed =>
    match SealedText.open sealed password label.purpose with
    | .error _ => none
    | .ok plain => OriginMap.ofText? plain

/-- Put the entries of a backup over those of the map. -/
def uploadBackup (label : ShelfLabel) (secret : Option String) (blob password : String) :
    Op (Shelf α) Unit := do
  let uploaded ← Op.ofOption (.incorrectBackupFormat label.component)
    (restored? label blob password)
  load label secret
  let m ← held
  commit label secret (m.overrideBy uploaded)

end Shelf

end WalletTrust

import WalletTrust.Host.Desktop
import WalletTrust.Host.Slot
import WalletTrust.SealedText

/-!
# The Session

The lock in front of everything that is kept.

A password is set up once. What is stored of it is a verifier: a known text sealed under the
password. Unlocking opens the verifier with the password that is offered and, if the known text
comes out, keeps the password as the secret of the session. Everything else is sealed and opened
with that secret, so without it nothing can be read or written. Logging out drops it.

Whoever waits for the session to be unlocked watches a signal, which follows the secret. Every
change is announced to the open windows, together with whether a password has been set up at all.

## Main definitions

* `Session`: The secret and the signal.
* `SessionLock`: A session with the verifier's slot and what it needs of the host.
* `SessionLock.setupPassword`, `SessionLock.unlock`, `SessionLock.logout`: The transitions.
* `SessionLock.isAuthentic`: Whether a password opens the verifier.
-/

namespace WalletTrust

/-- The secret of the session, while it is unlocked, and the signal that waiters watch. -/
structure Session where
  secret : Option String := none
  signal : Bool := false
deriving DecidableEq, Repr, Inhabited

namespace Session

def isUnlocked (s : Session) : Bool :=
  s.secret.isSome

def holding (secret : String) : Session :=
  { secret := some secret, signal := true }

def locked : Session := {}

end Session

/-- The stages of a session's life. -/
inductive SessionState where
  /-- No password has been set up. -/
  | uninitialized
  | locked
  | unlocked
deriving DecidableEq, Repr, Inhabited

/-- A session with the slot of its verifier and what it needs of the host. -/
structure SessionLock where
  session : Session := {}
  verifier : Slot := {}
  entropy : Entropy := default
  desktop : Desktop := {}
deriving Inhabited

namespace SessionLock

/-- The text that is sealed into the verifier. -/
def knownText : String := "Keeper password verifier"

def onVerifier {α : Type} (x : Op Slot α) : Op SessionLock α :=
  x.zoom SessionLock.verifier fun v s => { s with verifier := v }

def onDesktop {α : Type} (x : Op Desktop α) : Op SessionLock α :=
  x.zoom SessionLock.desktop fun d s => { s with desktop := d }

/-- The state of the lock, as windows show it. -/
def status : Op SessionLock SessionStatus := do
  let verifier ← onVerifier Slot.read
  let lock ← Op.get
  return { isInitialized := verifier.isSome, isUnlocked := lock.session.isUnlocked }

/-- The stage the session is in. The verifier is looked at only if the session is locked. -/
def state : Op SessionLock SessionState := do
  if (← Op.get).session.isUnlocked then return .unlocked
  else
    match ← onVerifier Slot.read with
    | some _ => return .locked
    | none => return .uninitialized

/-- Announce the state of the lock. If the verifier cannot be read nothing is announced, and a lost
message is no failure. -/
def announce : Op SessionLock Unit := do
  match ← status.attempt with
  | .ok s => (onDesktop (Desktop.broadcast (.sessionStatus s))).ignore
  | .error _ => pure ()

/-- Whether a text is a verifier of a password. -/
def verifies (verifier password : String) : Bool :=
  match SealedText.open verifier password .settings with
  | .ok text => text = knownText
  | .error _ => false

/-- Whether a password opens the verifier. The answer is never `false`: a wrong password fails. -/
def isAuthentic (password : String) : Op SessionLock Bool := do
  if password = "" then Op.fail .notProvided
  else
    match ← onVerifier Slot.read with
    | none => Op.fail .reinstallRequired
    | some verifier =>
      if verifies verifier password then return true
      else Op.fail .incorrectPassword

/-- Unlock with a password. While the session is unlocked this succeeds without a look at it. -/
def unlock (password : String) : Op SessionLock Bool := do
  if (← Op.get).session.isUnlocked then return true
  else
    let _ ← isAuthentic password
    Op.modify fun s => { s with session := .holding password }
    announce
    return true

/-- Seal a text with a given secret, under a fresh salt and nonce. -/
def sealWith (secret plain : String) (purpose : Purpose) : Op SessionLock String :=
  Op.draw fun s =>
    let (text, entropy) := SealedText.sealFresh plain secret purpose s.entropy
    (text, { s with entropy })

/-- Set up the password, once, and unlock with it. -/
def setupPassword (password : String) : Op SessionLock Bool := do
  if password = "" then Op.fail .notProvided
  else if (← onVerifier Slot.read).isSome then Op.fail .alreadyInitialized
  else
    let verifier ← sealWith password knownText .settings
    onVerifier (Slot.write verifier)
    -- The password is tried on the verifier just written, as it will be from now on.
    unlock password

def drop : Op SessionLock Unit :=
  Op.modify fun s => { s with session := .locked }

/-- Drop the secret and announce it. Observers hear of it in between. -/
def logout : Op SessionLock Bool := do
  drop
  announce
  return true

def ensureUnlocked : Op SessionLock Unit := do
  if (← Op.get).session.isUnlocked then pure () else Op.fail .notProvided

/-- Seal a text with the secret of the session. -/
def sealText (plain : String) (purpose : Purpose) : Op SessionLock String := do
  match (← Op.get).session.secret with
  | some secret => sealWith secret plain purpose
  | none => Op.fail .notProvided

/-- Open a text with the secret of the session. -/
def openText (sealed : String) (purpose : Purpose) : Op SessionLock String := do
  match (← Op.get).session.secret with
  | some secret => Op.ofExcept (SealedText.open sealed secret purpose)
  | none => Op.fail .notProvided

end SessionLock

end WalletTrust

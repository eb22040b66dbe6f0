import WalletTrust.Proofs.Operations
import WalletTrust.Wallet.Call

/-!
# Sealed Texts Open

What was sealed opens again, with the same secret and for the same purpose.

Each layer of a sealed text is undone by a law of its own. Base 64 is read back symbol by symbol.
Adding the stream of counters twice changes nothing, since the stream is as long as the text, and
the tag is computed over the same bytes both times. Salt and nonce have fixed lengths, so they are
found where they were put. For the same reason the size of a sealed text is known before it is
sealed, and whether a slot has room for it does not depend on the randomness.

A password that is set up therefore unlocks the session at once: the verifier that was just sealed
opens with it. So trying the password on it may as well be left out.

The laws are those of a text with a given salt and a given nonce. Sealing draws both from the
entropy of the host, and whatever bytes that gives, they are as many as opening looks for. Nothing
is said here of how hard it is to open a text without the secret, and nothing that follows needs it.

## Theorems

* `Base64.decode?_encode`: The bytes are read back from their symbols.
* `Gcm.decrypt?_encrypt`: What was encrypted is decrypted.
* `SealedText.open_sealWith`, `SealedText.open_sealFresh`: What was sealed opens.
* `SealedText.utf8ByteSize_sealFresh`: How large a sealed text is.
* `SessionLock.setupPassword_adopts`, `Wallet.perform_adopts`: Setting up a password unlocks with
  it.
* `Base64.length_encode`, `Gcm.length_encrypt`: How long what is written is.
* `SessionLock.unlock_of_authentic`, `SessionLock.unlock_refused`: A password unlocks the session if
  it is authentic, and leaves it locked otherwise.
-/

namespace WalletTrust

/-- A text of characters that take one byte each has as many bytes as characters. -/
theorem utf8ByteSize_ofList {cs : List Char} (h : ∀ c ∈ cs, c.utf8Size = 1) :
    (String.ofList cs).utf8ByteSize = cs.length := by
  induction cs with
  | nil => rfl
  | cons c rest ih =>
      rw [List.forall_mem_cons] at h
      rw [String.ofList_cons, String.utf8ByteSize_append, String.utf8ByteSize_singleton, h.1,
        ih h.2, List.length_cons, Nat.add_comm]

/-! ## Base 64 -/

namespace Base64

/-- Each of the 64 symbols has its place for its value. -/
theorem value?_symbol : ∀ n < 64, value? (symbol n) = some n := by decide

theorem isBlank_symbol : ∀ n < 64, isBlank (symbol n) = false := by decide

/-- A group without padding is read by itself. -/
theorem decode?_group {w x y z : Char} {p q r s : Nat} (hw : value? w = some p)
    (hx : value? x = some q) (hy : value? y = some r) (hz : value? z = some s) (rest : List Char) :
    decode? (w :: x :: y :: z :: rest) = (decode? rest).map fun bytes =>
      UInt8.ofNat ((p * 262144 + q * 4096 + r * 64 + s) / 65536) ::
        UInt8.ofNat ((p * 262144 + q * 4096 + r * 64 + s) / 256 % 256) ::
        UInt8.ofNat ((p * 262144 + q * 4096 + r * 64 + s) % 256) :: bytes := by
  -- The padding is no symbol, so the group is not one of those that end a text early.
  have hpad : z ≠ '=' := by
    rintro rfl
    cases hz
  rw [decode?]
  · simp only [hw, hx, hy, hz]
    cases decode? rest <;> rfl
  · rintro _ rfl
    exact fun _ => hpad rfl
  · rintro rfl
    exact fun _ => hpad rfl

/-- A byte is the number it stands for. -/
theorem byte_eq {a : UInt8} {n : Nat} (h : n = a.toNat) : UInt8.ofNat n = a := by
  rw [h, UInt8.ofNat_toNat]

/-- What was written in base64 is read back, whatever the length and with the padding it needs. -/
theorem decode?_encode (b : Bytes) : decode? (encode b) = some b := by
  induction b using encode.induct with
  | case1 => rfl
  | case2 a =>
      have ha := a.toNat_lt
      have hw := value?_symbol (a.toNat / 4) (by omega)
      have hx := value?_symbol (a.toNat % 4 * 16) (by omega)
      simp only [encode, decode?, hw, hx, Option.bind_eq_bind, Option.bind_some]
      rw [if_pos (by omega), byte_eq (a := a) (by omega)]
  | case3 a b =>
      have ha := a.toNat_lt
      have hb := b.toNat_lt
      have hw := value?_symbol ((a.toNat * 256 + b.toNat) / 1024) (by omega)
      have hx := value?_symbol ((a.toNat * 256 + b.toNat) / 16 % 64) (by omega)
      have hy := value?_symbol ((a.toNat * 256 + b.toNat) % 16 * 4) (by omega)
      -- The group of two bytes ends with one padding only, which the third symbol tells.
      have hpad : symbol ((a.toNat * 256 + b.toNat) % 16 * 4) ≠ '=' := by
        intro hsame
        rw [hsame] at hy
        cases hy
      rw [encode, decode?]
      · simp only [hw, hx, hy, Option.bind_eq_bind, Option.bind_some]
        rw [if_pos (by omega), byte_eq (a := a) (by omega), byte_eq (a := b) (by omega)]
      · exact hpad
  | case4 a b c rest ih =>
      have ha := a.toNat_lt
      have hb := b.toNat_lt
      have hc := c.toNat_lt
      have hw := value?_symbol ((a.toNat * 65536 + b.toNat * 256 + c.toNat) / 262144) (by omega)
      have hx := value?_symbol ((a.toNat * 65536 + b.toNat * 256 + c.toNat) / 4096 % 64) (by omega)
      have hy := value?_symbol ((a.toNat * 65536 + b.toNat * 256 + c.toNat) / 64 % 64) (by omega)
      have hz := value?_symbol ((a.toNat * 65536 + b.toNat * 256 + c.toNat) % 64) (by omega)
      rw [encode, decode?_group hw hx hy hz, ih, Option.map_some, byte_eq (a := a) (by omega),
        byte_eq (a := b) (by omega), byte_eq (a := c) (by omega)]

/-- What is true of the symbols and of the padding is true of all that is written. -/
theorem forall_mem_encode {P : Char → Prop} (hsymbol : ∀ n < 64, P (symbol n)) (hpad : P '=')
    (b : Bytes) : ∀ c ∈ encode b, P c := by
  -- Three bytes give four symbols, and what is left at the end is padded.
  induction b using encode.induct with
  | case1 => exact fun _ h => absurd h List.not_mem_nil
  | case2 a =>
      have ha := a.toNat_lt
      simp only [encode, List.forall_mem_cons]
      exact ⟨hsymbol _ (by omega), hsymbol _ (by omega), hpad, hpad,
        fun _ h => absurd h List.not_mem_nil⟩
  | case3 a b =>
      have ha := a.toNat_lt
      have hb := b.toNat_lt
      simp only [encode, List.forall_mem_cons]
      exact ⟨hsymbol _ (by omega), hsymbol _ (by omega), hsymbol _ (by omega), hpad,
        fun _ h => absurd h List.not_mem_nil⟩
  | case4 a b c rest ih =>
      have ha := a.toNat_lt
      have hb := b.toNat_lt
      have hc := c.toNat_lt
      simp only [encode, List.forall_mem_cons]
      exact ⟨hsymbol _ (by omega), hsymbol _ (by omega), hsymbol _ (by omega),
        hsymbol _ (by omega), ih⟩

/-- No symbol is blank. -/
theorem encode_shown (b : Bytes) : ∀ c ∈ encode b, isBlank c = false :=
  forall_mem_encode isBlank_symbol (by decide) b

/-- Three bytes take four symbols, and the last group is filled up. -/
theorem length_encode (b : Bytes) : (encode b).length = (b.length + 2) / 3 * 4 := by
  induction b using encode.induct with
  | case1 => rfl
  | case2 | case3 => simp only [encode, List.length_cons, List.length_nil]
  | case4 a b c rest ih =>
      simp only [encode, List.length_cons, ih]
      omega

/-- Four symbols of one byte each are written for three bytes. -/
theorem utf8ByteSize_encode (b : Bytes) :
    (String.ofList (encode b)).utf8ByteSize = (b.length + 2) / 3 * 4 := by
  rw [utf8ByteSize_ofList (forall_mem_encode (by decide) (by decide) b), length_encode]

end Base64

/-! ## Counter mode -/

namespace Gcm

theorem length_fit (n : Nat) (b : Bytes) : (Bytes.fit n b).length = n := by
  rw [Bytes.fit, List.length_map, List.length_range]

/-- There is as much of the key stream as is asked for. -/
theorem length_keystream (key nonce : Bytes) (n : Nat) : (keystream key nonce n).length = n := by
  simp only [keystream, List.length_take, List.length_flatMap, length_fit, List.map_const',
    List.length_range, List.sum_replicate_nat]
  -- The blocks are as many as cover the text, and the surplus is cut off.
  omega

/-- Adding the same bytes twice changes nothing. -/
theorem xor_xor {a k : Bytes} (h : k.length = a.length) : Bytes.xor (Bytes.xor a k) k = a := by
  induction a generalizing k with
  | nil => rfl
  | cons b rest ih =>
      cases k with
      | nil => cases h
      | cons x k =>
          have hrest := ih (Nat.succ.inj h)
          simp only [Bytes.xor] at hrest
          simp only [Bytes.xor, List.zipWith_cons_cons, hrest, UInt8.xor_assoc, UInt8.xor_self,
            UInt8.xor_zero]

/-- To combine bytes with as many others leaves their number what it was. -/
theorem length_xor {a k : Bytes} (h : k.length = a.length) : (Bytes.xor a k).length = a.length := by
  rw [Bytes.xor, List.length_zipWith, h, Nat.min_self]

/-- The tag is all that is added to a text. -/
theorem length_encrypt (key nonce plain : Bytes) :
    (encrypt key nonce plain).length = plain.length + 16 := by
  rw [encrypt, List.length_append, length_tag, length_xor (length_keystream key nonce plain.length)]

/-- What was encrypted is decrypted with the same key and the same nonce: the tag is the right one,
and the key stream is combined with the text a second time. -/
theorem decrypt?_encrypt (key nonce plain : Bytes) :
    decrypt? key nonce (encrypt key nonce plain) = some plain := by
  have hstream := length_keystream key nonce plain.length
  have hlength := length_encrypt key nonce plain
  have hbody : plain.length = (Bytes.xor plain (keystream key nonce plain.length)).length :=
    (length_xor hstream).symm
  rw [decrypt?, if_neg (by omega)]
  -- Cutting off the tag gives the body back, and the tag of the body is the one cut off.
  simp only [hlength, Nat.add_sub_cancel]
  rw [encrypt, List.take_left' hbody.symm, List.drop_left' hbody.symm, if_pos rfl, ← hbody,
    xor_xor hstream]

end Gcm

/-! ## Sealed texts -/

theorem dropWhile_blank {cs : List Char} (h : ∀ c ∈ cs, isBlank c = false) :
    cs.dropWhile isBlank = cs := by
  cases cs with
  | nil => rfl
  | cons c rest => rw [List.dropWhile_cons, h c List.mem_cons_self, if_neg Bool.false_ne_true]

/-- A text without blanks is left as it is when blanks are trimmed. -/
theorem trim_shown {cs : List Char} (h : ∀ c ∈ cs, isBlank c = false) :
    trim (String.ofList cs) = String.ofList cs := by
  have hreverse : ∀ c ∈ cs.reverse, isBlank c = false := fun c hc => h c (List.mem_reverse.1 hc)
  rw [trim, String.toList_ofList, trimChars, dropWhile_blank h, dropWhile_blank hreverse,
    List.reverse_reverse]

namespace SealedText

/-- Sealed bytes are opened. The salt and the nonce in front of them have the lengths at which they
are cut off. -/
theorem openBytes_sealBytes {salt nonce : Bytes} (hsalt : salt.length = saltSize)
    (hnonce : nonce.length = nonceSize) (plain secret : String) (purpose : Purpose) :
    openBytes (sealBytes salt nonce plain secret purpose) secret purpose = .ok plain := by
  have hhead : (salt ++ nonce).length = saltSize + nonceSize := by
    rw [List.length_append, hsalt, hnonce]
  rw [openBytes, sealBytes, if_neg (by simp only [List.length_append]; omega)]
  simp only [List.append_assoc, List.take_left' hsalt, List.drop_left' hsalt,
    List.take_left' hnonce]
  rw [← List.append_assoc, List.drop_left' hhead, Gcm.decrypt?_encrypt]
  simp only [Utf8.decode?_encode]

/-- A sealed text is opened with the secret it was sealed with, for the same purpose. -/
theorem open_sealWith {salt nonce : Bytes} (hsalt : salt.length = saltSize)
    (hnonce : nonce.length = nonceSize) (plain secret : String) (purpose : Purpose) :
    SealedText.open (sealWith salt nonce plain secret purpose) secret purpose = .ok plain := by
  rw [SealedText.open, sealWith, trim_shown (Base64.encode_shown _), String.toList_ofList,
    Base64.decode?_encode]
  exact openBytes_sealBytes hsalt hnonce plain secret purpose

/-- As many random bytes are drawn as are asked for. -/
theorem length_draw (n : Nat) (e : Entropy) : (e.draw n).1.length = n := by
  rw [Entropy.draw, List.length_map, List.length_range]

/-- And so for a text that is sealed with random bytes. -/
theorem open_sealFresh (plain secret : String) (purpose : Purpose) (e : Entropy) :
    SealedText.open (sealFresh plain secret purpose e).1 secret purpose = .ok plain :=
  open_sealWith (length_draw _ _) (length_draw _ _) plain secret purpose

/-- How large a sealed text is depends on the text alone, and not on the randomness that is spent on
it: salt, nonce and tag are as long as ever. -/
theorem utf8ByteSize_sealFresh (plain secret : String) (purpose : Purpose) (e : Entropy) :
    (sealFresh plain secret purpose e).1.utf8ByteSize =
      ((Utf8.encode plain).length + 46) / 3 * 4 := by
  simp only [sealFresh, sealWith, Base64.utf8ByteSize_encode, sealBytes, List.length_append,
    length_draw, Gcm.length_encrypt, saltSize, nonceSize]
  omega

end SealedText

/-! ## The verifier -/

namespace SessionLock

variable {lock : SessionLock} {password : String}

/-- Seal a verifier for a password and unlock with it, without trying the one on the other. -/
def adopt (password : String) : Op SessionLock Bool := do
  let verifier ← sealWith password knownText .settings
  onVerifier (Slot.write verifier)
  Op.modify fun s => { s with session := .holding password }
  announce
  return true

/-- Announcing never fails. -/
theorem announce_ok (lock : SessionLock) : announce lock = (.ok (), (announce lock).2) := by
  rw [announce]
  rcases hstatus : status.attempt lock with ⟨outcome, after⟩
  cases outcome with
  | ok found =>
      rw [Op.bind_ok hstatus]
      cases found with
      | ok s => rfl
      | error e => rfl
  | error e => cases congrArg Prod.fst hstatus

/-- A password opens the verifier that was sealed for it. -/
theorem verifies_sealed {e : Entropy} :
    verifies (SealedText.sealFresh knownText password .settings e).1 password = true := by
  rw [verifies, SealedText.open_sealFresh]
  exact decide_eq_true rfl

theorem isAuthentic_sealed {e : Entropy} (hp : password ≠ "")
    (hreads : lock.verifier.readable = true)
    (hsealed : lock.verifier.value = some (SealedText.sealFresh knownText password .settings e).1) :
    isAuthentic password lock = (.ok true, lock) := by
  have hread : onVerifier Slot.read lock =
      (.ok (some (SealedText.sealFresh knownText password .settings e).1), lock) := by
    simp only [onVerifier, Op.zoom, Slot.read, hreads, if_true, hsealed]
  rw [isAuthentic, if_neg hp, Op.bind_ok hread]
  exact congrFun (if_pos verifies_sealed) lock

/-- While the session is locked, nothing stands before the password is tried. -/
theorem unlock_tries (password : String) (hlocked : lock.session.isUnlocked = false) :
    unlock password lock = (do
      let _ ← isAuthentic password
      Op.modify fun s => { s with session := .holding password }
      announce
      return true : Op SessionLock Bool) lock := by
  rw [unlock, Op.bind_ok (x := Op.get) rfl, if_neg (by rw [hlocked]; exact Bool.false_ne_true)]

/-- A session that is locked is unlocked with a password that is authentic, and that is announced.
-/
theorem unlock_of_authentic (hlocked : lock.session.isUnlocked = false)
    (h : isAuthentic password lock = (.ok true, lock)) :
    unlock password lock = (.ok true, (announce { lock with session := .holding password }).2) := by
  rw [unlock_tries password hlocked, Op.bind_ok h, Op.bind_ok (x := Op.modify _) rfl,
    Op.bind_ok (announce_ok _), Op.pure_apply]

/-- With any other password it stays locked, and nothing is announced. -/
theorem unlock_refused {e : Error} (hlocked : lock.session.isUnlocked = false)
    (h : isAuthentic password lock = (.error e, lock)) :
    unlock password lock = (.error e, lock) := by
  rw [unlock_tries password hlocked, Op.bind_error h]

/-- So whoever has the verifier sealed with a password unlocks with it. -/
theorem unlock_sealed {e : Entropy} (hp : password ≠ "") (hreads : lock.verifier.readable = true)
    (hsealed : lock.verifier.value = some (SealedText.sealFresh knownText password .settings e).1)
    (hlocked : lock.session.isUnlocked = false) :
    unlock password lock = (.ok true, (announce { lock with session := .holding password }).2) :=
  unlock_of_authentic hlocked (isAuthentic_sealed hp hreads hsealed)

/-- A written verifier is there, and nothing else has changed. -/
theorem write_ok {text : String} {lock after : SessionLock}
    (h : onVerifier (Slot.write text) lock = (.ok (), after)) :
    after.verifier.value = some text ∧ after.verifier.readable = lock.verifier.readable ∧
      after.session = lock.session := by
  simp only [onVerifier, Op.zoom, Slot.write] at h
  split at h
  · rcases congrArg Prod.snd h
    exact ⟨rfl, rfl, rfl⟩
  · cases congrArg Prod.fst h

/-- Setting up a password in an empty slot adopts it. -/
theorem setupPassword_adopts (hp : password ≠ "") (hreads : lock.verifier.readable = true)
    (hempty : lock.verifier.value = none) (hlocked : lock.session.isUnlocked = false) :
    setupPassword password lock = adopt password lock := by
  have hread : onVerifier Slot.read lock = (.ok none, lock) := by
    simp only [onVerifier, Op.zoom, Slot.read, hreads, if_true, hempty]
  have hnone : ¬ (none : Option String).isSome = true := Bool.false_ne_true
  let fresh := SealedText.sealFresh knownText password .settings lock.entropy
  have hseal : sealWith password knownText .settings lock =
      (.ok fresh.1, { lock with entropy := fresh.2 }) := rfl
  rw [setupPassword, if_neg hp, Op.bind_ok hread, if_neg hnone, Op.bind_ok hseal, adopt,
    Op.bind_ok hseal]
  rcases hwrite : onVerifier (Slot.write fresh.1) { lock with entropy := fresh.2 } with
    ⟨outcome, after⟩
  -- Both ways agree up to here; what follows opens what was written.
  cases outcome with
  | error e => rw [Op.bind_error hwrite, Op.bind_error hwrite]
  | ok _ =>
      rcases write_ok hwrite with ⟨hsealed, hreadable, hsession⟩
      rw [Op.bind_ok hwrite, Op.bind_ok hwrite, unlock_sealed hp (hreadable.trans hreads) hsealed
        (by rw [hsession]; exact hlocked)]
      rw [Op.bind_ok (x := Op.modify _) rfl, Op.bind_ok (announce_ok _), Op.pure_apply]

end SessionLock

namespace Wallet

/-- Adopt a password and load the registries. -/
def adopt (password : String) : Op Wallet Bool := do
  let _ ← onLock (SessionLock.adopt password)
  loadRegistries
  return true

section

variable {w : Wallet} {password : String} (hp : password ≠ "")
  (hreads : (w.host.storage.slot w.config.storageKeys.password).readable = true)
  (hempty : (w.host.storage.slot w.config.storageKeys.password).value = none)
  (hlocked : w.core.session.isUnlocked = false)

include hp hreads hempty hlocked

/-- Where there is no verifier yet, to set a password up is to adopt it. -/
theorem onLock_adopts : onLock (SessionLock.setupPassword password) w =
    onLock (SessionLock.adopt password) w := by
  rw [onLock, onLock, Op.zoom, Op.zoom, SessionLock.setupPassword_adopts hp hreads hempty hlocked]

/-- Setting up a password where there is none adopts it. -/
theorem perform_adopts :
    perform (.setupPassword password) w = finish .flag (adopt password) w := by
  have hsetup : setupPassword password w = adopt password w := by
    rw [setupPassword, adopt, Op.bind_apply, Op.bind_apply,
      onLock_adopts hp hreads hempty hlocked]
  rw [perform, finish, finish, Op.bind_apply, Op.bind_apply, hsetup]

/-- So does setting it up for the session alone. -/
theorem perform_adopts_alone : perform (.setupLock password) w =
    finish .flag (onLock (SessionLock.adopt password)) w := by
  rw [perform, finish, finish, Op.bind_apply, Op.bind_apply,
    onLock_adopts hp hreads hempty hlocked]

end

end Wallet

end WalletTrust

import Mathlib.Data.List.TakeWhile
import WalletTrust.Proofs.Sealing

/-!
# Sealed Texts Have One Form

Only what was sealed opens, and as the text that was sealed.

`Sealing` shows that a sealed text opens. Here it is shown that nothing else does. Each layer of a
sealed text has one spelling for what it holds. A symbol of base 64 has one number, the bits that
the last group leaves over have to be zero, and the padding is not optional, so bytes have one
spelling. The tag is computed over the encrypted text, so with the right tag the encrypted text is
the encryption of what it decrypts to. And only the bytes of a text are read as a text.

So whoever opens a text learns salt, nonce and plain text, and sealing the plain text again with
them gives the text back, up to the blanks around it. A text that was cut short, padded otherwise or
changed in one place never opens as some other text: were it to open, it would be the sealed text of
what it opened to.

## Main definitions

* `SealedText.Inverse`: Sealing and opening undo each other.

## Theorems

* `Base64.encode_of_decode?`: Bytes have one spelling.
* `Gcm.decrypt?_eq_some_iff`: Only what was encrypted is decrypted.
* `SealedText.trim_surrounded`: Blanks around a text are dropped.
* `SealedText.inverse`: Sealing and opening undo each other.
* `SealedText.open_of_trim`: A text opens if nothing but blanks keep it from being a sealed one.
* `SealedText.sealBytes_of_openBytes`: Bytes that open are those of the text inside.
-/

namespace WalletTrust

/-! ## Base 64 -/

namespace Base64

theorem symbol_of_value? {c : Char} {n : Nat} (h : value? c = some n) :
    n < 64 ∧ symbol n = c := by
  -- Letters and digits have ranges of numbers of their own, and the last two symbols a number each.
  rw [value?] at h
  split at h
  · next hrange =>
    have hlow : 65 ≤ c.toNat := hrange.1
    have hhigh : c.toNat ≤ 90 := hrange.2
    rcases Option.some.inj h
    refine ⟨by omega, ?_⟩
    rw [symbol, if_pos (by omega), Nat.add_sub_cancel' hlow, Char.ofNat_toNat]
  · split at h
    · next hrange =>
      have hlow : 97 ≤ c.toNat := hrange.1
      have hhigh : c.toNat ≤ 122 := hrange.2
      rcases Option.some.inj h
      refine ⟨by omega, ?_⟩
      rw [symbol, if_neg (by omega), if_pos (by omega), Nat.add_sub_cancel' (by omega),
        Char.ofNat_toNat]
    · split at h
      · next hrange =>
        have hlow : 48 ≤ c.toNat := hrange.1
        have hhigh : c.toNat ≤ 57 := hrange.2
        rcases Option.some.inj h
        refine ⟨by omega, ?_⟩
        rw [symbol, if_neg (by omega), if_neg (by omega), if_pos (by omega), Nat.add_sub_cancel,
          Char.ofNat_toNat]
      · split at h
        · next hplus =>
          rcases Option.some.inj h
          exact ⟨by decide, hplus.symm⟩
        · split at h
          · next hslash =>
            rcases Option.some.inj h
            exact ⟨by decide, hslash.symm⟩
          · cases h

theorem toNat_byte {n : Nat} (h : n < 256) : (UInt8.ofNat n).toNat = n :=
  UInt8.toNat_ofNat_of_lt h

/-- A text that is read as bytes is their spelling. -/
theorem encode_of_decode? {cs : List Char} {b : Bytes} (h : decode? cs = some b) :
    encode b = cs := by
  -- The cases of `decode?`: nothing, a last group that is padded twice or once, a full group with
  -- more to follow, and what is refused.
  induction cs using decode?.induct generalizing b with
  | case1 =>
      rcases Option.some.inj h
      rfl
  | case2 w x =>
      simp only [decode?, Option.bind_eq_bind, Option.bind_eq_some_iff] at h
      rcases h with ⟨p, hw, q, hx, h⟩
      rcases symbol_of_value? hw with ⟨hp, rfl⟩
      rcases symbol_of_value? hx with ⟨hq, rfl⟩
      -- The bits of the second symbol that are in no byte are zero, or nothing was read.
      split at h
      · rcases Option.some.inj h
        have hfirst : (p * 4 + q / 16) / 4 = p := by omega
        have hsecond : (p * 4 + q / 16) % 4 * 16 = q := by omega
        rw [encode, toNat_byte (by omega), hfirst, hsecond]
      · cases h
  | case3 w x y _ =>
      simp only [decode?, Option.bind_eq_bind, Option.bind_eq_some_iff] at h
      rcases h with ⟨p, hw, q, hx, r, hy, h⟩
      rcases symbol_of_value? hw with ⟨hp, rfl⟩
      rcases symbol_of_value? hx with ⟨hq, rfl⟩
      rcases symbol_of_value? hy with ⟨hr, rfl⟩
      split at h
      · rcases Option.some.inj h
        have hfirst : (p * 1024 + q * 16 + r / 4) / 1024 = p := by omega
        have hsecond : (p * 1024 + q * 16 + r / 4) / 16 % 64 = q := by omega
        have hthird : (p * 1024 + q * 16 + r / 4) % 16 * 4 = r := by omega
        rw [encode, toNat_byte (by omega), toNat_byte (by omega), Nat.div_add_mod', hfirst, hsecond,
          hthird]
      · cases h
  | case4 w x y z rest _ _ ih =>
      simp only [decode?, Option.bind_eq_bind, Option.bind_eq_some_iff] at h
      rcases h with ⟨p, hw, q, hx, r, hy, s, hz, bytes, hrest, h⟩
      rcases symbol_of_value? hw with ⟨hp, rfl⟩
      rcases symbol_of_value? hx with ⟨hq, rfl⟩
      rcases symbol_of_value? hy with ⟨hr, rfl⟩
      rcases symbol_of_value? hz with ⟨hs, rfl⟩
      rcases Option.some.inj h
      -- The three bytes are the digits of the group's number, which they therefore add up to.
      have hnumber : (p * 262144 + q * 4096 + r * 64 + s) / 65536 * 65536 +
          (p * 262144 + q * 4096 + r * 64 + s) / 256 % 256 * 256 +
          (p * 262144 + q * 4096 + r * 64 + s) % 256 = p * 262144 + q * 4096 + r * 64 + s := by
        omega
      have hfirst : (p * 262144 + q * 4096 + r * 64 + s) / 262144 = p := by omega
      have hsecond : (p * 262144 + q * 4096 + r * 64 + s) / 4096 % 64 = q := by omega
      have hthird : (p * 262144 + q * 4096 + r * 64 + s) / 64 % 64 = r := by omega
      have hfourth : (p * 262144 + q * 4096 + r * 64 + s) % 64 = s := by omega
      rw [encode, toNat_byte (by omega), toNat_byte (by omega), toNat_byte (by omega), ih hrest,
        hnumber, hfirst, hsecond, hthird, hfourth]
  | case5 cs =>
      rw [decode?] at h
      · cases h
      all_goals assumption

end Base64

/-! ## Counter mode -/

namespace Gcm

theorem decrypt?_eq_some_iff {key nonce sealed plain : Bytes} :
    decrypt? key nonce sealed = some plain ↔ sealed = encrypt key nonce plain := by
  constructor
  · intro h
    rw [decrypt?] at h
    split at h
    · cases h
    simp only at h
    split at h
    · next htag =>
      rcases Option.some.inj h
      -- The stream for the plain text is the one for the body, as both have the same length.
      have hlength := length_xor (length_keystream key nonce _ :
        _ = (sealed.take (sealed.length - 16)).length)
      have hbody := xor_xor (length_keystream key nonce _ :
        _ = (sealed.take (sealed.length - 16)).length)
      rw [encrypt, hlength, hbody, ← htag, List.take_append_drop]
    · cases h
  · rintro rfl
    exact decrypt?_encrypt key nonce plain

end Gcm

/-! ## Blanks around a text -/

theorem trimChars_surrounded {before cs after : List Char}
    (hbefore : ∀ c ∈ before, isBlank c = true) (hshown : ∀ c ∈ cs, isBlank c = false)
    (hafter : ∀ c ∈ after, isBlank c = true) :
    trimChars (before ++ cs ++ after) = cs := by
  have hreverse : ∀ c ∈ cs.reverse, isBlank c = false := fun c hc =>
    hshown c (List.mem_reverse.1 hc)
  have hlast : ∀ c ∈ after.reverse, isBlank c = true := fun c hc => hafter c (List.mem_reverse.1 hc)
  rw [trimChars, List.append_assoc, List.dropWhile_append_of_pos hbefore]
  -- If there is nothing between the blanks, those after it are dropped with those before it.
  cases cs with
  | nil => rw [List.nil_append, List.dropWhile_eq_nil_iff.2 hafter]; rfl
  | cons c rest =>
      have hfirst : (c :: rest ++ after).dropWhile isBlank = c :: rest ++ after := by
        rw [List.cons_append, List.dropWhile_cons, hshown c List.mem_cons_self,
          if_neg Bool.false_ne_true]
      rw [hfirst, List.reverse_append, List.dropWhile_append_of_pos hlast, dropWhile_blank hreverse,
        List.reverse_reverse]

namespace SealedText

variable {salt nonce : Bytes} {plain secret : String} {purpose : Purpose}

/-- Blanks around a sealed text are dropped. -/
theorem trim_surrounded {before after : String} (hbefore : ∀ c ∈ before.toList, isBlank c = true)
    (hafter : ∀ c ∈ after.toList, isBlank c = true) :
    trim (before ++ sealWith salt nonce plain secret purpose ++ after) =
      sealWith salt nonce plain secret purpose := by
  rw [trim, String.toList_append, String.toList_append, sealWith, String.toList_ofList,
    trimChars_surrounded hbefore (Base64.encode_shown _) hafter]

/-- A text opens if nothing but blanks keep it from being a sealed one. -/
theorem open_of_trim {sealed : String} (hsalt : salt.length = saltSize)
    (hnonce : nonce.length = nonceSize)
    (h : trim sealed = sealWith salt nonce plain secret purpose) :
    SealedText.open sealed secret purpose = .ok plain := by
  rw [SealedText.open, h, sealWith, String.toList_ofList, Base64.decode?_encode]
  exact openBytes_sealBytes hsalt hnonce plain secret purpose

/-- Bytes that open are those of the text inside. -/
theorem sealBytes_of_openBytes {data : Bytes} (h : openBytes data secret purpose = .ok plain) :
    saltSize + nonceSize ≤ data.length ∧
      sealBytes (data.take saltSize) ((data.drop saltSize).take nonceSize) plain secret purpose =
        data := by
  rw [openBytes] at h
  split at h
  · cases h
  next hlong =>
  refine ⟨Nat.le_of_not_lt hlong, ?_⟩
  simp only at h
  split at h
  · cases h
  next inside hdecrypt =>
  split at h
  · cases h
  next text hdecode =>
  rcases Except.ok.inj h
  rcases Utf8.decode?_eq_some_iff.1 hdecode
  -- Salt, nonce and the rest are the parts the bytes were cut into.
  rw [sealBytes, ← Gcm.decrypt?_eq_some_iff.1 hdecrypt, ← List.drop_drop, List.append_assoc,
    List.take_append_drop, List.take_append_drop]

/-- Sealing and opening undo each other. -/
structure Inverse (secret : String) (purpose : Purpose) : Prop where
  /-- What was sealed opens, also between blanks. -/
  opens : ∀ (salt nonce : Bytes) (plain before after : String), salt.length = saltSize →
    nonce.length = nonceSize → (∀ c ∈ before.toList, isBlank c = true) →
    (∀ c ∈ after.toList, isBlank c = true) →
    SealedText.open (before ++ sealWith salt nonce plain secret purpose ++ after) secret purpose =
      .ok plain
  /-- What opens was sealed, with the salt and the nonce that it starts with. -/
  sealed : ∀ sealed plain : String, SealedText.open sealed secret purpose = .ok plain →
    ∃ data, Base64.decode? (trim sealed).toList = some data ∧
      saltSize + nonceSize ≤ data.length ∧
      trim sealed = sealWith (data.take saltSize) ((data.drop saltSize).take nonceSize) plain secret
        purpose
  /-- So exactly the sealed texts open. -/
  image : ∀ sealed plain : String, SealedText.open sealed secret purpose = .ok plain ↔
    ∃ salt nonce : Bytes, salt.length = saltSize ∧ nonce.length = nonceSize ∧
      trim sealed = sealWith salt nonce plain secret purpose

theorem sealed_of_open {sealed : String} (h : SealedText.open sealed secret purpose = .ok plain) :
    ∃ data, Base64.decode? (trim sealed).toList = some data ∧
      saltSize + nonceSize ≤ data.length ∧
      trim sealed = sealWith (data.take saltSize) ((data.drop saltSize).take nonceSize) plain secret
        purpose := by
  rw [SealedText.open] at h
  split at h
  · cases h
  next data hdecode =>
  rcases sealBytes_of_openBytes h with ⟨hlong, hseal⟩
  refine ⟨data, hdecode, hlong, ?_⟩
  rw [sealWith, hseal, Base64.encode_of_decode? hdecode, String.ofList_toList]

/-- For each secret and purpose, sealing and opening undo each other. -/
theorem inverse (secret : String) (purpose : Purpose) : Inverse secret purpose where
  opens _ _ _ _ _ hsalt hnonce hbefore hafter :=
    open_of_trim hsalt hnonce (trim_surrounded hbefore hafter)
  sealed _ _ h := sealed_of_open h
  image _ _ := by
    constructor
    · intro h
      rcases sealed_of_open h with ⟨data, -, hlong, hseal⟩
      refine ⟨_, _, ?_, ?_, hseal⟩
      · rw [List.length_take]
        omega
      · rw [List.length_take, List.length_drop]
        omega
    · rintro ⟨salt, nonce, hsalt, hnonce, hseal⟩
      exact open_of_trim hsalt hnonce hseal

end SealedText

end WalletTrust

import WalletTrust.Cipher.Aes

/-!
# AES-256-GCM

Encryption with a tag, under a nonce of twelve bytes and without associated data.

A text is added, bit by bit, to a stream of encrypted counters that start at two. The tag is a
polynomial hash of the encrypted text, added to the encryption of the counter one. It is computed
over the encrypted text, so it can be checked before anything is decrypted, and adding the stream
again undoes the encryption.

## Main definitions

* `Gcm.keystream`: The stream of encrypted counters.
* `Gcm.tag`: The tag of an encrypted text, sixteen bytes.
* `Gcm.encrypt`, `Gcm.decrypt?`: A text with its tag, and the text of a tagged sequence whose tag is
  right.

## Theorems

* `Gcm.length_tag`: A tag has sixteen bytes.
-/

namespace WalletTrust

namespace Gcm

/-- A block as a polynomial over the field of two elements: the coefficient of the lowest power is
the highest bit. -/
def toPolynomial (block : Bytes) : BitVec 128 :=
  BitVec.ofNat 128 ((Bytes.fit 16 block).foldl (fun n (b : UInt8) => n * 256 + b.toNat) 0)

/-- The block of a polynomial. -/
def ofPolynomial (p : BitVec 128) : Bytes :=
  (List.range 16).map fun i => UInt8.ofNat ((p >>> (8 * (15 - i))).toNat % 256)

/-- The product modulo `1 + x + x² + x⁷ + x¹²⁸`. -/
def mul (p q : BitVec 128) : BitVec 128 :=
  ((List.range 128).foldl
    (fun (sum, power) i =>
      (if p.getMsbD i then sum ^^^ power else sum,
        if power.getLsbD 0 then (power >>> 1) ^^^ (0xe1#128 <<< 120) else power >>> 1))
    (0#128, q)).1

/-- The value of a sequence of blocks as a polynomial hash at `point`. -/
def polynomialHash (point : BitVec 128) (blocks : List Bytes) : BitVec 128 :=
  blocks.foldl (fun y block => mul (y ^^^ toPolynomial block) point) 0

/-- The block of a nonce and a counter. -/
def counterBlock (nonce : Bytes) (counter : Nat) : Bytes :=
  nonce ++ Bytes.ofNat 4 counter

/-- The first `n` bytes of the stream of encrypted counters. -/
def keystream (key nonce : Bytes) (n : Nat) : Bytes :=
  let keys := Aes.schedule key
  ((List.range ((n + 15) / 16)).flatMap fun i =>
    Bytes.fit 16 (Aes.encrypt keys (counterBlock nonce (i + 2)))).take n

/-- The tag of an encrypted text. -/
def tag (key nonce body : Bytes) : Bytes :=
  let keys := Aes.schedule key
  let point := toPolynomial (Aes.encrypt keys (List.replicate 16 0))
  let lengths := Bytes.ofNat 8 0 ++ Bytes.ofNat 8 (8 * body.length)
  let mask := toPolynomial (Aes.encrypt keys (counterBlock nonce 1))
  ofPolynomial (polynomialHash point (Bytes.blocks 16 body ++ [lengths]) ^^^ mask)

theorem length_tag (key nonce body : Bytes) : (tag key nonce body).length = 16 := rfl

/-- A text, encrypted and followed by its tag. -/
def encrypt (key nonce plain : Bytes) : Bytes :=
  let body := Bytes.xor plain (keystream key nonce plain.length)
  body ++ tag key nonce body

/-- The text of a tagged sequence, if its last sixteen bytes are the tag of the rest. -/
def decrypt? (key nonce sealed : Bytes) : Option Bytes :=
  if sealed.length < 16 then none
  else
    let body := sealed.take (sealed.length - 16)
    if sealed.drop (sealed.length - 16) = tag key nonce body then
      some (Bytes.xor body (keystream key nonce body.length))
    else none

end Gcm

end WalletTrust

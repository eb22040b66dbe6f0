import WalletTrust.Text.Hex

/-!
# Percent Encoding

A text as unreserved characters and percent triplets, fit for a data URI.

Encoding works on bytes: letters, digits, `-`, `.`, `_` and `~` stand for themselves, and every
other byte is written as a percent sign and two upper-case digits. Decoding undoes triplets and
leaves everything else alone, so a percent sign that starts no triplet stands for itself and a plus
sign is no blank. The bytes that come out need not be a text.

## Main definitions

* `Percent.isUnreserved`: The bytes that stand for themselves.
* `Percent.encode`: The encoding of a text.
* `Percent.decode?`: The text that a sequence of characters encodes, if its bytes are one.
-/

namespace WalletTrust

namespace Percent

/-- The bytes that stand for themselves. -/
def isUnreserved (b : UInt8) : Bool :=
  let n := b.toNat
  (48 ≤ n && n ≤ 57) || (65 ≤ n && n ≤ 90) || (97 ≤ n && n ≤ 122)
    || n = 45 || n = 46 || n = 95 || n = 126

/-- One byte, as itself or as a triplet. -/
def encodeByte (b : UInt8) : List Char :=
  if isUnreserved b then [Char.ofNat b.toNat]
  else ['%', Hex.upperDigit (b.toNat / 16), Hex.upperDigit (b.toNat % 16)]

def encode (s : String) : String :=
  String.ofList ((Utf8.encode s).flatMap encodeByte)

/-- Undo the triplets of a byte sequence and keep every other byte. -/
def undoTriplets : Bytes → Bytes
  | [] => []
  | [b] => [b]
  | [a, b] => [a, b]
  | p :: h :: l :: rest =>
    if p = 37 then
      match Hex.value? (Char.ofNat h.toNat), Hex.value? (Char.ofNat l.toNat) with
      | some x, some y => UInt8.ofNat (16 * x + y) :: undoTriplets rest
      | _, _ => p :: undoTriplets (h :: l :: rest)
    else p :: undoTriplets (h :: l :: rest)

/-- The text that is encoded. -/
def decode? (s : String) : Option String :=
  Utf8.decode? (undoTriplets (Utf8.encode s))

end Percent

end WalletTrust

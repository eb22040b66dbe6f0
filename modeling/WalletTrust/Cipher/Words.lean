import WalletTrust.Text.Utf8

/-!
# Words and Blocks

Byte sequences cut into blocks, and bytes as words with the high byte first.

## Main definitions

* `Bytes.blocks`: A byte sequence in blocks of a given size; the last may be shorter.
* `Bytes.fit`: A byte sequence cut or filled up to a given length.
* `Bytes.ofWord32`, `Bytes.toWord32`: Four bytes and a word.
* `Bytes.ofNat`: A number in a given number of bytes.
* `Bytes.xor`: Two byte sequences added bit by bit.
-/

namespace WalletTrust

namespace Bytes

/-- A byte sequence in blocks of `n` bytes; the last may be shorter. -/
def blocks (n : Nat) (b : Bytes) : List Bytes :=
  (List.range ((b.length + n - 1) / n)).map fun i => (b.drop (n * i)).take n

/-- The first `n` bytes, filled up with zeros. -/
def fit (n : Nat) (b : Bytes) : Bytes :=
  (List.range n).map fun i => b.getD i 0

/-- The last `n` bytes of a number, the high byte first. -/
def ofNat (n value : Nat) : Bytes :=
  (List.range n).map fun i => UInt8.ofNat (value >>> (8 * (n - 1 - i)))

def ofWord32 (w : UInt32) : Bytes :=
  [(w >>> 24).toUInt8, (w >>> 16).toUInt8, (w >>> 8).toUInt8, w.toUInt8]

/-- The word of the first four bytes; bytes that are missing count as zero. -/
def toWord32 (b : Bytes) : UInt32 :=
  ((b.getD 0 0).toUInt32 <<< 24) ||| ((b.getD 1 0).toUInt32 <<< 16)
    ||| ((b.getD 2 0).toUInt32 <<< 8) ||| (b.getD 3 0).toUInt32

/-- Two byte sequences added bit by bit, as far as the shorter one goes. -/
def xor (a b : Bytes) : Bytes :=
  List.zipWith (· ^^^ ·) a b

end Bytes

end WalletTrust

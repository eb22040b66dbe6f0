import WalletTrust.Text.Utf8

/-!
# Hexadecimal

Two hexadecimal digits to a byte, the high digit first.

Writing uses lower case. Reading takes either case, so a text has more than one spelling, but it
takes nothing else: an odd number of digits or a character that is no digit is refused.

## Main definitions

* `Hex.digit`, `Hex.value?`: A digit of a number below sixteen, and the number of a digit.
* `Hex.encode`, `Hex.decode?`: The digits of a byte sequence, and the bytes of a text of digits.
-/

namespace WalletTrust

namespace Hex

/-- The lower-case digit of a number below sixteen. -/
def digit (n : Nat) : Char :=
  if n < 10 then Char.ofNat (48 + n) else Char.ofNat (87 + n)

/-- The upper-case digit of a number below sixteen. -/
def upperDigit (n : Nat) : Char :=
  if n < 10 then Char.ofNat (48 + n) else Char.ofNat (55 + n)

/-- The number of a digit of either case. -/
def value? (c : Char) : Option Nat :=
  if '0' ≤ c ∧ c ≤ '9' then some (c.toNat - 48)
  else if 'a' ≤ c ∧ c ≤ 'f' then some (c.toNat - 87)
  else if 'A' ≤ c ∧ c ≤ 'F' then some (c.toNat - 55)
  else none

/-- The digits of a byte sequence, in lower case. -/
def encode : Bytes → List Char
  | [] => []
  | b :: rest => digit (b.toNat / 16) :: digit (b.toNat % 16) :: encode rest

/-- The bytes of a text of digits. -/
def decode? : List Char → Option Bytes
  | [] => some []
  | [_] => none
  | hi :: lo :: rest => do
    let h ← value? hi
    let l ← value? lo
    let bytes ← decode? rest
    return UInt8.ofNat (16 * h + l) :: bytes

end Hex

end WalletTrust

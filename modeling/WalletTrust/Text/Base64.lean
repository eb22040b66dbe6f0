import WalletTrust.Text.Utf8

/-!
# Base 64

Three bytes as four symbols, with padding.

The alphabet is the standard one and the padding is not optional. A last group of one or two bytes
leaves bits over in its last symbol; they have to be zero, so a byte sequence has exactly one
spelling and a text with stray bits is refused rather than read as some other sequence.

## Main definitions

* `Base64.encode`, `Base64.decode?`: The symbols of a byte sequence, and the bytes of a text.
-/

namespace WalletTrust

namespace Base64

/-- The symbol of a number below sixty-four. -/
def symbol (n : Nat) : Char :=
  if n < 26 then Char.ofNat (65 + n)
  else if n < 52 then Char.ofNat (71 + n)
  else if n < 62 then Char.ofNat (n - 4)
  else if n = 62 then '+'
  else '/'

/-- The number of a symbol. -/
def value? (c : Char) : Option Nat :=
  if 'A' ≤ c ∧ c ≤ 'Z' then some (c.toNat - 65)
  else if 'a' ≤ c ∧ c ≤ 'z' then some (c.toNat - 71)
  else if '0' ≤ c ∧ c ≤ '9' then some (c.toNat + 4)
  else if c = '+' then some 62
  else if c = '/' then some 63
  else none

/-- The symbols of a byte sequence. -/
def encode : Bytes → List Char
  | [] => []
  | [a] =>
    let n := a.toNat
    [symbol (n / 4), symbol (n % 4 * 16), '=', '=']
  | [a, b] =>
    let n := a.toNat * 256 + b.toNat
    [symbol (n / 1024), symbol (n / 16 % 64), symbol (n % 16 * 4), '=']
  | a :: b :: c :: rest =>
    let n := a.toNat * 65536 + b.toNat * 256 + c.toNat
    symbol (n / 262144) :: symbol (n / 4096 % 64) :: symbol (n / 64 % 64) :: symbol (n % 64)
      :: encode rest

/-- The bytes of a text of whole groups, the last of which may be padded. -/
def decode? : List Char → Option Bytes
  | [] => some []
  | [w, x, '=', '='] => do
    let p ← value? w
    let q ← value? x
    if q % 16 = 0 then some [UInt8.ofNat (p * 4 + q / 16)] else none
  | [w, x, y, '='] => do
    let p ← value? w
    let q ← value? x
    let r ← value? y
    let n := p * 1024 + q * 16 + r / 4
    if r % 4 = 0 then some [UInt8.ofNat (n / 256), UInt8.ofNat (n % 256)] else none
  | w :: x :: y :: z :: rest => do
    let p ← value? w
    let q ← value? x
    let r ← value? y
    let s ← value? z
    let n := p * 262144 + q * 4096 + r * 64 + s
    let bytes ← decode? rest
    some (UInt8.ofNat (n / 65536) :: UInt8.ofNat (n / 256 % 256) :: UInt8.ofNat (n % 256) :: bytes)
  | _ => none

end Base64

end WalletTrust

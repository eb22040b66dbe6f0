import WalletTrust.Cipher.Words

/-!
# AES-256

The block cipher, in the direction that encrypts. Counter mode needs no other.

A block is sixteen bytes, read as four columns of four. Each of the fourteen rounds substitutes
every byte, turns the rows, mixes each column and adds a round key; the last round does not mix.
The substitution is the inverse in the field of 256 elements followed by an affine map, and is
tabulated once from that rule.

## Main definitions

* `Aes.schedule`: The round keys of a key.
* `Aes.encrypt`: A block under round keys.
-/

namespace WalletTrust

namespace Aes

/-- Multiplication by the root of the field's polynomial. -/
def double (b : UInt8) : UInt8 :=
  if b < 128 then b <<< 1 else (b <<< 1) ^^^ 0x1b

/-- The product in the field of 256 elements. -/
def mul (a b : UInt8) : UInt8 :=
  ((List.range 8).foldl
    (fun (sum, power) i => (if a.toNat.testBit i then sum ^^^ power else sum, double power))
    ((0 : UInt8), b)).1

/-- The inverse in the field: the 254th power, which takes zero to zero. -/
def inverse (b : UInt8) : UInt8 :=
  let squares := (List.range 7).foldl
    (fun (product, power) _ =>
      let next := mul power power
      (mul product next, next))
    ((1 : UInt8), b)
  squares.1

/-- A byte with its bits turned to the left. -/
def rotateLeft (b : UInt8) (n : UInt8) : UInt8 :=
  (b <<< n) ||| (b >>> (8 - n))

def substituteByRule (b : UInt8) : UInt8 :=
  let i := inverse b
  i ^^^ rotateLeft i 1 ^^^ rotateLeft i 2 ^^^ rotateLeft i 3 ^^^ rotateLeft i 4 ^^^ 0x63

def substitutions : Array UInt8 :=
  (Array.range 256).map fun n => substituteByRule (UInt8.ofNat n)

/-- The substitution of a byte, looked up. -/
def substitute (b : UInt8) : UInt8 :=
  substitutions.getD b.toNat 0

/-- The words of the key schedule after the first eight, with the last eight at hand. `index` is the
number of the next word and `factor` the constant of the next key length. -/
def expand : Nat → Nat → UInt8 → List Bytes → List Bytes
  | 0, _, _, _ => []
  | count + 1, index, factor, window =>
    let previous := window.getD 7 []
    let stirred :=
      if index % 8 = 0 then
        match (previous.drop 1 ++ previous.take 1).map substitute with
        | first :: rest => (first ^^^ factor) :: rest
        | [] => []
      else if index % 8 = 4 then previous.map substitute
      else previous
    let word := Bytes.xor (window.getD 0 []) stirred
    let factor' := if index % 8 = 0 then double factor else factor
    word :: expand count (index + 1) factor' (window.drop 1 ++ [word])

/-- The fifteen round keys of a key of thirty-two bytes. -/
def schedule (key : Bytes) : List Bytes :=
  let first := Bytes.blocks 4 key
  Bytes.blocks 16 (first ++ expand 52 8 1 first).flatten

/-- Turn row `r` of the columns by `r` places. -/
def shiftRows (block : Bytes) : Bytes :=
  (List.range 16).map fun i => block.getD ((i + 4 * (i % 4)) % 16) 0

def mixColumn : Bytes → Bytes
  | [a, b, c, d] =>
    let all := a ^^^ b ^^^ c ^^^ d
    [a ^^^ all ^^^ double (a ^^^ b), b ^^^ all ^^^ double (b ^^^ c),
     c ^^^ all ^^^ double (c ^^^ d), d ^^^ all ^^^ double (d ^^^ a)]
  | column => column

/-- The rounds after the first key has been added. -/
def rounds : List Bytes → Bytes → Bytes
  | [], block => block
  | [last], block => Bytes.xor (shiftRows (block.map substitute)) last
  | key :: rest, block =>
    let mixed := ((Bytes.blocks 4 (shiftRows (block.map substitute))).map mixColumn).flatten
    rounds rest (Bytes.xor mixed key)

/-- A block under round keys. -/
def encrypt (keys : List Bytes) (block : Bytes) : Bytes :=
  match keys with
  | [] => block
  | first :: rest => rounds rest (Bytes.xor block first)

end Aes

end WalletTrust

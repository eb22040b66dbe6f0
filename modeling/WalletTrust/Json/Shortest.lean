import WalletTrust.Json.Binary
import WalletTrust.Json.Value

/-!
# Shortest Decimals

The decimal that stands for a number of double precision.

It has the fewest digits that still round to the number, and of several such decimals it is the
nearest to it. All comparisons are between natural numbers, so nothing is rounded on the way.

## Main definitions

* `Binary.shortest`: The digits and the power of ten of the decimal with the fewest digits.
* `Binary.toDecimal`: That decimal, with a sign.
* `Decimal.text`: The text of a decimal.
-/

namespace WalletTrust

namespace Binary

/-- Search the grids of tens from `10 ^ power` downwards for a decimal within the limits. The limits
and the value itself are in quarters of the last binary place. -/
def search (low value high : Nat) (closed : Bool) (place : Nat × Nat) :
    Nat → Int → Nat × Int
  | 0, power => (0, power)
  | fuel + 1, power =>
    let (a, b) := powerFraction 10 power
    -- A quarter is `s / t` steps of the grid.
    let s := place.1 * b
    let t := place.2 * a
    let inside (c : Nat) : Bool :=
      if closed then low * s ≤ c * t ∧ c * t ≤ high * s else low * s < c * t ∧ c * t < high * s
    let below := value * s / t
    let above := below + 1
    match inside below, inside above with
    | true, true =>
      let down := value * s - below * t
      let up := above * t - value * s
      (if down < up then below else if up < down then above else below + below % 2, power)
    | true, false => (below, power)
    | false, true => (above, power)
    | false, false => search low value high closed place fuel (power - 1)

/-- The decimal with the fewest digits that rounds to a number which is not zero, as its digits and
a power of ten. The number next below a power of two is only half as far away as the one next
above. -/
def shortest (x : Binary) : Nat × Int :=
  let narrow := x.mantissa = leastFull ∧ leastExponent < x.exponent
  let value := 4 * x.mantissa
  let low := if narrow then value - 1 else value - 2
  let size := Int.ofNat value.log2 + x.exponent - 1
  -- Three tenths is nearly the logarithm of two; seventeen digits always suffice.
  search low value (value + 2) (x.mantissa % 2 = 0) (powerFraction 2 (x.exponent - 2)) 40
    (size * 30103 / 100000 + 2)

/-- The shortest decimal of a number. -/
def toDecimal (negative : Bool) (x : Binary) : Decimal :=
  if x.mantissa = 0 then ⟨negative, 0, 0⟩ else ⟨negative, x.shortest.1, x.shortest.2⟩

end Binary

namespace Decimal

/-- The exponent of a decimal after its mark, always with a sign. -/
def exponentText (exponent : Int) : List Char :=
  (if exponent < 0 then '-' else '+') :: Nat.toDigits 10 exponent.natAbs

/-- A decimal of some digits, the last of which stands for `10 ^ power`. Up to sixteen places before
the point and four zeros behind it are written out. -/
def layout (digits : List Char) (power : Int) : List Char :=
  let point := Int.ofNat digits.length + power
  if 0 ≤ power ∧ point ≤ 16 then digits ++ List.replicate power.toNat '0' ++ ['.', '0']
  else if 0 < point ∧ point ≤ 16 then
    digits.take point.toNat ++ '.' :: digits.drop point.toNat
  else if -5 < point ∧ point ≤ 0 then
    '0' :: '.' :: List.replicate (-point).toNat '0' ++ digits
  else
    let fraction :=
      match digits.drop 1 with
      | [] => []
      | rest => '.' :: rest
    digits.take 1 ++ fraction ++ 'e' :: exponentText (point - 1)

def text (d : Decimal) : String :=
  let magnitude :=
    if d.coefficient = 0 then ['0', '.', '0']
    else layout (Nat.toDigits 10 d.coefficient) d.exponent
  String.ofList (if d.negative then '-' :: magnitude else magnitude)

end Decimal

end WalletTrust

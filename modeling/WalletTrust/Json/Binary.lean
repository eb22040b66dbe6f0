/-!
# Double Precision

Numbers of double precision, and the arithmetic that gives the value of a decimal.

A result that needs more bits than there are is rounded to the nearest number, an exact half to the
even mantissa. Exact values are fractions of natural numbers, so nothing else is rounded.

The value of a decimal is taken in two steps: its digits make a number, and that is multiplied or
divided by a power of ten. Each step rounds, so the value may lie one place beside the number that
is nearest to the decimal. Sender and receiver agree on a number only if they take the same steps.

## Main definitions

* `Binary`: A number of double precision, as a mantissa and a power of two.
* `Binary.nearest`: The number nearest to a fraction.
* `Binary.mul`, `Binary.div`: Products and quotients.
* `Binary.ofDecimal?`: The value of a decimal, if it is not too great.
-/

namespace WalletTrust

/-- The number `mantissa · 2 ^ exponent`. -/
structure Binary where
  mantissa : Nat
  exponent : Int
deriving DecidableEq, Repr, Inhabited

/-- A quotient rounded to the nearest whole number, an exact half to the even one. -/
def roundedQuotient (n d : Nat) : Nat :=
  let q := n / d
  let r := n % d
  if 2 * r < d then q
  else if d < 2 * r then q + 1
  else q + q % 2

/-- The numerator and the denominator of a power. -/
def powerFraction (base : Nat) (exponent : Int) : Nat × Nat :=
  if 0 ≤ exponent then (base.pow exponent.toNat, 1) else (1, base.pow (-exponent).toNat)

namespace Binary

def precision : Nat := 53

/-- The least exponent. Numbers so small that they would need a lesser one have fewer bits. -/
def leastExponent : Int := -1074

def greatestExponent : Int := 971

/-- The least mantissa that fills all bits. -/
def leastFull : Nat := Nat.pow 2 (precision - 1)

/-- The number nearest to the fraction `n / d`. Its exponent has no upper limit yet. -/
def nearest (n d : Nat) : Binary :=
  if n = 0 then ⟨0, leastExponent⟩
  else
    let guess : Int := Int.ofNat n.log2 - Int.ofNat d.log2
    let (a, b) := powerFraction 2 guess
    -- The greatest power of two that is not above the fraction is the guess or one below it.
    let top := if a * d ≤ b * n then guess else guess - 1
    let exponent := max (top + 1 - precision) leastExponent
    let (a, b) := powerFraction 2 exponent
    let mantissa := roundedQuotient (n * b) (d * a)
    if mantissa = 2 * leastFull then ⟨leastFull, exponent + 1⟩ else ⟨mantissa, exponent⟩

def mul (x y : Binary) : Binary :=
  let (a, b) := powerFraction 2 (x.exponent + y.exponent)
  nearest (x.mantissa * y.mantissa * a) b

/-- The quotient of two numbers, the second of which is not zero. -/
def div (x y : Binary) : Binary :=
  let (a, b) := powerFraction 2 (x.exponent - y.exponent)
  nearest (x.mantissa * a) (y.mantissa * b)

/-- Whether a number is not too great for double precision. -/
def isFinite (x : Binary) : Bool :=
  x.exponent ≤ greatestExponent

/-- The places of the greatest power of ten that is not too great. -/
def greatestTen : Nat := 308

/-- The number nearest to a power of ten. -/
def ten (places : Nat) : Binary :=
  nearest (Nat.pow 10 places) 1

/-- A number divided by a power of ten. Where that power is too great, the division takes several
steps, and stops at zero. -/
def divTens (x : Binary) (places : Nat) : Binary :=
  if x.mantissa = 0 then x
  else if places ≤ greatestTen then x.div (ten places)
  else divTens (x.div (ten greatestTen)) (places - greatestTen)
termination_by places
decreasing_by
  unfold greatestTen at *
  omega

/-- The value of `digits · 10 ^ power`, if it is not too great. A power of ten that is too great by
itself makes it so. -/
def ofDecimal? (digits : Nat) (power : Int) : Option Binary :=
  let x := nearest digits 1
  if x.mantissa = 0 then some x
  else if power < 0 then some (x.divTens (-power).toNat)
  else if power ≤ greatestTen then
    let y := x.mul (ten power.toNat)
    if y.isFinite then some y else none
  else none

end Binary

end WalletTrust

import WalletTrust.Json.Wire
import WalletTrust.Text.Blank

/-!
# Field Elements

Elements of the proof system's field, as pages write them.

A page writes an element in decimal, or in hexadecimal after `0x` or `0X`, as a string or as a
number. The text is kept as it was written and the prover makes of it what it can; the wallet itself
asks only whether an element is zero, and answers that from the digits without computing the number.

## Main definitions

* `FieldElement`: An element as a text.
* `FieldElement.isZero`: Whether it is zero.
-/

namespace WalletTrust

/-- A field element as it was written. -/
structure FieldElement where
  text : String
deriving DecidableEq, Repr, Inhabited

namespace FieldElement

/-- The digits of a text of characters, without the mark of hexadecimal. -/
def digits : List Char → List Char
  | '0' :: 'x' :: rest => rest
  | '0' :: 'X' :: rest => rest
  | cs => cs

/-- Whether every digit is zero. An element without digits counts as zero. -/
def isZero (e : FieldElement) : Bool :=
  (digits (trimChars e.text.toList)).all fun c => c = '0'

/-- The element that a number writes. -/
def ofNat (n : Nat) : FieldElement :=
  ⟨String.ofList (Nat.toDigits 10 n)⟩

end FieldElement

/-- An element travels as its text and is also accepted as a whole number. -/
instance : Wire FieldElement where
  toJson e := .str e.text
  ofJson?
    | .str s => some ⟨s⟩
    | j => (j.below? UInt64.size).map .ofNat

end WalletTrust

/-!
# Blanks

The white space of the Unicode standard, and texts without it at either end.

Sealed texts and field elements come from files, forms and pages, so blanks around them carry no
meaning. Which characters are blank is the standard's property `White_Space`, twenty-five characters
in all, and not only the blanks of ASCII.

## Main definitions

* `isBlank`: The property.
* `trim`: A text without the blanks at its ends.
-/

namespace WalletTrust

/-- The characters with the property `White_Space`. -/
def isBlank (c : Char) : Bool :=
  let n := c.toNat
  (0x09 ≤ n && n ≤ 0x0D) || n = 0x20 || n = 0x85 || n = 0xA0 || n = 0x1680
    || (0x2000 ≤ n && n ≤ 0x200A) || n = 0x2028 || n = 0x2029 || n = 0x202F || n = 0x205F
    || n = 0x3000

/-- The characters left when the blanks at both ends are dropped. -/
def trimChars (cs : List Char) : List Char :=
  ((cs.dropWhile isBlank).reverse.dropWhile isBlank).reverse

/-- A text without the blanks at its ends. -/
def trim (s : String) : String :=
  String.ofList (trimChars s.toList)

end WalletTrust

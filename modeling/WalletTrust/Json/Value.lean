import WalletTrust.Assoc

/-!
# JSON Values

The values of JSON, as the wallet tells them apart.

Whole numbers that a machine word holds are kept exactly. Any other number is a `Decimal`: the
shortest one of a number of double precision. No arithmetic is done on it, and it is never taken for
a whole number, however it was spelled.

An object keeps its members as they were written, so that a reader can see a repeated name. Where a
value is handed on as data, repetition and order no longer matter, and `Json.canonical` settles
them: names ascend, and of several members of one name the last counts.

## Main definitions

* `Decimal`: A number as a sign, digits and an exponent.
* `Json`: The values.
* `Json.canonical`: A value with the members of its objects in order and without repetition.
* `Json.member?`: The member of an object with a given name.
-/

namespace WalletTrust

/-- The number `± coefficient · 10 ^ exponent`. -/
structure Decimal where
  negative : Bool
  coefficient : Nat
  exponent : Int
deriving DecidableEq, Repr, Inhabited

/-- A JSON value. `unreadable` stands for a value whose text is well formed but names no value: a
string in which half of a surrogate pair stands alone, or a number too great for double precision.
Such a value may be skipped, but nothing can be made of it. -/
inductive Json where
  | null
  | bool (b : Bool)
  | int (n : Int)
  | decimal (d : Decimal)
  | str (s : String)
  | arr (items : List Json)
  | obj (members : List (String × Json))
  | unreadable
deriving Repr, BEq, Inhabited

namespace Json

mutual

/-- A value with the members of its objects in order and without repetition. -/
def canonical : Json → Json
  | .arr items => .arr (canonicalItems items)
  | .obj members => .obj (canonicalMembers [] members)
  | j => j

/-- The items of an array, one by one. -/
def canonicalItems : List Json → List Json
  | [] => []
  | j :: rest => canonical j :: canonicalItems rest

/-- Later members replace earlier ones of the same name. -/
def canonicalMembers (settled : List (String × Json)) :
    List (String × Json) → List (String × Json)
  | [] => settled
  | (name, j) :: rest => canonicalMembers (Assoc.insert name (canonical j) settled) rest

end

/-- The member of an object with a given name. -/
def member? (name : String) : Json → Option Json
  | .obj members => Assoc.lookup name members
  | _ => none

end Json

end WalletTrust

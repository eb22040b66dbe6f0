import WalletTrust.Op
import WalletTrust.Json.Wire

/-!
# Identities

The identities a wallet holds, as far as the trust decisions need them.

An identity has a public commitment, a display name and a secret serialized form. A page learns the
name when it is connected and the commitment when the user reveals it. The confirmation window may
show both. The serialized form goes to the prover and nowhere else, which is why the public part is
a type of its own.

## Main definitions

* `Identity`, `PublicIdentity`: An identity, and the part of it that may be shown.
* `IdentityBook`: The identities of a wallet, with the one that is selected.
-/

namespace WalletTrust

structure Identity where
  commitment : String
  name : String
  serialized : String
deriving DecidableEq, Repr, Inhabited

/-- The part of an identity that may be shown to the user. -/
structure PublicIdentity where
  commitment : String
  name : String
deriving DecidableEq, Repr, Inhabited

/-- The part of an identity that may be shown. -/
def Identity.publicPart (i : Identity) : PublicIdentity :=
  { commitment := i.commitment, name := i.name }

instance : Wire PublicIdentity where
  toJson i := .obj [("commitment", toJson i.commitment), ("name", toJson i.name)]
  ofJson? j := do
    let r ← j.record? ["commitment", "name"] 0
    return { commitment := ← r.required "commitment", name := ← r.required "name" }

/-- The identities of a wallet. While it is not available, every lookup fails. -/
structure IdentityBook where
  identities : List Identity := []
  selected : Option String := none
  available : Bool := true
deriving DecidableEq, Repr, Inhabited

namespace IdentityBook

def find? (b : IdentityBook) (commitment : String) : Option Identity :=
  b.identities.find? fun i => i.commitment = commitment

/-- Add an identity, in place of any with the same commitment. -/
def insert (b : IdentityBook) (i : Identity) : IdentityBook :=
  { b with identities := i :: b.identities.filter fun k => k.commitment ≠ i.commitment }

/-- Select the identity with a commitment, or none. -/
def select (b : IdentityBook) (commitment : Option String) : IdentityBook :=
  { b with selected := commitment }

def lookup (b : IdentityBook) (commitment : String) : Except Error (Option Identity) :=
  if b.available then .ok (b.find? commitment)
  else .error (.internal "identity store unavailable")

def lookupSelected (b : IdentityBook) : Except Error (Option Identity) :=
  if b.available then .ok (b.selected.bind b.find?)
  else .error (.internal "identity store unavailable")

end IdentityBook

end WalletTrust

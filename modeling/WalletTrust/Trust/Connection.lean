import WalletTrust.Json.Wire

/-!
# Connections

Which identity an origin is connected to.

An origin is connected to at most one identity. Of the identity its commitment is kept, to find it
again, and the name it had when the origin was connected.

## Main definitions

* `ConnectedIdentity`: What is kept for a connected origin.
* `Connection`: An origin with what is kept for it.
* `IdentityChoice`: The user's choice of an identity for an origin.
-/

namespace WalletTrust

/-- What is kept for a connected origin. -/
structure ConnectedIdentity where
  commitment : String
  name : String
deriving DecidableEq, Repr, Inhabited

structure Connection where
  origin : String
  commitment : String
  name : String
deriving DecidableEq, Repr, Inhabited

/-- The connection of an origin to an identity. -/
def Connection.of (origin : String) (identity : ConnectedIdentity) : Connection :=
  { origin, commitment := identity.commitment, name := identity.name }

/-- The user's choice of an identity. Without a commitment it is the selected one. -/
structure IdentityChoice where
  commitment : Option String := none
deriving DecidableEq, Repr, Inhabited

instance : Wire ConnectedIdentity where
  toJson c := .obj [("commitment", toJson c.commitment), ("name", toJson c.name)]
  ofJson? j := do
    let r ← j.record? ["commitment", "name"] 0
    return { commitment := ← r.required "commitment", name := ← r.required "name" }

instance : Wire Connection where
  toJson c :=
    .obj [("origin", toJson c.origin), ("commitment", toJson c.commitment), ("name", toJson c.name)]
  ofJson? j := do
    let r ← j.record? ["origin", "commitment", "name"] 0
    return {
      origin := ← r.required "origin"
      commitment := ← r.required "commitment"
      name := ← r.required "name" }

instance : Wire IdentityChoice where
  toJson c := .obj [("commitment", toJson c.commitment)]
  ofJson? j := do
    let r ← j.record? ["commitment"] 1
    return { commitment := ← r.optional "commitment" }

end WalletTrust

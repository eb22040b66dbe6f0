import WalletTrust.Json.Wire

/-!
# Approvals

What the user has allowed an origin.

An origin is either approved or unknown. An approval carries one flag: whether the proof requests of
the origin skip the confirmation window.

## Main definitions

* `HostPermission`: The flag that is kept for an approved origin.
* `ApprovalEntry`: An origin with its flag.
-/

namespace WalletTrust

/-- What is kept for an approved origin. -/
structure HostPermission where
  /-- Proof requests of the origin skip the confirmation window. -/
  canSkipApprove : Bool := false
deriving DecidableEq, Repr, Inhabited

structure ApprovalEntry where
  origin : String
  canSkipApprove : Bool
deriving DecidableEq, Repr, Inhabited

/-- The flag is off where it is missing. -/
instance : Wire HostPermission where
  toJson p := .obj [("canSkipApprove", toJson p.canSkipApprove)]
  ofJson? j := do
    let r ← j.record? ["canSkipApprove"] 1
    return { canSkipApprove := ← r.default "canSkipApprove" false }

instance : Wire ApprovalEntry where
  toJson e := .obj [("origin", toJson e.origin), ("canSkipApprove", toJson e.canSkipApprove)]
  ofJson? j := do
    let r ← j.record? ["origin", "canSkipApprove"] 0
    return { origin := ← r.required "origin", canSkipApprove := ← r.required "canSkipApprove" }

end WalletTrust

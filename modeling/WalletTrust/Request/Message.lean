import WalletTrust.Request.Pending

/-!
# Messages to Pages and Surfaces

What the wallet tells the page of an origin, and what it tells its own open windows.

A page is told the name of the identity it is connected to, that it is connected no longer, and,
once the user has agreed, the commitment. Open windows are told whether the session is unlocked and
which requests wait.

## Main definitions

* `SessionStatus`: The state of the lock, as windows show it.
* `PageEvent`: What a page is told.
* `ExtensionMessage`: What open windows are told.
-/

namespace WalletTrust

/-- The state of the lock, as windows show it. -/
structure SessionStatus where
  isInitialized : Bool
  isUnlocked : Bool
deriving DecidableEq, Repr, Inhabited

/-- What the page of an origin is told. -/
inductive PageEvent where
  | connect (name : String)
  | disconnect
  | revealCommitment (commitment : String)
deriving DecidableEq, Repr, Inhabited

/-- What every open window of the wallet is told. -/
inductive ExtensionMessage where
  | sessionStatus (status : SessionStatus)
  | pendingRequests (queue : List PendingRequest)
deriving Inhabited

instance : Wire SessionStatus where
  toJson s :=
    .obj [("isInitialized", toJson s.isInitialized), ("isUnlocked", toJson s.isUnlocked)]
  ofJson? j := do
    let r ← j.record? ["isInitialized", "isUnlocked"] 0
    return {
      isInitialized := ← r.required "isInitialized"
      isUnlocked := ← r.required "isUnlocked" }

instance : Wire PageEvent where
  toJson
    | .connect name => .obj [("type", .str "CONNECT"), ("payload", .obj [("name", toJson name)])]
    | .disconnect => .obj [("type", .str "DISCONNECT")]
    | .revealCommitment commitment =>
      .obj [("type", .str "REVEAL_COMMITMENT"),
        ("payload", .obj [("commitment", toJson commitment)])]
  ofJson? j := do
    match ← j.tagged? .direct "type" "payload" ["CONNECT", "DISCONNECT", "REVEAL_COMMITMENT"] with
    | ("CONNECT", _, some content) =>
      let r ← content.openRecord? ["name"]
      return .connect (← r.required "name")
    | ("DISCONNECT", _, none) => return .disconnect
    | ("DISCONNECT", _, some .null) => return .disconnect
    | ("REVEAL_COMMITMENT", _, some content) =>
      let r ← content.openRecord? ["commitment"]
      return .revealCommitment (← r.required "commitment")
    | _ => none

instance : Wire ExtensionMessage where
  toJson
    | .sessionStatus status => .obj [("type", .str "SESSION_STATUS"), ("payload", toJson status)]
    | .pendingRequests queue => .obj [("type", .str "PENDING_REQUESTS"), ("payload", toJson queue)]
  ofJson? j := do
    match ← j.tagged? .direct "type" "payload" ["SESSION_STATUS", "PENDING_REQUESTS"] with
    | ("SESSION_STATUS", _, some content) => return .sessionStatus (← Wire.ofJson? content)
    | ("PENDING_REQUESTS", reading, some content) =>
      return .pendingRequests (← content.listWith? (PendingRequest.ofJson? reading))
    | _ => none

end WalletTrust

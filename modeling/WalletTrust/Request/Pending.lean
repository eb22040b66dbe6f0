import WalletTrust.Op
import WalletTrust.Json.Wire

/-!
# Requests to the User

Questions that wait for the user, and the user's decisions on them.

## Main definitions

* `RequestKind`: What is asked.
* `PendingRequest`: A question with the data shown beside it.
* `Decision`: What the user decided.
* `Decision.outcome`: What the asker is told about a decision.
* `FinalizeRequest`: A decision on a question, as the confirmation window sends it.
-/

namespace WalletTrust

/-- What is asked; it selects the confirmation screen. -/
inductive RequestKind where
  | approve
  | connectIdentity
  | semaphoreProof
  | rlnProof
  /-- Reveal the commitment of the connected identity to an origin. -/
  | revealCommitment
deriving DecidableEq, Repr, Inhabited

/-- A question that waits for the user. -/
structure PendingRequest where
  id : UInt64
  kind : RequestKind
  payload : Json
deriving Inhabited

/-- What the user decided. -/
inductive Decision where
  | accept
  | reject
  /-- Anything else that the confirmation window sent. -/
  | other (status : String)
deriving DecidableEq, Repr, Inhabited

/-- A decision on the question with a given number. -/
structure FinalizeRequest where
  id : UInt64
  status : Decision
  data : Option Json := none
deriving Inhabited

namespace Decision

def word : Decision → String
  | .accept => "ACCEPT"
  | .reject => "REJECT"
  | .other status => status

/-- The decision that a word stands for. -/
def ofWord (word : String) : Decision :=
  if word = "ACCEPT" then .accept
  else if word = "REJECT" then .reject
  else .other word

/-- What the asker is told: the data that came with an acceptance, or why there is none. -/
def outcome (data : Option Json) : Decision → Except Error Json
  | .accept => .ok (data.getD .null)
  | .reject => .error .userRejected
  | .other status => .error (.unsupportedAction status)

end Decision

/-- The kind that a value is taken for. -/
def RequestKind.ofJson? (reading : Reading) (j : Json) : Option RequestKind :=
  match j.variant? reading with
  | some "APPROVE" => some .approve
  | some "CONNECT_IDENTITY" => some .connectIdentity
  | some "SEMAPHORE_PROOF" => some .semaphoreProof
  | some "RLN_PROOF" => some .rlnProof
  | some "REVEAL_COMMITMENT" => some .revealCommitment
  | _ => none

instance : Wire RequestKind where
  toJson
    | .approve => .str "APPROVE"
    | .connectIdentity => .str "CONNECT_IDENTITY"
    | .semaphoreProof => .str "SEMAPHORE_PROOF"
    | .rlnProof => .str "RLN_PROOF"
    | .revealCommitment => .str "REVEAL_COMMITMENT"
  ofJson? := RequestKind.ofJson? .direct

/-- The question that a value is taken for. -/
def PendingRequest.ofJson? (reading : Reading) (j : Json) : Option PendingRequest := do
  let r ← j.record? ["id", "type", "payload"] 0
  return {
    id := ← r.required "id"
    kind := ← r.requiredWith (RequestKind.ofJson? reading) "type"
    payload := ← r.required "payload" }

instance : Wire PendingRequest where
  toJson p := .obj [("id", toJson p.id), ("type", toJson p.kind), ("payload", p.payload)]
  ofJson? := PendingRequest.ofJson? .direct

/-- A decision travels as its word. -/
instance : Wire Decision where
  toJson d := .str d.word
  ofJson?
    | .str word => some (.ofWord word)
    | _ => none

instance : Wire FinalizeRequest where
  toJson f :=
    .obj ([("id", toJson f.id), ("status", toJson f.status)] ++ Record.ofOption "data" f.data)
  ofJson? j := do
    let r ← j.record? ["id", "status", "data"] 1
    return {
      id := ← r.required "id"
      status := ← r.required "status"
      data := ← r.optional "data" }

end WalletTrust

import WalletTrust.Proof.Artifacts
import WalletTrust.Proof.Membership

/-!
# Proof Jobs

A page's request for a proof, the job that a prover gets, and the proof it returns.

A request becomes a job once everything it needs is at hand: the membership data, the circuit and
keys, the origin, and the serialized identity. What the user is shown is the same job without the
identity, so the user confirms exactly what is then computed.

The two proof systems differ in what is requested and in what is returned, and a proof of one system
is never taken for a proof of the other.

## Main definitions

* `SemaphoreRequest`, `RlnRequest`, `ProofRequest`: What pages ask for.
* `Prepared`: A request with everything it needs.
* `ProofJob`: A prepared request of either system.
* `FullProof`, `RlnProof`, `ProofOutput`: What provers return.
* `ProofOutput.ofKind`: A proof, if it is of the system that was asked for.
-/

namespace WalletTrust

structure SemaphoreRequest where
  externalNullifier : String
  signal : String
  merkle : MerkleFields
deriving Inhabited

structure RlnRequest where
  rlnIdentifier : String
  /-- The message that is being rate limited. -/
  message : String
  epoch : String
  /-- How many messages an epoch allows. -/
  messageLimit : UInt64
  /-- The number of this message within its epoch. -/
  messageId : UInt64
  merkle : MerkleFields
deriving Inhabited

/-- A request for a proof of either system. -/
inductive ProofRequest where
  | semaphore (request : SemaphoreRequest)
  | rln (request : RlnRequest)
deriving Inhabited

/-- A request with everything that a prover needs. -/
structure Prepared (ρ : Type) where
  request : ρ
  source : MerkleSource
  /-- The serialized identity; absent from whatever the user is shown. -/
  identity : Option String
  artifacts : ArtifactPaths
  origin : String
deriving Inhabited

/-- A prepared request of either system. -/
inductive ProofJob where
  | semaphore (prepared : Prepared SemaphoreRequest)
  | rln (prepared : Prepared RlnRequest)
deriving Inhabited

structure FullProof where
  proof : Json
  publicSignals : List String
deriving Inhabited

/-- A rate-limiting nullifier proof. -/
structure RlnProof where
  snarkProof : FullProof
  epoch : String
  rlnIdentifier : String
deriving Inhabited

/-- What a prover returns. -/
inductive ProofOutput where
  | semaphore (proof : FullProof)
  | rln (proof : RlnProof)
deriving Inhabited

/-- What an isolated context answers. -/
inductive SandboxMessage where
  | result (output : ProofOutput)
  | error (message : String)
deriving Inhabited

instance : Fields SemaphoreRequest where
  names := ["externalNullifier", "signal"] ++ Fields.names MerkleFields
  toRecord q :=
    [("externalNullifier", toJson q.externalNullifier), ("signal", toJson q.signal)]
      ++ Fields.toRecord q.merkle
  ofRecord? r := do
    return {
      externalNullifier := ← r.required "externalNullifier"
      signal := ← r.required "signal"
      merkle := ← Fields.ofRecord? r }

instance : Fields RlnRequest where
  names :=
    ["rlnIdentifier", "message", "epoch", "messageLimit", "messageId"] ++ Fields.names MerkleFields
  toRecord q :=
    [("rlnIdentifier", toJson q.rlnIdentifier), ("message", toJson q.message),
      ("epoch", toJson q.epoch), ("messageLimit", toJson q.messageLimit),
      ("messageId", toJson q.messageId)]
      ++ Fields.toRecord q.merkle
  ofRecord? r := do
    return {
      rlnIdentifier := ← r.required "rlnIdentifier"
      message := ← r.required "message"
      epoch := ← r.required "epoch"
      messageLimit := ← r.required "messageLimit"
      messageId := ← r.required "messageId"
      merkle := ← Fields.ofRecord? r }

instance : Wire SemaphoreRequest := Wire.ofOpenFields SemaphoreRequest

instance : Wire RlnRequest := Wire.ofOpenFields RlnRequest

/-- The fields of the request and of the artifacts are merged into the prepared request. -/
instance {ρ : Type} [Fields ρ] : Fields (Prepared ρ) where
  names :=
    Fields.names ρ ++ ["merkleProofSource", "identitySerialized"] ++ Fields.names ArtifactPaths
      ++ ["urlOrigin"]
  toRecord p :=
    Fields.toRecord p.request ++ [("merkleProofSource", toJson p.source)]
      ++ Record.ofOption "identitySerialized" p.identity ++ Fields.toRecord p.artifacts
      ++ [("urlOrigin", toJson p.origin)]
  ofRecord? r := do
    return {
      request := ← Fields.ofRecord? r
      source := ← r.required "merkleProofSource"
      identity := ← r.optional "identitySerialized"
      artifacts := ← Fields.ofRecord? r
      origin := ← r.required "urlOrigin" }

instance {ρ : Type} [Fields ρ] : Wire (Prepared ρ) := Wire.ofOpenFields (Prepared ρ)

instance : Wire FullProof where
  toJson p := .obj [("proof", p.proof), ("publicSignals", toJson p.publicSignals)]
  ofJson? j := do
    let r ← j.record? ["proof", "publicSignals"] 0
    return { proof := ← r.required "proof", publicSignals := ← r.required "publicSignals" }

instance : Wire RlnProof where
  toJson p :=
    .obj [("snarkProof", toJson p.snarkProof), ("epoch", toJson p.epoch),
      ("rlnIdentifier", toJson p.rlnIdentifier)]
  ofJson? j := do
    let r ← j.record? ["snarkProof", "epoch", "rlnIdentifier"] 0
    return {
      snarkProof := ← r.required "snarkProof"
      epoch := ← r.required "epoch"
      rlnIdentifier := ← r.required "rlnIdentifier" }

instance : Wire ProofJob where
  toJson
    | .semaphore p => .obj [("type", .str "SEMAPHORE"), ("request", toJson p)]
    | .rln p => .obj [("type", .str "RLN"), ("request", toJson p)]
  ofJson? j := do
    match ← j.tagged? .direct "type" "request" ["SEMAPHORE", "RLN"] with
    | ("SEMAPHORE", _, some content) => return .semaphore (← Wire.ofJson? content)
    | ("RLN", _, some content) => return .rln (← Wire.ofJson? content)
    | _ => none

/-- The proof that a value is taken for. -/
def ProofOutput.ofJson? (reading : Reading) (j : Json) : Option ProofOutput := do
  match ← j.tagged? reading "type" "proof" ["SEMAPHORE", "RLN"] with
  | ("SEMAPHORE", _, some content) => return .semaphore (← Wire.ofJson? content)
  | ("RLN", _, some content) => return .rln (← Wire.ofJson? content)
  | _ => none

instance : Wire ProofOutput where
  toJson
    | .semaphore p => .obj [("type", .str "SEMAPHORE"), ("proof", toJson p)]
    | .rln p => .obj [("type", .str "RLN"), ("proof", toJson p)]
  ofJson? := ProofOutput.ofJson? .direct

instance : Wire SandboxMessage where
  toJson
    | .result output => .obj [("type", .str "RESULT"), ("payload", toJson output)]
    | .error message => .obj [("type", .str "ERROR"), ("payload", toJson message)]
  ofJson? j := do
    match ← j.tagged? .direct "type" "payload" ["RESULT", "ERROR"] with
    | ("RESULT", reading, some content) => return .result (← ProofOutput.ofJson? reading content)
    | ("ERROR", _, some content) => return .error (← Wire.ofJson? content)
    | _ => none

/-- A prepared request as the user is shown it. -/
def Prepared.withoutIdentity {ρ : Type} (p : Prepared ρ) : Prepared ρ :=
  { p with identity := none }

namespace ProofRequest

def kind : ProofRequest → ProofKind
  | .semaphore _ => .semaphore
  | .rln _ => .rln

def merkle : ProofRequest → MerkleFields
  | .semaphore q => q.merkle
  | .rln q => q.merkle

/-- The job of a request, once everything it needs is known. -/
def job (request : ProofRequest) (source : MerkleSource) (identity : Option String)
    (artifacts : ArtifactPaths) (origin : String) : ProofJob :=
  match request with
  | .semaphore request => .semaphore { request, source, identity, artifacts, origin }
  | .rln request => .rln { request, source, identity, artifacts, origin }

/-- Decode a request for a proof of a given system. -/
def decode (kind : ProofKind) (j : Json) : Except Error ProofRequest :=
  match kind with
  | .semaphore => (Wire.decode j).map .semaphore
  | .rln => (Wire.decode j).map .rln

end ProofRequest

namespace ProofJob

def kind : ProofJob → ProofKind
  | .semaphore _ => .semaphore
  | .rln _ => .rln

def origin : ProofJob → String
  | .semaphore p => p.origin
  | .rln p => p.origin

/-- The serialized identity that a job uses. -/
def identity : ProofJob → Option String
  | .semaphore p => p.identity
  | .rln p => p.identity

/-- A job as the user is shown it. -/
def withoutIdentity : ProofJob → ProofJob
  | .semaphore p => .semaphore p.withoutIdentity
  | .rln p => .rln p.withoutIdentity

/-- The prepared request of a job, encoded. -/
def preparedJson : ProofJob → Json
  | .semaphore p => toJson p
  | .rln p => toJson p

/-- Decode a prepared request of a given system. -/
def decode (kind : ProofKind) (j : Json) : Except Error ProofJob :=
  match kind with
  | .semaphore => (Wire.decode j).map .semaphore
  | .rln => (Wire.decode j).map .rln

end ProofJob

namespace ProofOutput

def kind : ProofOutput → ProofKind
  | .semaphore _ => .semaphore
  | .rln _ => .rln

/-- The proof of an output, encoded. -/
def proofJson : ProofOutput → Json
  | .semaphore p => toJson p
  | .rln p => toJson p

/-- A proof, if it is of the system that was asked for. -/
def ofKind (asked : ProofKind) (output : ProofOutput) : Except Error ProofOutput :=
  match asked, output with
  | .semaphore, .semaphore _ => .ok output
  | .rln, .rln _ => .ok output
  | .semaphore, .rln _ => .error (.transport "expected a Semaphore proof")
  | .rln, .semaphore _ => .error (.transport "expected an RLN proof")

end ProofOutput

end WalletTrust

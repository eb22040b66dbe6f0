import WalletTrust.Op
import WalletTrust.Request.Pending

/-!
# Proof Systems and Their Artifacts

The proof systems a page may use, and where their circuits and keys are.

A platform need not have every system. A system counts as missing if it has no entry, and also if
the address of its circuit or of its proving key is empty.

## Main definitions

* `ProofKind`: The proof systems.
* `ArtifactPaths`, `ArtifactConfig`: The addresses for one system, and for each system.
* `ArtifactConfig.resolve`: The addresses for a system, or the failure that it is missing.
-/

namespace WalletTrust

/-- A proof system. -/
inductive ProofKind where
  | semaphore
  | rln
deriving DecidableEq, Repr, Inhabited

namespace ProofKind

/-- The name of a proof system in messages. -/
def displayName : ProofKind → String
  | .semaphore => "Semaphore"
  | .rln => "RLN"

/-- The request that asks the user to confirm a proof of the system. -/
def requestKind : ProofKind → RequestKind
  | .semaphore => .semaphoreProof
  | .rln => .rlnProof

end ProofKind

/-- Where the circuit and the keys of a proof system are. -/
structure ArtifactPaths where
  circuit : String
  zkey : String
  verificationKey : String
deriving DecidableEq, Repr, Inhabited

/-- The addresses that a platform has. -/
structure ArtifactConfig where
  semaphore : Option ArtifactPaths := none
  rln : Option ArtifactPaths := none
deriving DecidableEq, Repr, Inhabited

instance : Fields ArtifactPaths where
  names := ["circuitFilePath", "zkeyFilePath", "verificationKey"]
  toRecord p :=
    [("circuitFilePath", toJson p.circuit), ("zkeyFilePath", toJson p.zkey),
      ("verificationKey", toJson p.verificationKey)]
  ofRecord? r := do
    return {
      circuit := ← r.required "circuitFilePath"
      zkey := ← r.required "zkeyFilePath"
      verificationKey := ← r.required "verificationKey" }

instance : Wire ArtifactPaths := Wire.ofFields ArtifactPaths 0

instance : Wire ArtifactConfig where
  toJson c := .obj [("semaphore", toJson c.semaphore), ("rln", toJson c.rln)]
  ofJson? j := do
    let r ← j.record? ["semaphore", "rln"] 0
    return { semaphore := ← r.optional "semaphore", rln := ← r.optional "rln" }

namespace ArtifactConfig

/-- What a platform has for a proof system. -/
def entry (c : ArtifactConfig) : ProofKind → Option ArtifactPaths
  | .semaphore => c.semaphore
  | .rln => c.rln

/-- The addresses for a proof system, if it is not missing. -/
def resolve (c : ArtifactConfig) (kind : ProofKind) : Except Error ArtifactPaths :=
  match c.entry kind with
  | some paths =>
    if paths.circuit ≠ "" ∧ paths.zkey ≠ "" then .ok paths
    else .error (.artifactsMissing kind.displayName)
  | none => .error (.artifactsMissing kind.displayName)

end ArtifactConfig

end WalletTrust

import WalletTrust.Identity
import WalletTrust.Json.Shortest
import WalletTrust.Proof.Job
import WalletTrust.Text.Quoted

/-!
# Diagnostic Texts

How values are written into a log, on one line.

A log may be read by anybody, so a secret does not get into it: where a value has one, the same word
stands for every secret. Whether there is one may be seen.

## Main definitions

* `Diagnostic`: Types with a diagnostic text.
* `Diagnostic.record`, `Diagnostic.variant`: The texts of a record and of a variant.
-/

namespace WalletTrust

/-- Types that can be written into a log. -/
class Diagnostic (α : Type) where
  diagnose : α → String

export Diagnostic (diagnose)

namespace Diagnostic

/-- A record: its name, and its fields between braces. -/
def record (name : String) (fields : List (String × String)) : String :=
  name ++ " \x7b " ++ String.intercalate ", " (fields.map fun f => f.1 ++ ": " ++ f.2) ++ " \x7d"

/-- A variant: its name, and its content between brackets. -/
def variant (name content : String) : String :=
  name ++ "(" ++ content ++ ")"

/-- A list between square brackets. -/
def list (items : List String) : String :=
  "[" ++ String.intercalate ", " items ++ "]"

/-- The word that stands for every secret. -/
def redacted : String :=
  Quoted.quote "<redacted>"

/-- A value that may be missing. -/
def option : Option String → String
  | none => "None"
  | some text => variant "Some" text

end Diagnostic

instance : Diagnostic String := ⟨Quoted.quote⟩

instance : Diagnostic UInt8 := ⟨fun n => toString n.toNat⟩

instance : Diagnostic UInt32 := ⟨fun n => toString n.toNat⟩

instance : Diagnostic UInt64 := ⟨fun n => toString n.toNat⟩

instance {α : Type} [Diagnostic α] : Diagnostic (List α) :=
  ⟨fun as => Diagnostic.list (as.map diagnose)⟩

instance {α : Type} [Diagnostic α] : Diagnostic (Option α) :=
  ⟨fun a => Diagnostic.option (a.map diagnose)⟩

namespace Json

mutual

/-- The diagnostic text of a JSON value: every value after the name of its kind. -/
def diagnostic : Json → String
  | .null => "Null"
  | .bool b => Diagnostic.variant "Bool" (if b then "true" else "false")
  | .int n => Diagnostic.variant "Number" (toString n)
  | .decimal d => Diagnostic.variant "Number" d.text
  | .str s => Diagnostic.variant "String" (Quoted.quote s)
  | .arr items => "Array " ++ Diagnostic.list (diagnosticItems items)
  | .obj members =>
    "Object \x7b" ++ String.intercalate ", " (diagnosticMembers members) ++ "\x7d"
  | .unreadable => "Null"

/-- The items of an array, one by one. -/
def diagnosticItems : List Json → List String
  | [] => []
  | j :: rest => diagnostic j :: diagnosticItems rest

/-- The members of an object, each after its name. -/
def diagnosticMembers : List (String × Json) → List String
  | [] => []
  | (name, j) :: rest =>
    (Quoted.quote name ++ ": " ++ diagnostic j) :: diagnosticMembers rest

end

end Json

instance : Diagnostic Json := ⟨Json.diagnostic⟩

instance : Diagnostic FieldElement :=
  ⟨fun e => Diagnostic.variant "FieldElement" (diagnose e.text)⟩

instance : Diagnostic TreeData :=
  ⟨fun d => Diagnostic.record "MerkleProofArtifacts"
    [("depth", diagnose d.depth), ("leaves", diagnose d.leaves),
      ("leaves_per_node", diagnose d.leavesPerNode)]⟩

instance : Diagnostic MerkleProof :=
  ⟨fun p => Diagnostic.record "MerkleProof"
    [("root", diagnose p.root), ("leaf", diagnose p.leaf), ("siblings", diagnose p.siblings),
      ("path_indices", diagnose p.pathIndices)]⟩

instance : Diagnostic MerkleSource where
  diagnose
    | .storageUrl url => Diagnostic.variant "StorageUrl" (diagnose url)
    | .tree data => Diagnostic.variant "Artifacts" (diagnose data)
    | .proof proof => Diagnostic.variant "Proof" (diagnose proof)

instance : Diagnostic MerkleFields :=
  ⟨fun f => Diagnostic.record "MerkleProofFields"
    [("merkle_proof_provided", diagnose f.provided),
      ("merkle_proof_artifacts", diagnose f.artifacts),
      ("merkle_storage_url", diagnose f.storageUrl)]⟩

instance : Diagnostic SemaphoreRequest :=
  ⟨fun q => Diagnostic.record "SemaphoreProofRequest"
    [("external_nullifier", diagnose q.externalNullifier), ("signal", diagnose q.signal),
      ("merkle", diagnose q.merkle)]⟩

instance : Diagnostic RlnRequest :=
  ⟨fun q => Diagnostic.record "RlnProofRequest"
    [("rln_identifier", diagnose q.rlnIdentifier), ("message", diagnose q.message),
      ("epoch", diagnose q.epoch), ("message_limit", diagnose q.messageLimit),
      ("message_id", diagnose q.messageId), ("merkle", diagnose q.merkle)]⟩

instance : Diagnostic ArtifactPaths :=
  ⟨fun p => Diagnostic.record "ArtifactPaths"
    [("circuit_file_path", diagnose p.circuit), ("zkey_file_path", diagnose p.zkey),
      ("verification_key", diagnose p.verificationKey)]⟩

/-- The serialized identity is a secret. -/
instance {ρ : Type} [Diagnostic ρ] : Diagnostic (Prepared ρ) :=
  ⟨fun p => Diagnostic.record "PreparedProof"
    [("request", diagnose p.request), ("merkle_proof_source", diagnose p.source),
      ("identity_serialized", Diagnostic.option (p.identity.map fun _ => Diagnostic.redacted)),
      ("artifacts", diagnose p.artifacts), ("url_origin", diagnose p.origin)]⟩

/-- The serialized form is a secret. -/
instance : Diagnostic Identity :=
  ⟨fun i => Diagnostic.record "ZkIdentity"
    [("commitment", diagnose i.commitment), ("name", diagnose i.name),
      ("serialized", Diagnostic.redacted)]⟩

end WalletTrust

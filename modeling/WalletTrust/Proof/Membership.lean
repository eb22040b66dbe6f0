import WalletTrust.Op
import WalletTrust.Proof.FieldElement

/-!
# Membership Data

Where a prover gets the Merkle proof that an identity belongs to a group.

A page names one of three sources: a ready-made proof, the tree to build one from, or an address
that serves one. It sends exactly one of three fields. What the field holds is then classified by
its shape alone, whichever field it came in, and checked: a tree needs a depth, leaves and a
fan-out, and a proof needs siblings, path indices, and a root and a leaf that are not zero. The
checks run in a fixed order and the first that fails is reported.

Values on the wire are classified differently, by the first shape that can be decoded. The two
classifications agree wherever the first one accepts.

## Main definitions

* `TreeData`, `MerkleProof`, `MerkleSource`: The shapes of a source.
* `MerkleFields`: The three fields of a request.
* `MerkleFields.select`: The one field that was sent.
* `TreeData.validate`, `MerkleProof.validate`: The checks.
* `MerkleSource.validate`: The source that a value is, checked.
-/

namespace WalletTrust

/-- A tree that the prover builds a proof from. -/
structure TreeData where
  depth : UInt32
  leaves : List FieldElement
  leavesPerNode : UInt32
deriving DecidableEq, Repr, Inhabited

/-- A ready-made proof. -/
structure MerkleProof where
  root : FieldElement
  leaf : FieldElement
  /-- The sibling hashes from the leaf to the root. -/
  siblings : List FieldElement
  /-- The position of the path at each level. -/
  pathIndices : List UInt8
deriving DecidableEq, Repr, Inhabited

/-- Where the prover gets its proof from. -/
inductive MerkleSource where
  /-- An address that serves the proof; it is not looked into. -/
  | storageUrl (url : String)
  | tree (data : TreeData)
  | proof (proof : MerkleProof)
deriving DecidableEq, Repr, Inhabited

/-- The three fields of a request, of which one is to be sent. -/
structure MerkleFields where
  provided : Option Json := none
  artifacts : Option Json := none
  storageUrl : Option String := none
deriving Inhabited

instance : Wire TreeData where
  toJson d :=
    .obj [("depth", toJson d.depth), ("leaves", toJson d.leaves),
      ("leavesPerNode", toJson d.leavesPerNode)]
  ofJson? j := do
    let r ← j.record? ["depth", "leaves", "leavesPerNode"] 0
    return {
      depth := ← r.required "depth"
      leaves := ← r.required "leaves"
      leavesPerNode := ← r.required "leavesPerNode" }

instance : Wire MerkleProof where
  toJson p :=
    .obj [("root", toJson p.root), ("leaf", toJson p.leaf), ("siblings", toJson p.siblings),
      ("pathIndices", toJson p.pathIndices)]
  ofJson? j := do
    let r ← j.record? ["root", "leaf", "siblings", "pathIndices"] 0
    return {
      root := ← r.required "root"
      leaf := ← r.required "leaf"
      siblings := ← r.required "siblings"
      pathIndices := ← r.required "pathIndices" }

/-- A source travels as what it holds, without a tag: the first shape that can be decoded counts. -/
instance : Wire MerkleSource where
  toJson
    | .storageUrl url => toJson url
    | .tree data => toJson data
    | .proof proof => toJson proof
  ofJson? j :=
    match Wire.ofJson? j with
    | some url => some (.storageUrl url)
    | none =>
      match Wire.ofJson? j with
      | some data => some (.tree data)
      | none => (Wire.ofJson? j).map .proof

instance : Fields MerkleFields where
  names := ["merkleProofProvided", "merkleProofArtifacts", "merkleStorageUrl"]
  toRecord f :=
    Record.ofOption "merkleProofProvided" f.provided
      ++ Record.ofOption "merkleProofArtifacts" f.artifacts
      ++ Record.ofOption "merkleStorageUrl" f.storageUrl
  ofRecord? r := do
    return {
      provided := ← r.optional "merkleProofProvided"
      artifacts := ← r.optional "merkleProofArtifacts"
      storageUrl := ← r.optional "merkleStorageUrl" }

instance : Wire MerkleFields := Wire.ofFields MerkleFields 3

/-- The one field that was sent. None or several are refused. -/
def MerkleFields.select (f : MerkleFields) : Except Error Json :=
  match f.provided, f.artifacts, f.storageUrl with
  | some j, none, none => .ok j
  | none, some j, none => .ok j
  | none, none, some url => .ok (.str url)
  | _, _, _ => .error .invalidMerkleInputs

/-- Succeed if a condition holds. -/
def check (condition : Bool) (e : Error) : Except Error Unit :=
  if condition then .ok () else .error e

namespace TreeData

def checkDepth (d : TreeData) : Except Error Unit :=
  check (d.depth ≠ 0) .invalidDepth

def checkLeaves (d : TreeData) : Except Error Unit :=
  check (!d.leaves.isEmpty) .invalidLeaves

def checkLeavesPerNode (d : TreeData) : Except Error Unit :=
  check (d.leavesPerNode ≠ 0) .invalidLeavesPerNode

/-- Every check, in order. -/
def validate (d : TreeData) : Except Error Unit := do
  d.checkDepth
  d.checkLeaves
  d.checkLeavesPerNode

end TreeData

namespace MerkleProof

def checkRoot (p : MerkleProof) : Except Error Unit :=
  check (!p.root.isZero) .invalidRoot

def checkSiblings (p : MerkleProof) : Except Error Unit :=
  check (!p.siblings.isEmpty) .invalidSiblings

def checkPathIndices (p : MerkleProof) : Except Error Unit :=
  check (!p.pathIndices.isEmpty) .invalidPathIndices

def checkLeaf (p : MerkleProof) : Except Error Unit :=
  check (!p.leaf.isZero) .invalidLeaf

/-- Every check, in order. -/
def validate (p : MerkleProof) : Except Error Unit := do
  p.checkRoot
  p.checkSiblings
  p.checkPathIndices
  p.checkLeaf

end MerkleProof

namespace MerkleSource

/-- Whether an object has a member of every name. -/
def hasMembers (j : Json) (names : List String) : Bool :=
  names.all fun name => (j.member? name).isSome

/-- The source that a value is. A string is an address. An object with the fields of a tree is a
tree, whatever else it has, and one with the fields of a proof is a proof; either has to decode and
to pass its checks. -/
def validate (j : Json) : Except Error MerkleSource :=
  match j with
  | .str url => .ok (.storageUrl url)
  | .obj _ =>
    if hasMembers j ["leaves", "depth", "leavesPerNode"] then
      match Wire.ofJson? (α := TreeData) j with
      | none => .error .invalidMerkleInputs
      | some data => do
        data.validate
        return .tree data
    else if hasMembers j ["root", "leaf", "siblings", "pathIndices"] then
      match Wire.ofJson? (α := MerkleProof) j with
      | none => .error .invalidMerkleInputs
      | some given => do
        given.validate
        return .proof given
    else .error .invalidMerkleInputs
  | _ => .error .invalidMerkleInputs

end MerkleSource

end WalletTrust

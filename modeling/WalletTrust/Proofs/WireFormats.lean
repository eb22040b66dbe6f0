import WalletTrust.Backup.File
import WalletTrust.Proofs.Maps
import WalletTrust.Proofs.ReadBack
import WalletTrust.Wallet.State

/-!
# Wire Formats Agree With Themselves

What is encoded is decoded to what it was, for every type that travels as JSON.

A decoder takes more spellings than its encoder writes: arrays for records, numbers for texts, other
orders and unknown names. Whatever it takes, the value that comes out is encoded in one spelling and
that spelling is decoded to the same value. So a value that has passed through the wallet once is
not changed by passing through it again.

The other way round there are two exceptions, and they are the only ones. An optional field that
holds a JSON null is written as that null, and a null field counts as missing. A decision in other
words than the two that are known may not be one of these two words. No decoder ever makes such a
value, and that is why the first statement needs no exception.

Where fields are merged into a larger record, what could go wrong is that two parts claim one name.
The names of a merged record are listed once for all its parts, so it is enough that the list has no
name twice: each part then finds its own fields among the others and nothing else.

## Main definitions

* `Faithful`: Types of which every value is decoded from its own encoding.
* `Wire.Agrees`: Decoding and encoding agree, but for the values that are set apart.
* `Fields.Agrees`: So they do for a part of a record, whatever else the record holds.
* `Decision.Plain`, `FinalizeRequest.Plain`, `MerkleFields.Plain`: What is not set apart.
* `Wire.FormatsAgree`: All types that travel.

## Theorems

* `Record.required_bind`, `Record.optional_bind`: A field that is there is decoded.
* `Prepared.fields_agree`: A prepared request, with the fields of its parts merged.
* `Wire.formats_agree`: Decoding and encoding agree for all types that travel.
* `Wire.Agrees.of_plain`: It is enough that no other values are ever decoded.
* `Record.optional_bind`, `Record.requiredWith_bind`: A member that is there and can be decoded is
  handed on.
* `MerkleFields.fields_agree`, `MerkleFields.reads_after`: The membership fields, by themselves and
  behind the fields of a request.
* `Prepared.toRecord_eq`: The record of a prepared request is that of the request with what the
  wallet has added behind it.
-/

namespace WalletTrust

/-- Types of which every value is decoded from its own encoding. -/
class Faithful (α : Type) [Wire α] : Prop where
  decodes : ∀ a : α, Wire.ofJson? (toJson a) = some a

/-- Decoding and encoding agree, but for the values that are not in `plain`. -/
structure Wire.Agrees {α : Type} [Wire α] (plain : α → Prop) : Prop where
  /-- What is decoded from whatever spelling is decoded from its own encoding too. -/
  settles : ∀ j (a : α), Wire.ofJson? j = some a → Wire.ofJson? (toJson a) = some a
  reads : ∀ a : α, Wire.ofJson? (toJson a) = some a ↔ plain a

/-- A type whose decoder undoes its encoder agrees without exception. -/
theorem Faithful.agrees (α : Type) [Wire α] [Faithful α] : Wire.Agrees fun _ : α => True where
  settles _ a _ := Faithful.decodes a
  reads a := iff_of_true (Faithful.decodes a) trivial

/-- It is enough that no other values are ever decoded. -/
theorem Wire.Agrees.of_plain {α : Type} [Wire α] {plain : α → Prop}
    (hplain : ∀ j (a : α), Wire.ofJson? j = some a → plain a)
    (hreads : ∀ a, plain a → Wire.ofJson? (toJson a) = some a) : Wire.Agrees plain where
  settles j a h := hreads a (hplain j a h)
  reads a := ⟨hplain _ a, hreads a⟩

/-- Whatever is decoded is plain. The exceptions are values that no text stands for. -/
theorem Wire.Agrees.plain_of_decoded {α : Type} [Wire α] {plain : α → Prop}
    (h : Wire.Agrees plain) {j : Json} {a : α} (ha : Wire.ofJson? j = some a) : plain a :=
  (h.reads a).1 (h.settles j a ha)

/-! ## Fields that are there -/

section Fields

variable {α β : Type} {r : Record} {name : String} {j : Json}

/-- Reading a record goes on with its members, if none that is asked for is there twice. -/
theorem Json.record?_bind {names : List String} {spare : Nat} {members : Record}
    (h : distinctOn names members = true) (f : Record → Option β) :
    ((Json.obj members).record? names spare >>= f) = f members := by
  rw [record?, openRecord?, if_pos h]
  · rfl
  · rintro items ⟨⟩

/-- A member that is there and can be decoded is handed on. -/
theorem Record.requiredWith_bind {decode : Json → Option α} {a : α}
    (h : Assoc.lookup name r = some j) (ha : decode j = some a) (f : α → Option β) :
    (r.requiredWith decode name >>= f) = f a := by
  rw [requiredWith, h, Option.bind_some, ha]
  rfl

variable [Wire α]

theorem Record.required_bind [Faithful α] {a : α} (h : Assoc.lookup name r = some (toJson a))
    (f : α → Option β) : (r.required name >>= f) = f a :=
  requiredWith_bind h (Faithful.decodes a) f

/-- A field that may be missing is found as it is, unless it is there and null. -/
theorem Record.optional_bind [Faithful α] {o : Option α} (hnull : ∀ a ∈ o, toJson a ≠ .null)
    (h : Assoc.lookup name r = o.map toJson) (f : Option α → Option β) :
    (r.optional name >>= f) = f o := by
  rw [optional, h]
  cases o with
  | none => rfl
  | some a =>
      have hdecodes := Faithful.decodes a
      have hne := hnull a rfl
      rw [Option.map_some]
      generalize toJson a = j at hdecodes hne
      cases j with
      | null => exact absurd rfl hne
      | _ => dsimp only; rw [hdecodes]; rfl

/-- A null is never what a field is found to be. -/
theorem Record.optional_ne_null {o : Option Json} (h : r.optional name = some o) :
    o ≠ some .null := by
  rintro rfl
  rw [optional] at h
  split at h
  · cases h
  · cases h
  · next hne _ => exact hne (Option.some.inj (Option.some.inj h))

theorem Wire.decoded_bind [Faithful α] (a : α) (f : α → Option β) :
    (Wire.ofJson? (toJson a) >>= f) = f a := by
  rw [Faithful.decodes]
  rfl

theorem Json.listWith?_bind {decode : Json → Option α} (h : ∀ a, decode (toJson a) = some a)
    (as : List α) (f : List α → Option β) : ((toJson as).listWith? decode >>= f) = f as := by
  have hitems : (toJson as).listWith? decode = itemsWith? decode (as.map toJson) := rfl
  rw [hitems, itemsWith?_map h]
  rfl

end Fields

/-! ## Texts, numbers and lists -/

instance {α : Type} [Wire α] [LawfulWire α] : Faithful α where
  decodes := LawfulWire.decodes

instance : Faithful Json where
  decodes _ := rfl

/-- A number below the limit is read back. -/
theorem Json.below?_natCast {n limit : Nat} (h : n < limit) : (Json.int n).below? limit = some n :=
  if_pos h

instance : Faithful UInt8 where
  decodes n := by
    have hdecode : (Wire.ofJson? (toJson n) : Option UInt8) =
        ((Json.int n.toNat).below? UInt8.size).map UInt8.ofNat := rfl
    rw [hdecode, Json.below?_natCast n.toNat_lt_size, Option.map_some, UInt8.ofNat_toNat]

instance : Faithful UInt32 where
  decodes n := by
    have hdecode : (Wire.ofJson? (toJson n) : Option UInt32) =
        ((Json.int n.toNat).below? UInt32.size).map UInt32.ofNat := rfl
    rw [hdecode, Json.below?_natCast n.toNat_lt_size, Option.map_some, UInt32.ofNat_toNat]

instance : Faithful UInt64 where
  decodes n := by
    have hdecode : (Wire.ofJson? (toJson n) : Option UInt64) =
        ((Json.int n.toNat).below? UInt64.size).map UInt64.ofNat := rfl
    rw [hdecode, Json.below?_natCast n.toNat_lt_size, Option.map_some, UInt64.ofNat_toNat]

instance : Faithful Int32 where
  decodes n := by
    have hdecode : (Wire.ofJson? (toJson n) : Option Int32) =
        if Int32.minValue.toInt ≤ n.toInt ∧ n.toInt ≤ Int32.maxValue.toInt then
          some (Int32.ofInt n.toInt)
        else none := rfl
    rw [hdecode, if_pos ⟨n.minValue_le_toInt, n.toInt_le⟩, Int32.ofInt_toInt]

instance {α : Type} [Wire α] [Faithful α] : Faithful (List α) where
  decodes := Json.itemsWith?_map Faithful.decodes

/-! ## Records, enumerations and unions -/

instance : Faithful ErrorKind where
  decodes kind := by cases kind <;> rfl

instance : Faithful ErrorPayload where
  decodes p :=
    (Json.record?_bind rfl _).trans <|
    (Record.required_bind (a := p.code) rfl _).trans <|
    (Record.required_bind (a := p.message) rfl _).trans <|
    Record.required_bind (a := p.kind) rfl _

instance : Faithful Purpose where
  decodes purpose := by cases purpose <;> rfl

instance : Faithful StorageKeys where
  decodes _ := rfl

instance : Faithful PublicIdentity where
  decodes _ := rfl

instance : Faithful UploadBackup where
  decodes _ := rfl

instance : Faithful ApprovalEntry where
  decodes _ := rfl

instance : Faithful Connection where
  decodes _ := rfl

instance : Faithful SessionStatus where
  decodes _ := rfl

instance : Faithful PageEvent where
  decodes event := by cases event <;> rfl

/-- A kind is read in either way: it is written as its name. -/
theorem RequestKind.decodes (reading : Reading) (kind : RequestKind) :
    RequestKind.ofJson? reading (toJson kind) = some kind := by
  cases reading <;> cases kind <;> rfl

instance : Faithful RequestKind where
  decodes := RequestKind.decodes .direct

/-- A question is read back, in whichever way a surface reads it. -/
theorem PendingRequest.decodes (reading : Reading) (p : PendingRequest) :
    PendingRequest.ofJson? reading (toJson p) = some p :=
  (Json.record?_bind rfl _).trans <|
  (Record.required_bind (a := p.id) rfl _).trans <|
  (Record.requiredWith_bind rfl (RequestKind.decodes reading p.kind) _).trans <|
  Record.required_bind (a := p.payload) rfl _

instance : Faithful PendingRequest where
  decodes := PendingRequest.decodes .direct

instance : Faithful ExtensionMessage where
  decodes message := by
    cases message with
    | sessionStatus status => rfl
    | pendingRequests queue => exact Json.listWith?_bind (PendingRequest.decodes .heldBack) queue _

instance : Faithful FieldElement where
  decodes _ := rfl

instance : Faithful TreeData where
  decodes d :=
    (Json.record?_bind rfl _).trans <|
    (Record.required_bind (a := d.depth) rfl _).trans <|
    (Record.required_bind (a := d.leaves) rfl _).trans <|
    Record.required_bind (a := d.leavesPerNode) rfl _

instance : Faithful MerkleProof where
  decodes p :=
    (Json.record?_bind rfl _).trans <|
    (Record.required_bind (a := p.root) rfl _).trans <|
    (Record.required_bind (a := p.leaf) rfl _).trans <|
    (Record.required_bind (a := p.siblings) rfl _).trans <|
    Record.required_bind (a := p.pathIndices) rfl _

/-- No shape of a source shadows another: a tree is not taken for an address, nor a proof for a
tree. -/
instance : Faithful MerkleSource where
  decodes source := by
    cases source with
    | storageUrl url => rfl
    | tree data =>
        have hdecode : (Wire.ofJson? (toJson (MerkleSource.tree data)) : Option MerkleSource) =
            match (Wire.ofJson? (toJson data) : Option TreeData) with
            | some data => some (.tree data)
            | none => (Wire.ofJson? (toJson data)).map .proof := rfl
        rw [hdecode, Faithful.decodes]
    | proof given =>
        have hdecode : (Wire.ofJson? (toJson (MerkleSource.proof given)) : Option MerkleSource) =
            (Wire.ofJson? (toJson given)).map .proof := rfl
        rw [hdecode, Faithful.decodes, Option.map_some]

instance : Faithful ArtifactPaths where
  decodes _ := rfl

instance : Faithful ArtifactConfig where
  decodes c := by
    rcases c with ⟨_ | semaphore, _ | rln⟩
    all_goals rfl

instance : Faithful FullProof where
  decodes p :=
    (Json.record?_bind rfl _).trans <|
    (Record.required_bind (a := p.proof) rfl _).trans <|
    Record.required_bind (a := p.publicSignals) rfl _

instance : Faithful RlnProof where
  decodes p :=
    (Json.record?_bind rfl _).trans <|
    (Record.required_bind (a := p.snarkProof) rfl _).trans <|
    (Record.required_bind (a := p.epoch) rfl _).trans <|
    Record.required_bind (a := p.rlnIdentifier) rfl _

/-- A proof is read back with its system. -/
theorem ProofOutput.decodes (reading : Reading) (output : ProofOutput) :
    ProofOutput.ofJson? reading (toJson output) = some output := by
  cases output with
  | semaphore p => exact Wire.decoded_bind p _
  | rln p => exact Wire.decoded_bind p _

instance : Faithful ProofOutput where
  decodes := ProofOutput.decodes .direct

instance : Faithful SandboxMessage where
  decodes message := by
    cases message with
    | result output =>
        -- The output is held back until the tag beside it is known.
        have hdecode : (Wire.ofJson? (toJson (SandboxMessage.result output)) :
            Option SandboxMessage) =
            (ProofOutput.ofJson? .heldBack (toJson output) >>= fun o => some (.result o)) := rfl
        rw [hdecode, ProofOutput.decodes]
        rfl
    | error message => rfl

/-! ## Decisions -/

/-- The decision is not one of the two known ones in other words. -/
def Decision.Plain (d : Decision) : Prop :=
  ∀ status, d = .other status → status ≠ "ACCEPT" ∧ status ≠ "REJECT"

/-- Every word stands for a decision that is plain. -/
theorem Decision.plain_ofWord (word : String) : (ofWord word).Plain := by
  rw [ofWord]
  split
  · rintro status ⟨⟩
  · next haccept =>
    split
    · rintro status ⟨⟩
    · next hreject =>
      rintro status ⟨⟩
      exact ⟨haccept, hreject⟩

/-- And a plain decision is the one that its word stands for. -/
theorem Decision.ofWord_word {d : Decision} (h : d.Plain) : ofWord d.word = d := by
  cases d with
  | accept => rfl
  | reject => rfl
  | other status =>
      rcases h status rfl with ⟨haccept, hreject⟩
      rw [word, ofWord, if_neg haccept, if_neg hreject]

theorem Decision.agrees : Wire.Agrees Decision.Plain := by
  refine .of_plain (fun j d h => ?_) fun d h => congrArg some (ofWord_word h)
  cases j with
  | str word =>
      rw [← Option.some.inj h]
      exact plain_ofWord word
  | _ => cases h

/-- The decision is plain, and the data is not null. -/
structure FinalizeRequest.Plain (f : FinalizeRequest) : Prop where
  status : f.status.Plain
  data : f.data ≠ some .null

/-- What is there and is not null is not written as null. -/
theorem Json.toJson_ne_null {o : Option Json} (h : o ≠ some .null) : ∀ j ∈ o, toJson j ≠ .null := by
  rintro j rfl hnull
  exact h (congrArg some hnull)

/-- An answer agrees unless its data is a null that is there, since that is read as data that is
not. -/
theorem FinalizeRequest.agrees : Wire.Agrees FinalizeRequest.Plain := by
  refine .of_plain (fun j f h => ?_) fun f h => ?_
  · rcases Option.bind_eq_some_iff.1 h with ⟨r, _, h⟩
    rcases Option.bind_eq_some_iff.1 h with ⟨id, _, h⟩
    rcases Option.bind_eq_some_iff.1 h with ⟨status, hstatus, h⟩
    rcases Option.bind_eq_some_iff.1 h with ⟨data, hdata, h⟩
    rcases Option.bind_eq_some_iff.1 hstatus with ⟨_, _, hword⟩
    rcases Option.some.inj h
    exact ⟨Decision.agrees.plain_of_decoded hword, Record.optional_ne_null hdata⟩
  · rcases f with ⟨id, status, _ | data⟩
    all_goals exact (Json.record?_bind rfl _).trans <|
      (Record.required_bind (a := id) rfl _).trans <|
      (Record.requiredWith_bind rfl ((Decision.agrees.reads status).2 h.status) _).trans <|
      Record.optional_bind (Json.toJson_ne_null h.data) rfl _

/-! ## Merged records -/

/-- Decoding and encoding agree for a part of a record, but for the values that are not in `plain`.
-/
structure Fields.Agrees {α : Type} [Fields α] (plain : α → Prop) : Prop where
  /-- The fields are written in the order of their names. -/
  named : ∀ a : α, ((Fields.toRecord a).map Prod.fst).Sublist (Fields.names α)
  /-- The names decide, whatever else the record holds. -/
  reads : ∀ (a : α) r, plain a → (∀ name ∈ Fields.names α,
    Assoc.lookup name r = Assoc.lookup name (Fields.toRecord a)) → Fields.ofRecord? r = some a
  plain : ∀ r (a : α), Fields.ofRecord? r = some a → plain a

/-- Members with names of their own are distinct, whichever names are asked for. -/
theorem Json.distinctOn_of_nodup {members : List (String × Json)}
    (h : (members.map Prod.fst).Nodup) (names : List String) : distinctOn names members = true := by
  refine List.all_eq_true.2 fun name _ => decide_eq_true ?_
  have hcount := List.nodup_iff_count.1 h name
  rw [List.count, List.countP_map, List.countP_eq_length_filter] at hcount
  simpa only [Function.comp_def, Bool.beq_eq_decide_eq] using hcount

/-- A member that may be missing has no name but its own. -/
theorem Record.sublist_ofOption {α : Type} [Wire α] (name : String) (o : Option α) :
    ((ofOption name o).map Prod.fst).Sublist [name] := by
  cases o with
  | none => exact List.nil_sublist _
  | some a => exact List.Sublist.refl _

/-- The names of two records that are put together are those of the one and then those of the
other. -/
theorem Record.sublist_append {before after : Record} {names names' : List String}
    (hbefore : (before.map Prod.fst).Sublist names) (hafter : (after.map Prod.fst).Sublist names') :
    ((before ++ after).map Prod.fst).Sublist (names ++ names') := by
  rw [List.map_append]
  exact hbefore.append hafter

namespace Fields.Agrees

variable {α : Type} [Fields α] {plain : α → Prop}

/-- The fields of a value are found in its own record. -/
theorem ofRecord?_toRecord (h : Fields.Agrees plain) (hdistinct : (Fields.names α).Nodup) {a : α}
    (ha : plain a) :
    ((Json.obj (Fields.toRecord a)).openRecord? (Fields.names α)).bind Fields.ofRecord? =
      some a := by
  have honce := Json.distinctOn_of_nodup (hdistinct.sublist (h.named a)) (Fields.names α)
  rw [Json.openRecord?, if_pos honce, Option.bind_some]
  exact h.reads a _ ha fun _ _ => rfl

/-- What holds of the fields of a record holds of the record, with anything else beside them. -/
theorem ofOpenFields (h : Fields.Agrees plain) (hdistinct : (Fields.names α).Nodup) :
    @Wire.Agrees α (Wire.ofOpenFields α) plain := by
  refine @Wire.Agrees.of_plain α (Wire.ofOpenFields α) plain (fun j a ha => ?_)
    fun a ha => h.ofRecord?_toRecord hdistinct ha
  rcases Option.bind_eq_some_iff.1 ha with ⟨r, _, hr⟩
  exact h.plain r a hr

/-- The same of a record that is closed, or leaves room for some members that are not its own. -/
theorem ofFields (h : Fields.Agrees plain) (hdistinct : (Fields.names α).Nodup) (spare : Nat) :
    @Wire.Agrees α (Wire.ofFields α spare) plain := by
  refine @Wire.Agrees.of_plain α (Wire.ofFields α spare) plain (fun j a ha => ?_)
    fun a ha => h.ofRecord?_toRecord hdistinct ha
  rcases Option.bind_eq_some_iff.1 ha with ⟨r, _, hr⟩
  exact h.plain r a hr

end Fields.Agrees

/-- Neither of the two fields of any shape is null. -/
structure MerkleFields.Plain (f : MerkleFields) : Prop where
  provided : f.provided ≠ some .null
  artifacts : f.artifacts ≠ some .null

/-- The three ways to give a membership proof, each of which may be left out. -/
theorem MerkleFields.fields_agree : Fields.Agrees MerkleFields.Plain where
  named _ := Record.sublist_append
    (Record.sublist_append (Record.sublist_ofOption _ _) (Record.sublist_ofOption _ _))
    (Record.sublist_ofOption _ _)
  reads f r hf h := by
    rcases List.forall_mem_cons.1 h with ⟨hprovided, h⟩
    rcases List.forall_mem_cons.1 h with ⟨hartifacts, h⟩
    have hurl := List.forall_mem_singleton.1 h
    -- Each of the three may be there or be absent, and what is there is not null.
    rcases f with ⟨_ | provided, _ | artifacts, _ | url⟩
    all_goals exact (Record.optional_bind (Json.toJson_ne_null hf.provided) hprovided _).trans <|
      (Record.optional_bind (Json.toJson_ne_null hf.artifacts) hartifacts _).trans <|
      Record.optional_bind (fun _ _ hnull => Json.noConfusion hnull) hurl _
  plain r f h := by
    rcases Option.bind_eq_some_iff.1 h with ⟨provided, hprovided, h⟩
    rcases Option.bind_eq_some_iff.1 h with ⟨artifacts, hartifacts, h⟩
    rcases Option.bind_eq_some_iff.1 h with ⟨url, _, h⟩
    rcases Option.some.inj h
    exact ⟨Record.optional_ne_null hprovided, Record.optional_ne_null hartifacts⟩

theorem ArtifactPaths.fields_agree : Fields.Agrees fun _ : ArtifactPaths => True where
  named _ := List.Sublist.refl _
  reads p r _ h := by
    rcases List.forall_mem_cons.1 h with ⟨hcircuit, h⟩
    rcases List.forall_mem_cons.1 h with ⟨hzkey, h⟩
    have hkey := List.forall_mem_singleton.1 h
    exact (Record.required_bind (a := p.circuit) hcircuit _).trans <|
      (Record.required_bind (a := p.zkey) hzkey _).trans <|
      Record.required_bind (a := p.verificationKey) hkey _
  plain _ _ _ := trivial

/-- The membership fields of a request are found after its own fields. -/
theorem MerkleFields.reads_after {own r : Record} {f : MerkleFields} {names : List String}
    (hf : f.Plain)
    (h : ∀ name ∈ names ++ Fields.names MerkleFields,
      Assoc.lookup name r = Assoc.lookup name (own ++ Fields.toRecord f))
    (hown : (own.map Prod.fst).Sublist names)
    (hothers : ∀ name ∈ names, name ∉ Fields.names MerkleFields) :
    Fields.ofRecord? r = some f := by
  refine fields_agree.reads f r hf fun name hname => ?_
  rw [h name (List.mem_append_right _ hname), Assoc.lookup_append_right]
  exact fun hmem => hothers name (hown.subset hmem) hname

theorem SemaphoreRequest.fields_agree :
    Fields.Agrees fun q : SemaphoreRequest => q.merkle.Plain where
  named q := Record.sublist_append (List.Sublist.refl _) (MerkleFields.fields_agree.named q.merkle)
  reads q r hq h := by
    -- The flattened fields have names of their own.
    have hmerkle := MerkleFields.reads_after hq h (List.Sublist.refl _) (by decide)
    rcases List.forall_mem_cons.1 h with ⟨hnullifier, h⟩
    rcases List.forall_mem_cons.1 h with ⟨hsignal, _⟩
    refine (Record.required_bind (a := q.externalNullifier) hnullifier _).trans <|
      (Record.required_bind (a := q.signal) hsignal _).trans ?_
    rw [hmerkle]
    rfl
  plain r q h := by
    rcases Option.bind_eq_some_iff.1 h with ⟨_, _, h⟩
    rcases Option.bind_eq_some_iff.1 h with ⟨_, _, h⟩
    rcases Option.bind_eq_some_iff.1 h with ⟨merkle, hmerkle, h⟩
    rcases Option.some.inj h
    exact MerkleFields.fields_agree.plain r merkle hmerkle

theorem RlnRequest.fields_agree : Fields.Agrees fun q : RlnRequest => q.merkle.Plain where
  named q := Record.sublist_append (List.Sublist.refl _) (MerkleFields.fields_agree.named q.merkle)
  reads q r hq h := by
    -- The flattened fields have names of their own.
    have hmerkle := MerkleFields.reads_after hq h (List.Sublist.refl _) (by decide)
    rcases List.forall_mem_cons.1 h with ⟨hidentifier, h⟩
    rcases List.forall_mem_cons.1 h with ⟨hmessage, h⟩
    rcases List.forall_mem_cons.1 h with ⟨hepoch, h⟩
    rcases List.forall_mem_cons.1 h with ⟨hlimit, h⟩
    rcases List.forall_mem_cons.1 h with ⟨hid, _⟩
    refine (Record.required_bind (a := q.rlnIdentifier) hidentifier _).trans <|
      (Record.required_bind (a := q.message) hmessage _).trans <|
      (Record.required_bind (a := q.epoch) hepoch _).trans <|
      (Record.required_bind (a := q.messageLimit) hlimit _).trans <|
      (Record.required_bind (a := q.messageId) hid _).trans ?_
    rw [hmerkle]
    rfl
  plain r q h := by
    rcases Option.bind_eq_some_iff.1 h with ⟨_, _, h⟩
    rcases Option.bind_eq_some_iff.1 h with ⟨_, _, h⟩
    rcases Option.bind_eq_some_iff.1 h with ⟨_, _, h⟩
    rcases Option.bind_eq_some_iff.1 h with ⟨_, _, h⟩
    rcases Option.bind_eq_some_iff.1 h with ⟨_, _, h⟩
    rcases Option.bind_eq_some_iff.1 h with ⟨merkle, hmerkle, h⟩
    rcases Option.some.inj h
    exact MerkleFields.fields_agree.plain r merkle hmerkle

/-! ## Prepared requests -/

namespace Prepared

variable {ρ : Type}

/-- The fields of a prepared request that are not those of the request. -/
def ownNames : List String :=
  ["merkleProofSource", "identitySerialized"] ++ Fields.names ArtifactPaths ++ ["urlOrigin"]

def ownRecord (p : Prepared ρ) : Record :=
  [("merkleProofSource", toJson p.source)] ++ Record.ofOption "identitySerialized" p.identity
    ++ Fields.toRecord p.artifacts ++ [("urlOrigin", toJson p.origin)]

theorem ownRecord_named (p : Prepared ρ) : (p.ownRecord.map Prod.fst).Sublist ownNames := by
  rcases p with ⟨request, source, _ | identity, artifacts, origin⟩
  · exact .cons_cons _ (.cons _ (.refl _))
  · exact .refl _

/-- The fields of the artifacts are found in between. -/
theorem ownRecord_lookup (p : Prepared ρ) : ∀ name ∈ Fields.names ArtifactPaths,
    Assoc.lookup name p.ownRecord = Assoc.lookup name (Fields.toRecord p.artifacts) := by
  rcases p with ⟨request, source, _ | identity, artifacts, origin⟩
  all_goals
    refine List.forall_mem_cons.2 ⟨rfl, List.forall_mem_cons.2 ⟨rfl, ?_⟩⟩
    exact List.forall_mem_singleton.2 rfl

variable [Fields ρ] {plain : ρ → Prop}

theorem names_eq : Fields.names (Prepared ρ) = Fields.names ρ ++ ownNames := by
  simp only [Fields.names, ownNames, List.append_assoc]

/-- The record of a prepared request is that of the request with what the wallet has added behind
it. -/
theorem toRecord_eq (p : Prepared ρ) :
    Fields.toRecord p = Fields.toRecord p.request ++ p.ownRecord := by
  simp only [Fields.toRecord, ownRecord, List.append_assoc]

/-- A prepared request agrees where the request does, as long as no name of the request is one of
the wallet's. -/
theorem fields_agree (h : Fields.Agrees plain)
    (hothers : ∀ name ∈ ownNames, name ∉ Fields.names ρ) :
    Fields.Agrees fun p : Prepared ρ => plain p.request where
  named p := by
    rw [names_eq, toRecord_eq]
    exact Record.sublist_append (h.named p.request) p.ownRecord_named
  reads p r hp hr := by
    rw [names_eq, toRecord_eq] at hr
    -- The request sees its own fields, which come first; the others are looked for behind them.
    have hrequest : Fields.ofRecord? r = some p.request := by
      refine h.reads p.request r hp fun name hname => ?_
      rw [hr name (List.mem_append_left _ hname), Assoc.lookup_append_left]
      exact fun hmem => hothers name (p.ownRecord_named.subset hmem) hname
    have hown : ∀ name ∈ ownNames, Assoc.lookup name r = Assoc.lookup name p.ownRecord := by
      intro name hname
      rw [hr name (List.mem_append_right _ hname), Assoc.lookup_append_right]
      exact fun hmem => hothers name hname ((h.named p.request).subset hmem)
    have hartifacts : Fields.ofRecord? r = some p.artifacts := by
      refine ArtifactPaths.fields_agree.reads p.artifacts r trivial fun name hname => ?_
      rw [hown name (List.mem_append_left _ (List.mem_append_right _ hname))]
      exact p.ownRecord_lookup name hname
    have hidentity : Assoc.lookup "identitySerialized" p.ownRecord = p.identity.map toJson := by
      rcases p with ⟨request, source, _ | identity, artifacts, origin⟩ <;> rfl
    have horigin : Assoc.lookup "urlOrigin" p.ownRecord = some (toJson p.origin) := by
      rcases p with ⟨request, source, _ | identity, artifacts, origin⟩ <;> rfl
    refine (congrArg (· >>= _) hrequest).trans ?_
    refine (Record.required_bind (a := p.source) (hown "merkleProofSource" (by decide)) _).trans ?_
    refine (Record.optional_bind (fun _ _ hnull => Json.noConfusion hnull)
      ((hown "identitySerialized" (by decide)).trans hidentity) _).trans ?_
    refine (congrArg (· >>= _) hartifacts).trans ?_
    exact Record.required_bind ((hown "urlOrigin" (by decide)).trans horigin) _
  plain r p hp := by
    rcases Option.bind_eq_some_iff.1 hp with ⟨request, hrequest, hp⟩
    rcases Option.bind_eq_some_iff.1 hp with ⟨_, _, hp⟩
    rcases Option.bind_eq_some_iff.1 hp with ⟨_, _, hp⟩
    rcases Option.bind_eq_some_iff.1 hp with ⟨_, _, hp⟩
    rcases Option.bind_eq_some_iff.1 hp with ⟨_, _, hp⟩
    rcases Option.some.inj hp
    exact h.plain r request hrequest

end Prepared

theorem Prepared.semaphore_agrees :
    Wire.Agrees fun p : Prepared SemaphoreRequest => p.request.merkle.Plain :=
  (Prepared.fields_agree SemaphoreRequest.fields_agree (by decide)).ofOpenFields (by decide)

theorem Prepared.rln_agrees :
    Wire.Agrees fun p : Prepared RlnRequest => p.request.merkle.Plain :=
  (Prepared.fields_agree RlnRequest.fields_agree (by decide)).ofOpenFields (by decide)

def ProofJob.Plain : ProofJob → Prop
  | .semaphore p => p.request.merkle.Plain
  | .rln p => p.request.merkle.Plain

/-- A job is one of two prepared requests, with a tag that says which. -/
theorem ProofJob.agrees : Wire.Agrees ProofJob.Plain := by
  refine .of_plain (fun j job h => ?_) fun job h => ?_
  -- A job that is read has been read under one of the two tags.
  · rcases Option.bind_eq_some_iff.1 h with ⟨tagged, _, h⟩
    split at h
    · rcases Option.bind_eq_some_iff.1 h with ⟨prepared, hprepared, h⟩
      rcases Option.some.inj h
      exact Prepared.semaphore_agrees.plain_of_decoded hprepared
    · rcases Option.bind_eq_some_iff.1 h with ⟨prepared, hprepared, h⟩
      rcases Option.some.inj h
      exact Prepared.rln_agrees.plain_of_decoded hprepared
    · cases h
  · cases job with
    | semaphore p =>
        have hdecode : (Wire.ofJson? (toJson (semaphore p)) : Option ProofJob) =
            (Wire.ofJson? (toJson p) >>= fun p => some (semaphore p)) := rfl
        rw [hdecode, (Prepared.semaphore_agrees.reads p).2 h]
        rfl
    | rln p =>
        have hdecode : (Wire.ofJson? (toJson (rln p)) : Option ProofJob) =
            (Wire.ofJson? (toJson p) >>= fun p => some (rln p)) := rfl
        rw [hdecode, (Prepared.rln_agrees.reads p).2 h]
        rfl

/-! ## All types -/

/-- Decoding and encoding agree for all types that travel. -/
structure Wire.FormatsAgree : Prop where
  /-- Requests that wait, and how they are decided. -/
  requestKind : Wire.Agrees fun _ : RequestKind => True
  pendingRequest : Wire.Agrees fun _ : PendingRequest => True
  decision : Wire.Agrees Decision.Plain
  finalizeRequest : Wire.Agrees FinalizeRequest.Plain
  /-- What pages and the wallet's own windows are told. -/
  pageEvent : Wire.Agrees fun _ : PageEvent => True
  extensionMessage : Wire.Agrees fun _ : ExtensionMessage => True
  sessionStatus : Wire.Agrees fun _ : SessionStatus => True
  errorKind : Wire.Agrees fun _ : ErrorKind => True
  errorPayload : Wire.Agrees fun _ : ErrorPayload => True
  /-- What proofs are made of. -/
  fieldElement : Wire.Agrees fun _ : FieldElement => True
  merkleFields : Wire.Agrees MerkleFields.Plain
  merkleSource : Wire.Agrees fun _ : MerkleSource => True
  merkleProof : Wire.Agrees fun _ : MerkleProof => True
  treeData : Wire.Agrees fun _ : TreeData => True
  artifactPaths : Wire.Agrees fun _ : ArtifactPaths => True
  artifactConfig : Wire.Agrees fun _ : ArtifactConfig => True
  /-- Requests for proofs, the jobs they become and the proofs that come of them. -/
  semaphoreRequest : Wire.Agrees fun q : SemaphoreRequest => q.merkle.Plain
  rlnRequest : Wire.Agrees fun q : RlnRequest => q.merkle.Plain
  preparedSemaphore : Wire.Agrees fun p : Prepared SemaphoreRequest => p.request.merkle.Plain
  preparedRln : Wire.Agrees fun p : Prepared RlnRequest => p.request.merkle.Plain
  proofJob : Wire.Agrees ProofJob.Plain
  fullProof : Wire.Agrees fun _ : FullProof => True
  rlnProof : Wire.Agrees fun _ : RlnProof => True
  proofOutput : Wire.Agrees fun _ : ProofOutput => True
  sandboxMessage : Wire.Agrees fun _ : SandboxMessage => True
  /-- What the registries hold, and what is shown of it. -/
  hostPermission : Wire.Agrees fun _ : HostPermission => True
  approvalEntry : Wire.Agrees fun _ : ApprovalEntry => True
  connection : Wire.Agrees fun _ : Connection => True
  connectedIdentity : Wire.Agrees fun _ : ConnectedIdentity => True
  publicIdentity : Wire.Agrees fun _ : PublicIdentity => True
  /-- Backups, and how the wallet is set up. -/
  purpose : Wire.Agrees fun _ : Purpose => True
  uploadBackup : Wire.Agrees fun _ : UploadBackup => True
  storageKeys : Wire.Agrees fun _ : StorageKeys => True

theorem Wire.formats_agree : Wire.FormatsAgree where
  -- Where nothing is exempted, reading back what was written is all there is to it.
  requestKind := Faithful.agrees _
  pendingRequest := Faithful.agrees _
  decision := Decision.agrees
  finalizeRequest := FinalizeRequest.agrees
  pageEvent := Faithful.agrees _
  extensionMessage := Faithful.agrees _
  sessionStatus := Faithful.agrees _
  errorKind := Faithful.agrees _
  errorPayload := Faithful.agrees _
  fieldElement := Faithful.agrees _
  merkleFields := MerkleFields.fields_agree.ofFields (by decide) 3
  merkleSource := Faithful.agrees _
  merkleProof := Faithful.agrees _
  treeData := Faithful.agrees _
  artifactPaths := Faithful.agrees _
  artifactConfig := Faithful.agrees _
  semaphoreRequest := SemaphoreRequest.fields_agree.ofOpenFields (by decide)
  rlnRequest := RlnRequest.fields_agree.ofOpenFields (by decide)
  preparedSemaphore := Prepared.semaphore_agrees
  preparedRln := Prepared.rln_agrees
  proofJob := ProofJob.agrees
  fullProof := Faithful.agrees _
  rlnProof := Faithful.agrees _
  proofOutput := Faithful.agrees _
  sandboxMessage := Faithful.agrees _
  hostPermission := Faithful.agrees _
  approvalEntry := Faithful.agrees _
  connection := Faithful.agrees _
  connectedIdentity := Faithful.agrees _
  publicIdentity := Faithful.agrees _
  purpose := Faithful.agrees _
  uploadBackup := Faithful.agrees _
  storageKeys := Faithful.agrees _

end WalletTrust

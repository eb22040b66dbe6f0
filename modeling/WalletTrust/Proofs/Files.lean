import WalletTrust.Backup.Blob
import WalletTrust.Backup.File
import WalletTrust.Proofs.ReadBack

/-!
# Backup Files Are Read Back

What was written into a backup file comes out of it.

A backup passes through four layers on its way into a file. It is signed, it becomes a member of a
JSON object, the text of the object is encoded byte by byte, and the start of a data URI is put in
front. Each layer is undone by a law of its own.

The members of a file are in order and no name occurs twice, so reading, which lets the last member
of a name count, gives back the members as they are. A file from elsewhere may name a component
twice; nothing is said of it here.

All of it is about bytes and characters, and none about wallets. The escape of a byte is three
characters, and a byte that stands for itself is one; a text is therefore read back from the left,
byte by byte, and what is left over is a text that is read back in turn.

## Theorems

* `Hex.decode?_encode`: The bytes are read back from their digits.
* `BackupBlob.verify_sign`: A signed text is authentic.
* `Percent.decode?_encode`: A text is decoded from its encoding.
* `BackupFile.decodeContent_dataUri`, `BackupFile.ofText?_text`: A file is read back.
* `Percent.undoTriplets_encodeByte`: One byte is read back, whether it stands for itself or is
  written as a triplet.
* `Utf8.encode_ascii`: The bytes of a text of ASCII characters are their numbers.
* `BackupFile.decodeContent_error`: A data URI that cannot be decoded is a corrupted backup.
-/

namespace WalletTrust

/-! ## Signatures -/

namespace Hex

theorem value?_digit : ∀ n < 16, value? (digit n) = some n := by decide

theorem decode?_encode (b : Bytes) : decode? (encode b) = some b := by
  induction b with
  | nil => rfl
  | cons b rest ih =>
      have hb := b.toNat_lt
      have hbyte : 16 * (b.toNat / 16) + b.toNat % 16 = b.toNat := by omega
      simp only [encode, decode?, value?_digit _ (show b.toNat / 16 < 16 by omega),
        value?_digit _ (show b.toNat % 16 < 16 by omega), ih, Option.bind_eq_bind,
        Option.bind_some, Option.pure_def, hbyte, UInt8.ofNat_toNat]

theorem length_encode (b : Bytes) : (encode b).length = 2 * b.length := by
  induction b with
  | nil => rfl
  | cons b rest ih =>
      simp only [encode, List.length_cons, ih]
      omega

end Hex

namespace BackupBlob

theorem length_code (text : List Char) (secret : String) :
    (Hex.encode (mac text secret)).length = codeLength := by
  rw [Hex.length_encode, mac, Keying.length_mac]
  rfl

/-- A text is authentic under the secret that it was signed with. -/
theorem verify_sign (text secret : String) : verify (sign text secret) secret = .ok text := by
  have hlength := length_code text.toList secret
  rw [verify, sign, String.toList_ofList, List.take_left' hlength, List.drop_left' hlength,
    Hex.decode?_encode]
  simp only [if_true, String.ofList_toList]

end BackupBlob

/-! ## Percent encoding -/

/-- The bytes of a text of ASCII characters are their numbers. -/
theorem Utf8.encode_ascii {cs : List Char} (h : ∀ c ∈ cs, c.toNat < 128) :
    Utf8.encode (String.ofList cs) = cs.map fun c => UInt8.ofNat c.toNat := by
  have hbytes : Utf8.encode (String.ofList cs) = cs.flatMap String.utf8EncodeChar := by
    rw [Utf8.encode, String.toByteArray_ofList, List.utf8Encode]
    simp
  rw [hbytes]
  clear hbytes
  induction cs with
  | nil => rfl
  | cons c rest ih =>
      have hc : c.val.toNat ≤ 127 := Nat.le_of_lt_succ (h c List.mem_cons_self)
      rw [List.flatMap_cons, List.map_cons, ih fun d hd => h d (List.mem_cons_of_mem _ hd)]
      simp only [String.utf8EncodeChar, if_pos hc, List.singleton_append]
      rfl

namespace Percent

theorem upperDigit_ascii : ∀ n < 16, (Hex.upperDigit n).toNat < 128 := by decide

/-- The number of the character of a number. -/
theorem toNat_ofNat_ascii {n : Nat} (h : n < 128) : (Char.ofNat n).toNat = n := by
  have hvalid : n.isValidChar := .inl (by omega)
  rw [Char.ofNat, dif_pos hvalid]
  exact UInt32.toNat_ofNatLT

theorem unreserved_ascii {b : UInt8} (h : isUnreserved b = true) : b.toNat < 128 ∧ b ≠ 37 := by
  constructor
  · simp only [isUnreserved, Bool.or_eq_true, Bool.and_eq_true, decide_eq_true_eq] at h
    omega
  · rintro rfl
    cases h

theorem encodeByte_ascii (b : UInt8) : ∀ c ∈ encodeByte b, c.toNat < 128 := by
  have hb := b.toNat_lt
  rw [encodeByte]
  split
  · next h =>
    have hlow := (unreserved_ascii h).1
    rw [List.forall_mem_singleton, toNat_ofNat_ascii hlow]
    exact hlow
  · simp only [List.forall_mem_cons]
    exact ⟨by decide, upperDigit_ascii _ (by omega), upperDigit_ascii _ (by omega),
      fun _ h => absurd h List.not_mem_nil⟩

/-- What starts no triplet is kept. -/
theorem undoTriplets_plain {b : UInt8} (h : b ≠ 37) (rest : Bytes) :
    undoTriplets (b :: rest) = b :: undoTriplets rest := by
  cases rest with
  | nil => rfl
  | cons x rest =>
      cases rest with
      | nil => rfl
      | cons y rest => rw [undoTriplets, if_neg h]

/-- One byte is read back, whether it stands for itself or is written as a triplet. -/
theorem undoTriplets_encodeByte (b : UInt8) (rest : Bytes) :
    undoTriplets ((encodeByte b).map (fun c => UInt8.ofNat c.toNat) ++ rest) =
      b :: undoTriplets rest := by
  have hb := b.toNat_lt
  rw [encodeByte]
  split
  · next h =>
    rcases unreserved_ascii h with ⟨hlow, hplain⟩
    rw [List.map_singleton, toNat_ofNat_ascii hlow, UInt8.ofNat_toNat, List.singleton_append,
      undoTriplets_plain hplain]
  · have hdigit : ∀ n < 16, Hex.value?
        (Char.ofNat (UInt8.ofNat (Hex.upperDigit n).toNat).toNat) = some n := by decide
    have hbyte : 16 * (b.toNat / 16) + b.toNat % 16 = b.toNat := by omega
    have hpercent : UInt8.ofNat ('%' : Char).toNat = 37 := rfl
    simp only [List.map_cons, List.map_nil, List.cons_append, List.nil_append]
    rw [undoTriplets, if_pos hpercent, hdigit _ (by omega), hdigit _ (by omega)]
    simp only [hbyte, UInt8.ofNat_toNat]

theorem undoTriplets_encode (b : Bytes) :
    undoTriplets ((b.flatMap encodeByte).map fun c => UInt8.ofNat c.toNat) = b := by
  induction b with
  | nil => rfl
  | cons b rest ih =>
      rw [List.flatMap_cons, List.map_append, undoTriplets_encodeByte, ih]

theorem decode?_encode (s : String) : decode? (encode s) = some s := by
  have hascii : ∀ c ∈ (Utf8.encode s).flatMap encodeByte, c.toNat < 128 := by
    intro c hc
    rcases List.mem_flatMap.1 hc with ⟨b, _, hb⟩
    exact encodeByte_ascii b c hb
  rw [decode?, encode, Utf8.encode_ascii hascii, undoTriplets_encode, Utf8.decode?_encode]

end Percent

/-! ## Files -/

theorem Json.readsBack_null : Json.ReadsBack .null where
  front := ⟨_, _, rfl, rfl, by decide⟩
  reads fuel rest hfuel := by
    cases fuel with
    | zero => cases hfuel
    | succ fuel => rfl

instance : LawfulWire (Option String) where
  reads s := by
    cases s with
    | none => exact Json.readsBack_null
    | some s => exact Json.readsBack_str s
  decodes s := by
    cases s with
    | none => rfl
    | some s => rfl

namespace BackupFile

theorem afterComma_append {before : List Char} (h : ∀ c ∈ before, c ≠ ',') (data : List Char) :
    afterComma (before ++ ',' :: data) = some data := by
  have hdrop : (before ++ ',' :: data).dropWhile (· ≠ ',') = ',' :: data := by
    rw [List.dropWhile_append_of_pos fun c hc => decide_eq_true (h c hc)]
    rfl
  rw [afterComma, hdrop]

/-- What was made a data URI is taken out of it. -/
theorem decodeContent_dataUri (text : String) : decodeContent (dataUri text) = .ok text := by
  have hcontent : (dataUri text).toList = 'd' :: 'a' :: 't' :: 'a' :: ':' ::
      ("application/json;charset=utf-8".toList ++ ',' :: (Percent.encode text).toList) := by
    rw [dataUri, String.toList_append]
    rfl
  rw [decodeContent, hcontent]
  have hmime : ("application/json;charset=utf-8".toList.all fun c => c ≠ ',') = true := by decide
  have hcomma : ∀ c ∈ "application/json;charset=utf-8".toList, c ≠ ',' :=
    fun c hc => of_decide_eq_true (List.all_eq_true.1 hmime c hc)
  simp only [afterComma_append hcomma, Option.bind_some, String.ofList_toList,
    Percent.decode?_encode]

/-- A data URI that cannot be decoded is a corrupted backup. -/
theorem decodeContent_error {content : String} {e : Error}
    (h : decodeContent content = .error e) : e = .corruptedBackup := by
  rw [decodeContent] at h
  split at h
  · split at h
    · cases h
    · exact (Except.error.inj h).symm
  · cases h

/-- Members in order are put into a file as they are. -/
theorem ofMembers?_map {settled file : BackupFile} (h : Assoc.Sorted (settled ++ file)) :
    ofMembers? settled (file.map fun e => (e.1, toJson e.2)) = some (settled ++ file) := by
  induction file generalizing settled with
  | nil => rw [List.map_nil, ofMembers?, List.append_nil]
  | cons e file ih =>
      have hbelow : ∀ d ∈ settled, d.1 < e.1 := fun d hd =>
        (List.pairwise_append.1 h).2.2 d hd e List.mem_cons_self
      rw [List.map_cons, ofMembers?, LawfulWire.decodes]
      simp only
      rw [Assoc.insert_last hbelow, ih, List.append_assoc]
      · rfl
      · rw [List.append_assoc]
        exact h

/-- A file whose entries are in order is read back from its text. -/
theorem ofText?_text {file : BackupFile} (h : Assoc.Sorted file) :
    ofText? (text file) = some file := by
  have hreads : (Json.obj (file.map fun e => (e.1, toJson e.2))).ReadsBack := by
    refine Json.readsBack_obj fun m hm => ?_
    rcases List.mem_map.1 hm with ⟨e, _, rfl⟩
    exact LawfulWire.reads e.2
  rw [ofText?, text, Json.read?_text hreads]
  exact ofMembers?_map h

end BackupFile

end WalletTrust

import WalletTrust.Proofs.Installations

/-!
# The Data URI Is Transparent

Whether a backup is uploaded as a data URI or as the bare text makes no difference.

Uploading takes both, and tells them apart by their start alone. So a bare text could be mistaken
for a data URI, but one that starts as those do is no JSON, as no value starts with that letter. A
text that can be restored is therefore taken for itself when it is bare, and comes out of the data
URI that downloading makes of it. Whatever uploading does with it after that, it does in both cases.

As a text comes out of its data URI, two texts do not have the same one. The members of a file come
out of its text, so two files do not have the same one either.

The two directions are stated for every text, not only for the texts that a wallet writes. A text
with characters outside of ASCII is encoded byte by byte, and a text may have the look of a data URI
somewhere in the middle; neither makes a difference.

## Main definitions

* `BackupFile.Transparent`: Nothing depends on whether a text is made a data URI.

## Theorems

* `Json.read?_data`: What starts as a data URI is no JSON.
* `Wallet.uploadBackup_dataUri`: A document is uploaded bare as it is uploaded as a data URI.
* `Wallet.downloadBackup_dataUri`: What is downloaded is the data URI of a file.
* `BackupFile.transparent`: So the data URI is transparent.
* `Wallet.uploadBackup_congr`: Contents with the same text inside are uploaded alike.
* `BackupFile.decodeContent_of_read?`: A JSON text is taken for itself.
-/

namespace WalletTrust

namespace Json

/-- No value starts with the letter that a data URI starts with. -/
theorem readValue_data (fuel : Nat) (rest : List Char) : readValue fuel ('d' :: rest) = none := by
  cases fuel with
  | zero => rfl
  | succ fuel => rw [readValue]; rfl

theorem read?_data {text : String} (h : "data:".toList <+: text.toList) : read? text = none := by
  rcases h with ⟨rest, hrest⟩
  rw [read?, ← hrest]
  simp only [String.reduceToList, List.cons_append, readValue_data]

end Json

namespace BackupFile

theorem decodeContent_bare {content : String} (h : ¬ "data:".toList <+: content.toList) :
    decodeContent content = .ok content := by
  rw [decodeContent]
  split
  · next rest hcontent =>
    rw [hcontent] at h
    exact absurd ⟨rest, rfl⟩ h
  · rfl

/-- A JSON text is taken for itself. -/
theorem decodeContent_of_read? {text : String} (h : (Json.read? text).isSome) :
    decodeContent text = .ok text := by
  refine decodeContent_bare fun hdata => ?_
  rw [Json.read?_data hdata] at h
  cases h

theorem dataUri_injective {a b : String} (h : dataUri a = dataUri b) : a = b := by
  have hboth := congrArg decodeContent h
  rw [decodeContent_dataUri, decodeContent_dataUri] at hboth
  exact Except.ok.inj hboth

theorem text_injective {f g : BackupFile} (hf : Assoc.Sorted f) (hg : Assoc.Sorted g)
    (h : text f = text g) : f = g := by
  have hboth := congrArg ofText? h
  rw [ofText?_text hf, ofText?_text hg] at hboth
  exact Option.some.inj hboth

/-- What is a file is JSON. -/
theorem read?_of_ofText? {json : String} {file : BackupFile} (h : ofText? json = some file) :
    (Json.read? json).isSome := by
  rw [ofText?] at h
  split at h
  · next hread => rw [hread]; rfl
  · cases h

end BackupFile

namespace Wallet

/-- Contents with the same text inside are uploaded alike. -/
theorem uploadBackup_congr {a b : String}
    (h : BackupFile.decodeContent a = BackupFile.decodeContent b) (own password : String) :
    uploadBackup (upload a own password) = uploadBackup (upload b own password) := by
  simp only [uploadBackup, h]

theorem uploadBackup_dataUri {text : String} (h : (Json.read? text).isSome)
    (own password : String) :
    uploadBackup (upload (BackupFile.dataUri text) own password) =
      uploadBackup (upload text own password) := by
  refine uploadBackup_congr ?_ own password
  rw [BackupFile.decodeContent_dataUri, BackupFile.decodeContent_of_read? h]

/-- What is downloaded is the data URI of a file with its members in order. -/
theorem downloadBackup_dataUri {password content : String} {w v : Wallet}
    (h : downloadBackup password w = (.ok content, v)) :
    ∃ file, Assoc.Sorted file ∧ content = BackupFile.dataUri (BackupFile.text file) := by
  rw [downloadBackup] at h
  rcases Op.bind_cases h with ⟨_, t, _, h⟩
  rcases Op.bind_cases h with ⟨_, t', _, h⟩
  rcases Op.bind_cases h with ⟨file, u, hcollect, hfile⟩
  refine ⟨file, (collect_keys hcollect List.Pairwise.nil).1, ?_⟩
  exact (Except.ok.inj (congrArg Prod.fst hfile)).symm

end Wallet

namespace BackupFile

/-- Nothing depends on whether a text is made a data URI. -/
structure Transparent : Prop where
  /-- A text comes out of its data URI. -/
  encoded : ∀ text, decodeContent (dataUri text) = .ok text
  /-- What does not start as a data URI is taken for itself. -/
  bare : ∀ content : String, ¬ "data:".toList <+: content.toList →
    decodeContent content = .ok content
  /-- A JSON document is uploaded in the same way, with the same outcome and to the same effect. -/
  uploaded : ∀ text, (Json.read? text).isSome → ∀ (own password : String) (w : Wallet),
    Wallet.uploadBackup (Wallet.upload (dataUri text) own password) w =
      Wallet.uploadBackup (Wallet.upload text own password) w
  /-- A wallet downloads the data URI of such a document. -/
  downloaded : ∀ (password content : String) (w v : Wallet),
    Wallet.downloadBackup password w = (.ok content, v) → ∃ file, Assoc.Sorted file ∧
      content = dataUri (text file) ∧ (Json.read? (text file)).isSome
  /-- Different documents do not have the same data URI, -/
  distinct : ∀ a b, dataUri a = dataUri b → a = b
  /-- and neither do different files. -/
  faithful : ∀ f g, Assoc.Sorted f → Assoc.Sorted g → dataUri (text f) = dataUri (text g) → f = g

/-- A data URI stands for the text that it is made of. -/
theorem transparent : Transparent where
  encoded := decodeContent_dataUri
  bare _ := decodeContent_bare
  uploaded _ h own password w := congrFun (Wallet.uploadBackup_dataUri h own password) w
  downloaded _ _ _ _ h := by
    rcases Wallet.downloadBackup_dataUri h with ⟨file, hsorted, hcontent⟩
    exact ⟨file, hsorted, hcontent, read?_of_ofText? (ofText?_text hsorted)⟩
  distinct _ _ := dataUri_injective
  faithful _ _ hf hg h := text_injective hf hg (dataUri_injective h)

end BackupFile

end WalletTrust

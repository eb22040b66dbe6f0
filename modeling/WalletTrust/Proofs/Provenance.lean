import WalletTrust.Proofs.Adopting
import WalletTrust.Proofs.Posing
import WalletTrust.Proofs.Warrants

/-!
# Provenance of Trust

Where the trust in an origin comes from.

What is asked of the user is an origin's approval, and then the identity to connect it to. If a
wallet begins with nothing kept, and if nobody presumes the user's agreement or writes to its slots,
then all trust that it ever holds goes back to such a question: each approval to an accepted request
to approve the origin, each flag to data that said so or to a later change of the flag, and each
connection to an accepted request to choose an identity for the origin. That holds of what is kept
as well as of what is loaded, through locking and unlocking, refused writes and flows that go on in
whatever state they find.

The invariant is a warrant that grows from stage to stage: what the user has agreed to by then. Most
deeds take trust away, and those that add some are those of going on with an answer. That only one
password counts is part of it. There is one verifier, since the first is never removed, and by
assumption no other password opens it.

## Main definitions

* `Run.Approved`, `Run.SkipAllowed`, `Run.Chosen`: What the user has agreed to.
* `Run.HoldsApproval`, `Run.HoldsConnection`: What a wallet trusts, in memory or in its slots.
* `Run.Regular`: Nobody presumes the user's agreement.
* `Run.Provenance`: All trust goes back to the user.

## Theorems

* `Json.allowsSkipping_of_decode`: Data that sets the flag says so.
* `Run.setsUp_once`: A password is set up once.
* `Run.call_warranted`, `Run.goOn_warranted`: The deeds of a stage are warranted after it.
* `Run.provenance`: All trust goes back to the user, in every regular run.
* `Run.verifier_stage`, `Run.verifier_stays`: The verifier changes only where a password is set up,
  and stays.
* `Run.warranted`: At all times the wallet keeps to what the user has agreed to.
* `Run.provenance_firstVisit`: What is trusted after a first visit goes back to the user.
-/

namespace WalletTrust

open Wallet (originPayload decodeData)

/-! ## What the data of an answer says -/

/-- Data that says that confirmations may be skipped: an object with the flag set, or the array of
that alone. -/
def Json.AllowsSkipping (data : Json) : Prop :=
  (∃ members, data = .obj members ∧
    Assoc.lookup "canSkipApprove" members = some (.bool true)) ∨ data = .arr [.bool true]

theorem Wallet.decodeData_cases {α : Type} [Wire α] {otherwise a : α} {data : Json}
    (h : decodeData otherwise data = .ok a) :
    (data = .null ∧ a = otherwise) ∨ Wire.ofJson? data = some a := by
  unfold decodeData at h
  split at h
  · exact .inl ⟨rfl, (Except.ok.inj h).symm⟩
  · rw [Wire.decode] at h
    split at h
    · next hdecode => exact .inr (hdecode.trans (congrArg some (Except.ok.inj h)))
    · cases h

/-- A flag that is set is there, and it is true. -/
theorem Record.lookup_of_default {r : Record} {name : String}
    (h : r.default name false = some true) : Assoc.lookup name r = some (.bool true) := by
  rw [Record.default] at h
  split at h
  · cases h
  · next j hlookup =>
    rw [hlookup]
    cases j with
    | bool b =>
        rcases Option.some.inj h
        rfl
    | _ => cases h

/-- Data that sets the flag says so. -/
theorem Json.allowsSkipping_of_decode {data : Json} {p : HostPermission}
    (h : decodeData {} data = .ok p) (hskip : p.canSkipApprove = true) : data.AllowsSkipping := by
  -- Without data the flag is not set.
  rcases Wallet.decodeData_cases h with ⟨_, rfl⟩ | hdecode
  · cases hskip
  rcases Option.bind_eq_some_iff.1 hdecode with ⟨r, hr, hfields⟩
  rcases Option.bind_eq_some_iff.1 hfields with ⟨flag, hflag, hp⟩
  rcases Option.some.inj hp
  rcases (hskip : flag = true)
  have hset := Record.lookup_of_default hflag
  cases data with
  | obj members =>
      have hmembers : openRecord? ["canSkipApprove"] (.obj members) = some r := hr
      rw [openRecord?] at hmembers
      split at hmembers
      · rcases Option.some.inj hmembers
        exact .inl ⟨_, rfl, hset⟩
      · cases hmembers
  | arr items =>
      rw [record?] at hr
      split at hr
      · next hlength =>
        rcases Option.some.inj hr
        -- An array gives the fields in their order, and there is one field only.
        rcases items with _ | ⟨item, _ | ⟨_, rest⟩⟩
        · cases hset
        · rcases Option.some.inj hset
          exact .inr rfl
        · simp only [List.length_cons, List.length_nil] at hlength
          omega
      · cases hr
  | _ => cases hr

/-! ## What is agreed and what is held -/

/-- A call that has an origin trusted without a question. -/
def Call.Presumes : Call → Prop
  | .approve _ => True
  | .connectIdentity _ _ => True
  | .uploadBackup _ => True
  | .uploadComponent _ _ _ => True
  | _ => False

namespace Run

variable {run : Run} {t u n : Nat} {on : Waiting} {origin commitment password : String}

/-- The user has accepted to approve an origin, with data that is a permission or none. -/
def Approved (run : Run) (t : Nat) (origin : String) : Prop :=
  ∃ k < t, ∃ data, run.Accepts k .approve (originPayload origin) data ∧
    ∃ p : HostPermission, decodeData {} data = .ok p

/-- The user has accepted to approve an origin with the flag set, or the flag was set later. -/
def SkipAllowed (run : Run) (t : Nat) (origin : String) : Prop :=
  (∃ k < t, ∃ data, run.Accepts k .approve (originPayload origin) data ∧ data.AllowsSkipping) ∨
  ∃ k < t, run.move k = .call (.setPermission origin true) ∧
    ∃ answer, run.outcome k = some (.ok answer)

/-- The user has accepted to choose an identity for an origin. The data named it, or it named none
and the identity was the selected one when the request went on. -/
def Chosen (run : Run) (t : Nat) (origin commitment : String) : Prop :=
  ∃ k < t, ∃ data, ∃ choice : IdentityChoice,
    run.Accepts k .connectIdentity (originPayload origin) data ∧ decodeData {} data = .ok choice ∧
    (choice.commitment = some commitment ∨
      choice.commitment = none ∧ ∃ u < t, k < u ∧
        (∃ n on id c, run.GoesOn u n on ∧ on.asked? = some (id, c, .identityChoice origin)) ∧
        (run.wallet u).host.identities.selected = some commitment)

/-- An origin has a permission, in memory or in what is kept under the password. -/
def HoldsApproval (run : Run) (t : Nat) (origin : String) (p : HostPermission) : Prop :=
  (run.wallet t).permission? origin = some p ∨
  ∃ u password m, run.SetsUp u password ∧
    Shelf.Holds approvalsLabel password
      ((run.wallet t).kept run.config.storageKeys.approvals) m ∧ m.get? origin = some p

/-- An origin is connected, in memory or in what is kept under the password. -/
def HoldsConnection (run : Run) (t : Nat) (origin commitment : String) : Prop :=
  (∃ connection, (run.wallet t).connection? origin = some connection ∧
    connection.commitment = commitment) ∨
  ∃ u password m, ∃ i : ConnectedIdentity, run.SetsUp u password ∧
    Shelf.Holds connectionsLabel password
      ((run.wallet t).kept run.config.storageKeys.connections) m ∧
    m.get? origin = some i ∧ i.commitment = commitment

/-- A slot of the wallet. -/
def OwnSlot (run : Run) (name : String) : Prop :=
  name = run.config.storageKeys.password ∨ name = run.config.storageKeys.approvals ∨
    name = run.config.storageKeys.connections

/-- A run that begins with nothing kept and in which nobody presumes the user's agreement, writes to
the slots from outside, or unlocks with any password but the one that was set up. -/
structure Regular (run : Run) : Prop where
  keys : run.config.storageKeys.Distinct
  blank : ∀ name, run.OwnSlot name → (run.wallet 0).kept name = none
  unpresumed : ∀ t call, run.move t = .call call → ¬ call.Presumes
  unwritten : ∀ t name, run.OwnSlot name → ¬ run.WrittenAt t name
  password : ∀ t u p q, run.SetsUp t p → run.Unlocks u q → q = p

/-- All trust goes back to the user. -/
structure Provenance (run : Run) (t : Nat) : Prop where
  approvals : ∀ origin p, run.HoldsApproval t origin p →
    run.Approved t origin ∧ (p.canSkipApprove = true → run.SkipAllowed t origin)
  connections : ∀ origin commitment, run.HoldsConnection t origin commitment →
    run.Chosen t origin commitment

/-! ## The password -/

/-- The verifier changes only where a password is set up. -/
theorem verifier_stage (h : run.Regular) (t : Nat) :
    (run.wallet (t + 1)).kept run.config.storageKeys.password =
        (run.wallet t).kept run.config.storageKeys.password ∨
      ∃ password, run.SetsUp t password := by
  have hconfig := run.config_eq t
  -- The slot is no registry's, so an act that writes it sets a password up.
  rcases run.deeds_stage t with ⟨call, hmove, hacts⟩ | ⟨n, on, hgoes, hacts⟩ | hout
  · rcases hacts.kept_of_other (by rw [hconfig]; exact h.keys.approvals)
      (by rw [hconfig]; exact h.keys.connections) with hsame | ⟨password, hdeed⟩
    · exact .inl hsame
    · exact .inr ⟨password, setsUp_of_deeds hmove hdeed⟩
  · rcases hacts.kept_of_other (by rw [hconfig]; exact h.keys.approvals)
      (by rw [hconfig]; exact h.keys.connections) with hsame | ⟨_, _, _, _, _, _, _, hdeed⟩
    · exact .inl hsame
    · exact hdeed.elim
  · exact .inl (hout.kept _ (h.unwritten t _ (.inl rfl)))

/-- Where there is a verifier, a password was set up. -/
theorem setsUp_of_verifier (h : run.Regular)
    (hverifier : ((run.wallet t).kept run.config.storageKeys.password).isSome) :
    ∃ u < t, ∃ password, run.SetsUp u password := by
  induction t with
  | zero =>
      rw [h.blank _ (.inl rfl)] at hverifier
      cases hverifier
  | succ t ih =>
      rcases verifier_stage h t with hsame | hsets
      · rw [hsame] at hverifier
        rcases ih hverifier with ⟨u, hut, hsets⟩
        exact ⟨u, Nat.lt_succ_of_lt hut, hsets⟩
      · exact ⟨t, Nat.lt_succ_self t, hsets⟩

/-- A verifier stays. -/
theorem verifier_stays (h : run.Regular) (hsets : run.SetsUp t password) (htu : t < u) :
    ((run.wallet u).kept run.config.storageKeys.password).isSome := by
  induction htu with
  | refl => exact hsets.written
  | @step u _ ih =>
      rcases verifier_stage h u with hsame | ⟨_, hagain⟩
      · rw [hsame]
        exact ih
      · exact hagain.written

/-- A password is set up once. -/
theorem setsUp_once (h : run.Regular) {p q : String} (hp : run.SetsUp t p)
    (hq : run.SetsUp u q) : p = q := by
  -- Whoever sets up a password finds no verifier, so nobody has done so before.
  have hnot {a b : Nat} {p q : String} (ha : run.SetsUp a p) (hb : run.SetsUp b q) : ¬ a < b :=
    fun hab => by
      have hstays := verifier_stays h ha hab
      rw [hb.empty] at hstays
      cases hstays
  rcases Nat.lt_trichotomy t u with hlt | rfl | hlt
  · exact absurd hlt (hnot hp hq)
  · -- One call sets up one password.
    rcases hp.move with hmove | hmove
    · rcases hq.move with hmove' | hmove'
      · exact Call.setupPassword.inj (Move.call.inj (hmove.symm.trans hmove'))
      · cases hmove.symm.trans hmove'
    · rcases hq.move with hmove' | hmove'
      · cases hmove.symm.trans hmove'
      · exact Call.setupLock.inj (Move.call.inj (hmove.symm.trans hmove'))
  · exact absurd hlt (hnot hq hp)

/-! ## The warrant of a stage -/

/-- What the user has agreed to before a stage, with the passwords of the whole run. -/
def warrant (run : Run) (t : Nat) : Warrant where
  password p := ∃ u, run.SetsUp u p
  approval origin p :=
    run.Approved t origin ∧ (p.canSkipApprove = true → run.SkipAllowed t origin)
  connection origin i := run.Chosen t origin i.commitment

theorem Approved.succ (h : run.Approved t origin) : run.Approved (t + 1) origin := by
  rcases h with ⟨k, hkt, hagreed⟩
  exact ⟨k, Nat.lt_succ_of_lt hkt, hagreed⟩

theorem SkipAllowed.succ (h : run.SkipAllowed t origin) : run.SkipAllowed (t + 1) origin := by
  rcases h with ⟨k, hkt, hagreed⟩ | ⟨k, hkt, hset⟩
  · exact .inl ⟨k, Nat.lt_succ_of_lt hkt, hagreed⟩
  · exact .inr ⟨k, Nat.lt_succ_of_lt hkt, hset⟩

theorem Chosen.succ (h : run.Chosen t origin commitment) :
    run.Chosen (t + 1) origin commitment := by
  rcases h with ⟨k, hkt, data, choice, haccepts, hdecode, hnamed | ⟨hnone, u, hut, hselected⟩⟩
  · exact ⟨k, Nat.lt_succ_of_lt hkt, data, choice, haccepts, hdecode, .inl hnamed⟩
  · exact ⟨k, Nat.lt_succ_of_lt hkt, data, choice, haccepts, hdecode,
      .inr ⟨hnone, u, Nat.lt_succ_of_lt hut, hselected⟩⟩

/-- What the user has agreed to stays agreed. -/
theorem warranted_succ {w : Wallet} (h : w.Warranted (run.warrant t)) :
    w.Warranted (run.warrant (t + 1)) :=
  h.mono rfl (fun _ _ hp => ⟨hp.1.succ, fun hskip => (hp.2 hskip).succ⟩) fun _ _ hi => hi.succ

/-- The deeds of a call are warranted after it. -/
theorem call_warranted (h : run.Regular) {call : Call} (hmove : run.move t = .call call) {d : Deed}
    (hd : call.Deeds (run.wallet t) d) : d.Warranted (run.warrant (t + 1)) := by
  have hasks := h.unpresumed t call hmove
  cases d with
  | approvals m next =>
      intro hm
      cases call with
      | approve => exact absurd trivial hasks
      | uploadBackup => exact absurd trivial hasks
      | uploadComponent => exact absurd trivial hasks
      | setPermission origin flag =>
          rcases hd with ⟨hknown, rfl, hok⟩
          rcases Option.isSome_iff_exists.1 hknown with ⟨p, hp⟩
          -- The origin was approved already, and it is the call that sets the flag.
          refine hm.insert ⟨(hm origin p hp).1, fun hskip => .inr ⟨t, Nat.lt_succ_self t, ?_, ?_⟩⟩
          · rw [hmove]
            exact congrArg (fun b => Move.call (.setPermission origin b)) hskip
          · exact ⟨_, (outcome_call hmove).trans (by rw [hok]; rfl)⟩
      | unapprove origin => exact hd ▸ hm.erase origin
      | revoke origin => exact hd ▸ hm.erase origin
      | clearApprovals => exact hd ▸ OriginMap.all_empty
      | _ => exact hd.elim
  | connections m next =>
      intro hm
      cases call with
      | connectIdentity => exact absurd trivial hasks
      | uploadBackup => exact absurd trivial hasks
      | uploadComponent => exact absurd trivial hasks
      | disconnect =>
          rcases hd with ⟨o, rfl⟩
          exact hm.erase o
      | revoke =>
          rcases hd with ⟨o, rfl⟩
          exact hm.erase o
      | clearConnections => exact hd ▸ OriginMap.all_empty
      | _ => exact hd.elim
  | unlock password =>
      -- There is a verifier, so a password was set up, and no other unlocks the session.
      rcases unlocks_of_deeds hmove hd with ⟨hunlocks, hverifier⟩
      rcases setsUp_of_verifier h hverifier with ⟨u, _, p, hsets⟩
      rw [Deed.Warranted, h.password u t p password hsets hunlocks]
      exact ⟨u, hsets⟩
  | setUp password => exact ⟨t, setsUp_of_deeds hmove hd⟩
  | lock => trivial

/-- The deeds of going on are warranted by the answer. -/
theorem goOn_warranted (hgoes : run.GoesOn t n on) {d : Deed} (hd : on.Deeds (run.wallet t) d) :
    d.Warranted (run.warrant (t + 1)) := by
  rcases hd with ⟨id, channel, errand, outcome, hasked, hanswer, hd⟩
  cases d with
  | approvals m next =>
      intro hm
      rcases hd with ⟨origin, changeIdentity, data, p, rfl, rfl, hdecode, rfl⟩
      rcases accepted_of_answer (posed hgoes.waits hasked rfl) hanswer with ⟨k, hkt, haccepts⟩
      refine hm.insert ⟨⟨k, Nat.lt_succ_of_lt hkt, data, haccepts, p, hdecode⟩, fun hskip => ?_⟩
      exact .inl ⟨k, Nat.lt_succ_of_lt hkt, data, haccepts,
        Json.allowsSkipping_of_decode hdecode hskip⟩
  | connections m next =>
      intro hm
      -- The request goes on after the acceptance, and who is selected by then is chosen.
      rcases hd with ⟨origin, data, choice, commitment, name, rfl, rfl, hdecode, hnamed, rfl⟩
      rcases accepted_of_answer (posed hgoes.waits hasked rfl) hanswer with ⟨k, hkt, haccepts⟩
      refine hm.insert ⟨k, Nat.lt_succ_of_lt hkt, data, choice, haccepts, hdecode, ?_⟩
      exact hnamed.imp_right fun ⟨hnone, hselected⟩ =>
        ⟨hnone, t, Nat.lt_succ_self t, hkt, ⟨n, on, id, channel, hgoes, hasked⟩, hselected⟩
  | _ => exact hd.elim

/-- At all times the wallet keeps to what the user has agreed to. -/
theorem warranted (h : run.Regular) (t : Nat) : (run.wallet t).Warranted (run.warrant t) := by
  have hone : ∀ a b, (∃ u, run.SetsUp u a) → (∃ u, run.SetsUp u b) → a = b :=
    fun a b ⟨_, ha⟩ ⟨_, hb⟩ => setsUp_once h ha hb
  -- Every entry has its warrant when it is written, and warrants are kept.
  induction t with
  | zero =>
      have hempty (name : String) (hown : run.OwnSlot name) :
          (run.wallet 0).kept name = none := h.blank name hown
      refine ⟨by rintro key ⟨⟩, ?_, ?_⟩
      · rw [run.config_eq 0, hempty _ (.inr (.inl rfl))]
        exact Shelf.warranted_empty
      · rw [run.config_eq 0, hempty _ (.inr (.inr rfl))]
        exact Shelf.warranted_empty
  | succ t ih =>
      have hkeys : (run.wallet t).config.storageKeys.Distinct := by
        rw [run.config_eq t]
        exact h.keys
      rcases run.deeds_stage t with ⟨call, hmove, hacts⟩ | ⟨n, on, hgoes, hacts⟩ | hout
      · exact hacts.warranted hkeys hone (fun d => call_warranted h hmove) (warranted_succ ih)
      · exact hacts.warranted hkeys hone (fun d => goOn_warranted hgoes) (warranted_succ ih)
      · refine hout.warranted ?_ ?_ (warranted_succ ih)
        · rw [run.config_eq t]
          exact h.unwritten t _ (.inr (.inl rfl))
        · rw [run.config_eq t]
          exact h.unwritten t _ (.inr (.inr rfl))

/-! ## The whole run -/

/-- All trust goes back to the user, in every regular run. -/
theorem provenance (h : run.Regular) (t : Nat) : run.Provenance t where
  approvals origin p hholds := by
    have hw := warranted h t
    -- It is held in memory, or kept for the one password there has ever been.
    rcases hholds with hloaded | ⟨u, password, m, hsets, hm, hget⟩
    · rcases Option.bind_eq_some_iff.1 hloaded with ⟨m, hm, hget⟩
      exact hw.approvals.loaded m hm origin p hget
    · refine hw.approvals.kept password m ⟨u, hsets⟩ ?_ origin p hget
      rw [run.config_eq t]
      exact hm
  connections origin commitment hholds := by
    have hw := warranted h t
    rcases hholds with ⟨connection, hloaded, rfl⟩ | ⟨u, password, m, i, hsets, hm, hget, rfl⟩
    · rcases Option.map_eq_some_iff.1 hloaded with ⟨i, hbind, rfl⟩
      rcases Option.bind_eq_some_iff.1 hbind with ⟨m, hm, hget⟩
      exact hw.connections.loaded m hm origin i hget
    · refine hw.connections.kept password m ⟨u, hsets⟩ ?_ origin i hget
      rw [run.config_eq t]
      exact hm

/-- An origin connects for the first time. The user approves it, with the flag set, and chooses an
identity. Then the session is locked and unlocked again. -/
def firstVisit : Run where
  move
    | 0 => .host (.insertIdentity
        { commitment := "111", name := "Account", serialized := "secret" })
    | 1 => .call (.setupPassword "password")
    | 2 => .call (.connect "https://a.test" false)
    | 3 => .call (.finalize
        { id := 0, status := .accept, data := some (.obj [("canSkipApprove", .bool true)]) })
    | 4 => .goOn 2
    | 5 => .call (.finalize
        { id := 1, status := .accept, data := some (.obj [("commitment", .str "111")]) })
    | 6 => .goOn 2
    | 7 => .call .logout
    | _ => .call (.unlock "password")

theorem firstVisit_after (d : Nat) : firstVisit.wallet (2 + d) = (firstVisit.after 2
    (System.run 1 (Wallet.finish .flag (Wallet.adopt "password")) (firstVisit.system 1)).2
    d).wallet :=
  congrArg System.wallet (system_adopts_add rfl (by decide) (by decide +kernel) (by decide +kernel)
    (by decide +kernel) d)

theorem firstVisit_password {t : Nat} {p : String}
    (h : firstVisit.move t = .call (.setupPassword p) ∨ firstVisit.move t = .call (.setupLock p) ∨
      firstVisit.move t = .call (.unlock p) ∨ firstVisit.move t = .call (.openLock p)) :
    p = "password" := by
  rcases t with _ | _ | _ | _ | _ | _ | _ | _ | t
  all_goals
    rcases h with h | h | h | h
    all_goals cases h
    all_goals rfl

theorem firstVisit_regular : firstVisit.Regular where
  -- Eight moves are made, and none of them is out of order.
  keys := ⟨by decide, by decide, by decide⟩
  blank _ _ := rfl
  unpresumed t call hmove := by
    rcases t with _ | _ | _ | _ | _ | _ | _ | _ | t
    all_goals
      cases hmove
      try exact id
  unwritten t name _ := by
    rintro ⟨action, hmove, hwrites⟩
    rcases t with _ | _ | _ | _ | _ | _ | _ | _ | t
    all_goals
      cases hmove
      try exact hwrites
  password t u p q hsets hunlocks := by
    have hp : p = "password" := firstVisit_password (hsets.move.imp_right .inl)
    have hq : q = "password" := firstVisit_password (.inr (.inr hunlocks.move))
    rw [hp, hq]

theorem firstVisit_holds : firstVisit.HoldsApproval 7 "https://a.test" { canSkipApprove := true } ∧
    firstVisit.HoldsConnection 7 "https://a.test" "111" := by
  let connection : Connection :=
    { origin := "https://a.test", commitment := "111", name := "Account" }
  refine ⟨.inl ?_, .inl ⟨connection, ?_, rfl⟩⟩
  · rw [firstVisit_after 5]
    decide +kernel
  · rw [firstVisit_after 5]
    decide +kernel

/-- What is trusted then goes back to the user. -/
theorem provenance_firstVisit : firstVisit.Approved 7 "https://a.test" ∧
    firstVisit.SkipAllowed 7 "https://a.test" ∧ firstVisit.Chosen 7 "https://a.test" "111" := by
  rcases firstVisit_holds with ⟨happroval, hconnection⟩
  have hgoesBack := provenance firstVisit_regular 7
  rcases hgoesBack.approvals _ _ happroval with ⟨happroved, hskip⟩
  exact ⟨happroved, hskip rfl, hgoesBack.connections _ _ hconnection⟩

end Run

end WalletTrust

import WalletTrust.Proofs.Calls
import WalletTrust.Proofs.RegistryDeeds

/-!
# Deeds of Flows and Calls

Which deeds a call may do, and which the parts of a flow.

A connect request does no deed before an answer. It approves what is approved already in the same
way as before, and that edits nothing. With an answer, the errand says what is done: an approval
sets the permission that the data of the answer decodes to, and a choice connects the origin to the
identity that the data names, or to the selected one if it names none.

The deeds of a call are known from the call and the state in which it is made. For a call whose
outcome matters, they include it: a flag is changed only by a call that succeeds.

It matters that the deeds of an answer are known from the wallet that gets it and not from the one
that asked. Nothing is captured but the errand: an identity that is not named by the answer is the
one that is selected when the answer is there, and the map that is edited is the one that is loaded
by then.

## Main definitions

* `Errand.Deeds`, `Waiting.Deeds`: The deeds of going on.
* `Call.Deeds`: The deeds of a call.

## Theorems

* `Wallet.approve_known`: To approve an origin as it is approved changes nothing.
* `Wallet.goOn_looks`: Whoever waits for an answer looks for it.
* `Wallet.fulfil_acts`, `Wallet.resume_acts`: Going on does its deeds and no others.
* `Wallet.perform_acts`: A call does its deeds and no others.
* `Waiting.leaves`: Going on touches the origin that its errand is for.
* `Waiting.deeds_apart`: Going on changes the secret in no way.
* `Wallet.connect_acts`: A connect request does no deed before an answer.
* `Wallet.unlockCall_acts`, `Wallet.setUpCall_acts`: The calls that unlock the session and set up
  its password.
-/

namespace WalletTrust

namespace Errand

/-- The deeds that an errand leads to with an answer. -/
def Deeds (w : Wallet) (outcome : Except Error Json) (errand : Errand) : Deed → Prop
  | .approvals m next => ∃ origin changeIdentity data p,
      errand = .approval origin changeIdentity ∧ outcome = .ok data ∧
      Wallet.decodeData {} data = .ok p ∧ next = m.insert origin p
  | .connections m next => ∃ origin data, ∃ choice : IdentityChoice, ∃ commitment name,
      errand = .identityChoice origin ∧ outcome = .ok data ∧
      Wallet.decodeData {} data = .ok choice ∧
      (choice.commitment = some commitment ∨
        choice.commitment = none ∧ w.host.identities.selected = some commitment) ∧
      next = m.insert origin { commitment, name }
  | _ => False

end Errand

namespace Waiting

/-- The deeds that going on after a wait leads to. -/
def Deeds (w : Wallet) (on : Waiting) (d : Deed) : Prop :=
  ∃ id channel errand outcome, on.asked? = some (id, channel, errand) ∧
    w.core.queue.answer? channel = some outcome ∧ errand.Deeds w outcome d

/-- Going on changes the secret in no way. -/
theorem deeds_apart {w : Wallet} {on : Waiting} {d : Deed} (h : on.Deeds w d) : ¬ d.OfSession := by
  rcases h with ⟨_, _, errand, _, _, _, hd⟩
  cases d with
  | approvals => exact id
  | connections => exact id
  | _ => exact hd.elim

/-- Going on leaves the origins as they are that it neither approves nor connects. -/
theorem leaves {w : Wallet} {on : Waiting} {d : Deed} {origin : String}
    (h : ∀ id channel errand, on.asked? = some (id, channel, errand) → ¬ errand.Links origin)
    (hd : on.Deeds w d) : d.Leaves origin := by
  rcases hd with ⟨id, channel, errand, outcome, hasked, _, hd⟩
  have hother := h id channel errand hasked
  cases d with
  | approvals m next =>
      rcases hd with ⟨o, _, _, p, rfl, _, _, rfl⟩
      exact OriginMap.get?_insert_of_ne (Ne.symm hother) m p
  | connections m next =>
      rcases hd with ⟨o, _, _, _, _, rfl, _, _, _, rfl⟩
      exact OriginMap.get?_insert_of_ne (Ne.symm hother) m _
  | _ => trivial

end Waiting

/-- The deeds of a call. -/
def Call.Deeds (w : Wallet) (call : Call) : Deed → Prop
  | .approvals m next =>
    match call with
    | .approve entry => next = m.insert entry.origin { canSkipApprove := entry.canSkipApprove }
    | .setPermission origin flag =>
      (m.get? origin).isSome ∧ next = m.insert origin { canSkipApprove := flag } ∧
        (Wallet.perform call w).1 =
          .ok (.finished (.permission (some { canSkipApprove := flag })))
    | .unapprove origin => next = m.erase origin
    | .revoke origin => next = m.erase origin
    | .clearApprovals => next = .empty
    | .uploadBackup _ => True
    | .uploadComponent _ _ _ => True
    | _ => False
  | .connections m next =>
    match call with
    | .connectIdentity commitment origin => ∃ name, next = m.insert origin { commitment, name }
    | .disconnect _ => ∃ origin, next = m.erase origin
    | .revoke _ => ∃ origin, next = m.erase origin
    | .clearConnections => next = .empty
    | .uploadBackup _ => True
    | .uploadComponent _ _ _ => True
    | _ => False
  | .unlock password => (call = .unlock password ∨ call = .openLock password) ∧
      w.core.session.secret = none ∧ (w.kept w.config.storageKeys.password).isSome ∧
      (Wallet.perform call w).2.core.session.secret = some password
  | .setUp password => (call = .setupPassword password ∨ call = .setupLock password) ∧
      w.kept w.config.storageKeys.password = none ∧
      ((Wallet.perform call w).2.kept w.config.storageKeys.password).isSome
  | .lock => call = .logout

namespace Wallet

open Op (Within)

variable {α : Type} {deeds : Deed → Prop} {w : Wallet}

/-! ## Connect requests -/

theorem ask_acts (kind : RequestKind) (payload : Json) (errand : Errand) :
    Within (Acts deeds) (ask kind payload errand) := by
  unfold ask
  refine .bind (onDesk_acts _) fun submission => ?_
  cases submission with
  | queued => exact .pure _
  | opening => exact .pure _

theorem chooseIdentity_acts (origin : String) (changeIdentity : Bool) :
    Within (Acts deeds) (chooseIdentity origin changeIdentity) := by
  unfold chooseIdentity
  refine .bind .get fun w => ?_
  split
  · exact .pure _
  · exact ask_acts _ _ _

/-- To approve an origin as it is approved changes nothing. -/
theorem approve_again {origin : String} (horigin : origin ≠ "") (h : w.isApproved origin = true) :
    approve { origin, canSkipApprove := w.canSkipApprove origin } w = (.ok (), w) := by
  rcases approvals_of_isApproved h with ⟨m, hmap, hsome⟩
  -- The flag that is set again is the one that is there, and then nothing is written.
  have hget : m.get? origin = some { canSkipApprove := w.canSkipApprove origin } := by
    rcases Option.isSome_iff_exists.1 hsome with ⟨p, hp⟩
    rw [canSkipApprove, permission?, hmap, Option.bind_some, hp]
    rfl
  have hupsert : Shelf.upsert approvalsLabel w.core.session.secret origin
      { canSkipApprove := w.canSkipApprove origin } w.approvalShelf =
        (.ok false, w.approvalShelf) := by
    rw [Shelf.upsert_loaded _ _ (show w.approvalShelf.entries = some m from hmap), if_pos hget]
  have hrun : onApprovals (Shelf.upsert approvalsLabel w.core.session.secret origin
      { canSkipApprove := w.canSkipApprove origin }) w = (.ok false, w) := by
    rw [onApprovals_apply, hupsert, putApprovals_self]
  rw [approve, if_neg horigin, Op.bind_ok (x := secret) rfl, Op.bind_ok hrun, Op.pure_apply]

theorem approve_known {origin : String} (h : w.isApproved origin = true) :
    (approve { origin, canSkipApprove := w.canSkipApprove origin } w).2 = w := by
  by_cases horigin : origin = ""
  · rw [approve, if_pos horigin]
    rfl
  · rw [approve_again horigin h]

/-- Approving a page again is no deed, and asking about one is none either. -/
theorem seekApproval_acts (origin : String) (changeIdentity : Bool) :
    Within (Acts deeds) (seekApproval origin changeIdentity) := by
  intro w
  -- A stranger is asked about. Approving a known page again writes nothing.
  rcases happroved : w.isApproved origin with _ | _
  · have hrun : seekApproval origin changeIdentity w =
        ask .approve (originPayload origin) (.approval origin changeIdentity) w := by
      rw [seekApproval, Op.bind_ok (x := Op.get) rfl,
        if_neg (by rw [happroved]; exact Bool.false_ne_true)]
    rw [hrun]
    exact ask_acts _ _ _ w
  · have hrun : seekApproval origin changeIdentity w =
        (approve { origin, canSkipApprove := w.canSkipApprove origin } >>= fun _ =>
          chooseIdentity origin changeIdentity) w := by
      rw [seekApproval, Op.bind_ok (x := Op.get) rfl, if_pos happroved]
    have hrest := Within.after (R := Acts deeds)
      (x := approve { origin, canSkipApprove := w.canSkipApprove origin })
      (fun _ => chooseIdentity_acts origin changeIdentity) w
    rw [approve_known happroved] at hrest
    rw [hrun]
    exact hrest

theorem enterUnlocked_acts (window : Nat) (origin : String) (changeIdentity : Bool) :
    Within (Acts deeds) (enterUnlocked window origin changeIdentity) := by
  unfold enterUnlocked
  refine .bind loadRegistries_acts fun _ => ?_
  refine .bind (.ignore (onDesk_acts _)) fun _ => ?_
  refine .bind loadRegistries_acts fun _ => ?_
  exact seekApproval_acts _ _

theorem awaitUnlock_acts (window : Nat) (origin : String) (changeIdentity : Bool) :
    Within (Acts deeds) (awaitUnlock window origin changeIdentity) := by
  unfold awaitUnlock
  refine .bind .get fun _ => ?_
  refine .ite (fun _ => ?_) fun _ => ?_
  · exact enterUnlocked_acts _ _ _
  · exact .pure _

theorem openUnlockWindow_acts (origin : String) (changeIdentity : Bool) :
    Within (Acts deeds) (openUnlockWindow origin changeIdentity) := by
  unfold openUnlockWindow
  refine .bind (onDesktop_acts _) fun _ => ?_
  exact awaitUnlock_acts _ _ _

/-- A connect request does no deed before an answer. -/
theorem connect_acts (origin : String) (changeIdentity : Bool) :
    Within (Acts deeds) (connect origin changeIdentity) := by
  unfold connect
  refine .mapError ?_
  refine .ite (fun _ => ?_) fun _ => ?_
  · exact .fail _
  · refine .bind .get fun w => ?_
    refine .ite (fun _ => ?_) ?_
    · refine .bind loadRegistries_acts fun _ => ?_
      exact seekApproval_acts _ _
    · intro _
      refine .bind (onDesktop_acts _) fun ticket => ?_
      cases ticket with
      | some ticket => exact .pure _
      | none => exact openUnlockWindow_acts _ _

/-! ## Fulfilling an errand -/

/-- An approval sets the origin to what the data says. -/
theorem approvalAnswered_acts (origin : String) (changeIdentity : Bool)
    (outcome : Except Error Json) (h : ∀ data p, outcome = .ok data → decodeData {} data = .ok p →
      ∀ m : OriginMap HostPermission, deeds (.approvals m (m.insert origin p))) :
    Within (Acts deeds) (approvalAnswered origin changeIdentity outcome) := by
  refine .bind_of_yields (.ofExcept _) (.ofExcept _) fun data hdata => ?_
  refine .bind_of_yields (.ofExcept _) (.ofExcept _) fun p hp => ?_
  refine .bind (approve_acts _ fun m => h data p hdata hp m) fun _ => ?_
  exact chooseIdentity_acts _ _

theorem dispatch_acts (job : ProofJob) : Within (Acts deeds) (dispatch job) := by
  unfold dispatch
  refine .bind .get fun _ => ?_
  refine .bind (onDesktop_acts _) fun _ => ?_
  refine .bind (.ofExcept _) fun _ => ?_
  exact .pure _

/-- The commitment that is chosen is the one that was named, or else that of the selected
identity, and nothing changes until it is known. -/
theorem chosenCommitment_cases (choice : IdentityChoice) (w : Wallet) :
    (∃ e, chosenCommitment choice w = (.error e, w)) ∨
    ∃ commitment, chosenCommitment choice w = (.ok commitment, w) ∧
      (choice.commitment = some commitment ∨
        choice.commitment = none ∧ w.host.identities.selected = some commitment) := by
  rw [chosenCommitment]
  rcases choice.commitment with _ | commitment
  · -- None was named. The selected identity is looked up, and it may be gone.
    have hselected : selectedIdentity w = (w.host.identities.lookupSelected, w) := rfl
    dsimp only
    rcases hlookup : w.host.identities.lookupSelected with e | found
    · rw [hlookup] at hselected
      exact .inl ⟨e, Op.bind_error hselected _⟩
    -- What is found under the selected commitment has that commitment.
    · rw [hlookup] at hselected
      rw [Op.bind_ok hselected]
      rcases found with _ | i
      · exact .inl ⟨_, rfl⟩
      · refine .inr ⟨i.commitment, rfl, .inr ⟨rfl, ?_⟩⟩
        rw [IdentityBook.lookupSelected] at hlookup
        split at hlookup
        · rcases Option.bind_eq_some_iff.1 (Except.ok.inj hlookup) with ⟨commitment, hc, hfind⟩
          rw [hc, commitment_of_find? hfind]
        · cases hlookup
  · exact .inr ⟨commitment, rfl, .inl rfl⟩

/-- The choice does one deed, if the data can be decoded and the identity is found. -/
theorem choiceAnswered_acts (origin : String) (outcome : Except Error Json) (w : Wallet) :
    Acts ((Errand.identityChoice origin).Deeds w outcome) w
      (choiceAnswered origin outcome w).2 := by
  rcases outcome with e | data
  · exact Std.Refl.refl w
  rcases hdecode : (decodeData {} data : Except Error IdentityChoice) with e | choice
  · have hrun : choiceAnswered origin (.ok data) w = (.error e, w) := by
      rw [choiceAnswered, Op.bind_ok (x := Op.ofExcept (.ok data)) rfl, hdecode]
      exact Op.bind_error rfl _
    rw [hrun]
    exact Std.Refl.refl w
  have hstart : choiceAnswered origin (.ok data) w = (do
      let connection ← connectIdentity (← chosenCommitment choice) origin
      return .finished (.connection (some connection)) : Op Wallet Progress) w := by
    rw [choiceAnswered, Op.bind_ok (x := Op.ofExcept (.ok data)) rfl, hdecode,
      Op.bind_ok (x := Op.ofExcept (.ok choice)) rfl]
  rw [hstart]
  -- Until the commitment is known nothing has been done.
  rcases chosenCommitment_cases choice w with ⟨e, hrun⟩ | ⟨commitment, hrun, hnamed⟩
  · rw [Op.bind_error hrun]
    exact Std.Refl.refl w
  · rw [Op.bind_ok hrun, Op.bind_pure_state]
    refine connectIdentity_acts commitment origin (fun m name => ?_) w
    exact ⟨origin, data, choice, commitment, name, rfl, rfl, hdecode, hnamed, rfl⟩

/-- Fulfilling an errand does its deeds. -/
theorem fulfil_acts (id : UInt64) (errand : Errand) (outcome : Except Error Json) (w : Wallet) :
    Acts (errand.Deeds w outcome) w (fulfil id errand outcome w).2 := by
  -- Only the two errands of a connect request write, and what they write stands in their deeds.
  cases errand with
  | asked withId =>
      cases withId with
      | true => exact Std.Refl.refl w
      | false => exact Within.bind (R := Acts _) (.ofExcept _) (fun _ => .pure _) w
  | approval origin changeIdentity =>
      refine approvalAnswered_acts _ _ _ (fun data p hdata hp m => ?_) w
      exact ⟨origin, changeIdentity, data, p, rfl, hdata, hp, rfl⟩
  | identityChoice origin => exact choiceAnswered_acts _ _ w
  | reveal origin commitment =>
      refine Within.bind (R := Acts _) (.ofExcept _) (fun _ => ?_) w
      refine .bind (onDesktop_acts _) fun _ => ?_
      exact .pure _
  | proof job compute =>
      refine Within.bind (R := Acts _) (.ofExcept _) (fun _ => ?_) w
      refine .ite (fun _ => ?_) fun _ => ?_
      · exact dispatch_acts job
      · exact .pure _

/-! ## Going on -/

theorem awaitAnswer_acts {id : UInt64} {channel : Nat} {errand : Errand}
    (h : ∀ outcome, w.core.queue.answer? channel = some outcome →
      ∀ d, errand.Deeds w outcome d → deeds d) :
    Acts deeds w (awaitAnswer id channel errand w).2 := by
  rcases hanswer : w.core.queue.answer? channel with _ | outcome
  · rw [awaitAnswer_none hanswer]
    exact Std.Refl.refl w
  · rw [awaitAnswer_some hanswer]
    exact (fulfil_acts id errand outcome w).mono (h outcome hanswer)

/-- The window changes neither what is stored or held of an origin nor the identities, and no page
is told anything. -/
theorem settled_apart (on : Waiting) (w : Wallet) : w.Apart (on.settled w) ∧
    (on.settled w).told = w.told ∧ (on.settled w).host.identities = w.host.identities := by
  cases on with
  | window id channel ticket errand =>
      exact ⟨⟨rfl, rfl, rfl, rfl, rfl⟩, congrArg Prod.snd (Desk.completeOpening_silent id
        { queue := w.core.queue, desktop := w.host.desktop }), rfl⟩
  | _ => exact ⟨⟨rfl, rfl, rfl, rfl, rfl⟩, rfl, rfl⟩

/-- Whoever waits for an answer looks for it, unless the window for the question fails to come. -/
theorem goOn_looks {on : Waiting} {id : UInt64} {channel : Nat} {errand : Errand}
    (h : on.asked? = some (id, channel, errand)) (w : Wallet) :
    (∃ e v, goOn on w = (.error e, v) ∧ w.Apart v ∧ v.told = w.told) ∨
    ∃ v, goOn on w = awaitAnswer id channel errand v ∧ w.Apart v ∧ v.told = w.told ∧
      v.host.identities = w.host.identities ∧
      ∀ c, v.core.queue.answer? c = w.core.queue.answer? c := by
  rcases settled_apart on w with ⟨happart, htold, hidentities⟩
  rcases goOn_settled h w with ⟨failure, _, hrun⟩ | ⟨_, hrun, hanswers⟩
  · exact .inl ⟨failure, on.settled w, hrun, happart, htold⟩
  · exact .inr ⟨on.settled w, hrun, happart, htold, hidentities, answer?_congr hanswers⟩

/-- Which deeds an errand leads to depends on the wallet by the selected identity only. -/
theorem errand_deeds_congr {errand : Errand} {outcome : Except Error Json} {v : Wallet} {d : Deed}
    (hv : v.host.identities = w.host.identities) (h : errand.Deeds v outcome d) :
    errand.Deeds w outcome d := by
  cases d with
  | connections =>
      rw [Errand.Deeds, hv] at h
      exact h
  | _ => exact h

/-- Going on does the deeds that the errand leads to with its answer. -/
theorem resume_acts (on : Waiting) (w : Wallet) : Acts (on.Deeds w) w (resume on w).2 := by
  rw [resume_state]
  -- Who waits for no answer does no deed, and who waits for one does those of the errand.
  rcases hasked : on.asked? with _ | ⟨id, channel, errand⟩
  · cases on with
    | unlockWindow ticket origin changeIdentity => exact openUnlockWindow_acts _ _ w
    | unlock window origin changeIdentity => exact awaitUnlock_acts _ _ _ w
    | unlockSignal =>
        refine Within.bind (R := Acts _) .get (fun _ => ?_) w
        refine .ite (fun _ => ?_) fun _ => ?_
        · exact .pure _
        · exact .pure _
    | lastWord => exact Std.Refl.refl w
    | _ => cases hasked
  · rcases goOn_looks hasked w with
      ⟨e, v, hrun, happart, _⟩ | ⟨v, hrun, happart, _, hidentities, hanswers⟩
    · rw [hrun]
      exact .single (.apart happart)
    · rw [hrun]
      refine Acts.trans (.single (.apart happart)) (awaitAnswer_acts fun outcome hanswer d hd => ?_)
      rw [hanswers] at hanswer
      exact ⟨id, channel, errand, outcome, hasked, hanswer, errand_deeds_congr hidentities hd⟩

/-! ## Calls -/

theorem finish_acts {x : Op Wallet α} (h : Acts deeds w (x w).2) (answer : α → Answer) :
    Acts deeds w (finish answer x w).2 := by
  rw [finish, Op.bind_pure_state]
  exact h

theorem reveal_acts (origin : String) : Within (Acts deeds) (reveal origin) := by
  unfold reveal
  refine .bind .get fun _ => ?_
  refine .bind (.ofOption _ _) fun _ => ?_
  exact ask_acts _ _ _

theorem requestProof_acts (request : ProofRequest) (origin : String) (compute : Bool) :
    Within (Acts deeds) (requestProof request origin compute) := by
  have hassemble : Within (Acts deeds) (assemble request origin) := fun w => by
    rw [assemble_state]
    exact Std.Refl.refl w
  refine .bind hassemble fun job => ?_
  refine .bind .get fun w => ?_
  refine .ite (fun _ => ?_) fun _ => ?_
  · refine .ite (fun _ => ?_) fun _ => ?_
    · exact dispatch_acts job
    · exact .pure _
  · exact ask_acts _ _ _

/-- A call that unlocks does so if the session was locked and there is a verifier. -/
theorem unlockCall_acts {call : Call} {password : String} {f : Bool → Op Wallet Progress}
    (hcall : call = .unlock password ∨ call = .openLock password)
    (hrun : perform call w = (onLock (SessionLock.unlock password) >>= f) w)
    (hf : ∀ b, Within (Acts Harmless) (f b)) : Acts (call.Deeds w) w (perform call w).2 := by
  rcases unlockThen_cases password hf w with hnone | ⟨hlocked, hverifier, hsecret, hacts⟩
  · rw [hrun]
    exact hnone.of_harmless
  · rw [← hrun] at hsecret hacts
    refine hacts.mono ?_
    rintro _ rfl
    exact ⟨hcall, hlocked, hverifier, hsecret⟩

/-- A call that sets up a password does so if there was no verifier. -/
theorem setUpCall_acts {call : Call} {password : String} {f : Bool → Op Wallet Progress}
    (hcall : call = .setupPassword password ∨ call = .setupLock password)
    (hrun : perform call w = (onLock (SessionLock.setupPassword password) >>= f) w)
    (hf : ∀ b, Within (Acts Harmless) (f b)) : Acts (call.Deeds w) w (perform call w).2 := by
  rcases setUpThen_cases password hf w with hnone | ⟨hempty, hslot, hacts⟩
  · rw [hrun]
    exact hnone.of_harmless
  · rw [← hrun] at hslot hacts
    refine hacts.mono ?_
    rintro _ rfl
    exact ⟨hcall, hempty, hslot⟩

/-- A call does its deeds and no others. -/
theorem perform_acts (call : Call) (w : Wallet) : Acts (call.Deeds w) w (perform call w).2 := by
  -- In the order of the calls: the session, the registries, requests, proofs and backups.
  cases call with
  | setupPassword password =>
      refine setUpCall_acts (.inl rfl) (congrFun (Op.bind_assoc _ _ _) w) fun _ => ?_
      refine .bind ?_ fun _ => ?_
      · refine .bind loadRegistries_acts fun _ => ?_
        exact .pure _
      · exact .pure _
  | unlock password =>
      refine unlockCall_acts (.inl rfl) (congrFun (Op.bind_assoc _ _ _) w) fun _ => ?_
      refine .bind ?_ fun _ => ?_
      · refine .bind loadRegistries_acts fun _ => ?_
        exact .pure _
      · exact .pure _
  | logout =>
      have hlock : Call.logout.Deeds w .lock := rfl
      exact finish_acts (logout_acts hlock w) _
  | status => exact finish_acts (onLock_still SessionLock.status_still w) _
  | setupLock password => exact setUpCall_acts (.inr rfl) rfl fun _ => .pure _
  | openLock password => exact unlockCall_acts (.inr rfl) rfl fun _ => .pure _
  | sessionState => exact finish_acts (onLock_still SessionLock.state_still w) _
  | isAuthentic password => exact finish_acts (onLock_still (SessionLock.isAuthentic_still _) w) _
  | awaitUnlock =>
      exact (resume_acts .unlockSignal w).mono fun _ ⟨_, _, _, _, hasked, _⟩ => by cases hasked
  | ensureUnlocked => exact finish_acts (onLock_still SessionLock.ensureUnlocked_still w) _
  | sealText plain purpose => exact finish_acts (onLock_still (SessionLock.sealText_still _ _) w) _
  | openText sealed purpose => exact finish_acts (onLock_still (SessionLock.openText_still _ _) w) _
  | loadApprovals => exact finish_acts (loadApprovals_acts w) _
  | approve entry => exact finish_acts (approve_acts entry (fun _ => rfl) w) _
  | setPermission origin flag =>
      rcases setPermission_cases origin flag w with hnone | ⟨hok, hacts⟩
      · exact finish_acts hnone.of_harmless _
      · refine finish_acts (hacts.mono ?_) _
        rintro _ ⟨m, hknown, rfl⟩
        refine ⟨hknown, rfl, ?_⟩
        rcases hrun : setPermission origin flag w with ⟨outcome, v⟩
        rw [hrun] at hok
        rw [perform, finish, Op.bind_ok (hrun.trans (Prod.ext hok rfl)), Op.pure_apply]
  | unapprove origin => exact finish_acts (unapprove_acts origin (fun _ => rfl) w) _
  | clearApprovals => exact finish_acts (clearApprovals_acts (fun _ => rfl) w) _
  | loadConnections => exact finish_acts (loadConnections_acts w) _
  | connectIdentity commitment origin =>
      exact finish_acts (connectIdentity_acts _ _ (fun _ name => ⟨name, rfl⟩) w) _
  | disconnect target => exact finish_acts (disconnect_acts _ (fun _ o => ⟨o, rfl⟩) w) _
  | clearConnections => exact finish_acts (clearConnections_acts (fun _ => rfl) w) _
  | connectedIdentity origin => exact finish_acts (connectedIdentity_acts _ w) _
  | identity commitment => exact finish_acts (identity_acts _ w) _
  | selectedIdentity => exact finish_acts (selectedIdentity_acts w) _
  | submit kind payload => exact ask_acts _ _ _ w
  | ask kind payload => exact ask_acts _ _ _ w
  | finalize request => exact finish_acts (onDesk_acts _ w) _
  | connect origin changeIdentity => exact connect_acts _ _ w
  | reveal origin => exact reveal_acts _ w
  | revoke origin =>
      exact finish_acts (revoke_acts _ (fun _ => rfl) (fun _ o => ⟨o, rfl⟩) w) _
  | prepare request origin => exact requestProof_acts _ _ _ w
  | generate request origin => exact Within.mapError (requestProof_acts _ _ _) w
  | dispatch job => exact dispatch_acts job w
  | removeComponent key => exact finish_acts (removeComponent_acts _ w) _
  | registerComponent component =>
      exact finish_acts (.single (.apart ⟨rfl, rfl, rfl, rfl, rfl⟩)) _
  | downloadBackup password => exact finish_acts (downloadBackup_acts _ w) _
  | uploadBackup upload =>
      exact finish_acts (uploadBackup_acts _ (fun _ _ => trivial) (fun _ _ => trivial) w) _
  | downloadComponent component password => exact finish_acts (downloadComponent_acts _ _ w) _
  | uploadComponent component blob password =>
      exact finish_acts (uploadComponent_acts _ _ _ (fun _ _ => trivial) (fun _ _ => trivial) w) _
  | _ => exact finish_acts (Std.Refl.refl w) _

end Wallet

end WalletTrust

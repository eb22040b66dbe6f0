import WalletTrust.Proofs.Contents
import WalletTrust.Proofs.Gate
import WalletTrust.Proofs.Linking

/-!
# Before an Identity Is Chosen

What is true of an origin where the user is asked to choose an identity for it.

A connect request asks for an identity only after it has found the origin approved or approved it
itself, in the same part. So the part that leaves the request waiting for the choice leaves the
origin approved. Later parts do not look at the approval again.

The second half is about the registries. The calls that unlock the session load both, so as long as
the slots can be read and nobody unlocks the session behind the registries, both are loaded whenever
the session is unlocked.

Both halves serve `TrustTable`, which asks how an origin can be connected that is not approved. The
first half rules out that the choice was asked for without the approval, so that the approval must
have gone while the request waited. The second lets the table be read off the memory: in the runs
that are looked at there, what is loaded is what the slots hold.

## Main definitions

* `Wallet.Vetted`: Whoever is left waiting for a choice waits for an origin that is approved.
* `Wallet.Attentive`: While the session is unlocked both registries are loaded.

## Theorems

* `Wallet.perform_vetted`, `Wallet.resume_vetted`: Calls and their parts.
* `Wallet.loadRegistries_has`: With the secret, readable slots are loaded.
* `Wallet.Acts.attentive`, `Wallet.onLock_attentive`: What keeps the registries loaded.
* `SessionLock.unlock_error`: Who fails to unlock the session leaves it as it is.
* `Shelf.Act.loaded_mono`: What is loaded stays so.
-/

namespace WalletTrust

namespace Wallet

open Op (Within Yields)

variable {α : Type} {deeds : Deed → Prop} {w v : Wallet} {x : Op Wallet Progress}
  {on next : Waiting} {id : UInt64} {channel : Nat} {origin : String}

/-! ## Vetted origins -/

/-- Whoever waits after an operation for the choice of an identity waits for an origin that is
approved. -/
def Vetted (x : Op Wallet Progress) : Prop :=
  ∀ w v on id channel origin, x w = (.ok (.waiting on), v) →
    on.asked? = some (id, channel, .identityChoice origin) → v.isApproved origin = true

namespace Vetted

/-- What a part looks at before does not matter to what it leaves waiting. -/
theorem bind {y : Op Wallet α} {f : α → Op Wallet Progress} (hf : ∀ a, Vetted (f a)) :
    Vetted (y >>= f) := by
  intro w v on id channel origin h hasked
  rcases Op.bind_cases h with ⟨a, u, _, hrest⟩
  exact hf a u v on id channel origin hrest hasked

/-- A choice is vetted if both of its branches are. -/
theorem ite {c : Prop} [Decidable c] {y : Op Wallet Progress} (hx : Vetted x) (hy : Vetted y) :
    Vetted (if c then x else y) := by
  split
  · exact hx
  · exact hy

/-- Who does not wait is not waiting for a choice. -/
theorem of_over (h : Yields Progress.Over x) : Vetted x :=
  fun w v _ _ _ _ hrun _ => (h w _ v hrun).elim

theorem unasked (h : on.asked? = none) : Vetted (pure (.waiting on)) := by
  intro w v on' id channel origin hrun hasked
  rcases Progress.waiting.inj (Except.ok.inj (congrArg Prod.fst hrun))
  cases h.symm.trans hasked

theorem mapError (h : Vetted x) (f : Error → Error) : Vetted (x.mapError f) :=
  fun w v on id channel origin hrun hasked =>
    h w v on id channel origin (Op.mapError_ok hrun) hasked

end Vetted

/-- Whoever has put a question waits with the errand that the question is for. -/
theorem ask_errand {kind : RequestKind} {payload : Json} {errand : Errand}
    (h : ask kind payload errand w = (.ok (.waiting on), v)) :
    ∃ id channel, on.asked? = some (id, channel, errand) := by
  rcases ask_cases kind payload errand w with
    ⟨on', _, _, _, hask, hasked, _⟩ | ⟨_, _, _, _, hask, _⟩
  · rcases Progress.waiting.inj (Except.ok.inj (congrArg Prod.fst (hask.symm.trans h)))
    exact ⟨_, _, hasked⟩
  · cases congrArg Prod.fst (hask.symm.trans h)

/-- A question about something else is no question about an identity. -/
theorem ask_vetted {kind : RequestKind} {payload : Json} {errand : Errand}
    (h : ∀ origin, errand ≠ .identityChoice origin) : Vetted (ask kind payload errand) := by
  intro w v on id channel origin hrun hasked
  rcases ask_errand hrun with ⟨_, _, hasked'⟩
  rcases Prod.mk.inj (Option.some.inj (hasked'.symm.trans hasked)) with ⟨_, hrest⟩
  exact absurd (Prod.mk.inj hrest).2 (h origin)

/-- There is an identity already, or the user is asked for one. -/
theorem chooseIdentity_cases (origin : String) (changeIdentity : Bool) (w : Wallet) :
    (∃ answer, chooseIdentity origin changeIdentity w = (.ok (.finished answer), w)) ∨
    chooseIdentity origin changeIdentity w =
      ask .connectIdentity (originPayload origin) (.identityChoice origin) w := by
  rcases h : w.connection? origin with _ | connection
  · exact .inr (by simp only [chooseIdentity, Op.bind_apply, Op.get, h])
  · cases changeIdentity with
    | false =>
        exact .inl ⟨_, by simp only [chooseIdentity, Op.bind_apply, Op.get, h, Op.pure_apply]; rfl⟩
    | true => exact .inr (by simp only [chooseIdentity, Op.bind_apply, Op.get, h])

/-- The identity is chosen for the origin that is connected, and its approval stays. -/
theorem chooseIdentity_vets {changeIdentity : Bool} {other : String}
    (h : w.isApproved origin = true)
    (hrun : chooseIdentity origin changeIdentity w = (.ok (.waiting on), v))
    (hasked : on.asked? = some (id, channel, .identityChoice other)) :
    v.isApproved other = true := by
  -- Asking leaves the approvals alone.
  have hsame : Within (Op.Same fun w => w.core.approvals)
      (ask .connectIdentity (originPayload origin) (.identityChoice origin)) := by
    refine .bind (.zoom_any fun _ _ => rfl) fun submission => ?_
    cases submission with
    | queued => exact .pure _
    | opening => exact .pure _
  rcases chooseIdentity_cases origin changeIdentity w with ⟨answer, hdone⟩ | hask
  · cases congrArg Prod.fst (hdone.symm.trans hrun)
  · rw [hask] at hrun
    rcases ask_errand hrun with ⟨_, _, hasked'⟩
    rcases Prod.mk.inj (Option.some.inj (hasked'.symm.trans hasked)) with ⟨_, hrest⟩
    rcases Errand.identityChoice.inj (Prod.mk.inj hrest).2
    have hkept := hsame w
    rw [hrun] at hkept
    rw [isApproved, permission?, show v.core.approvals = w.core.approvals from hkept]
    exact h

/-- Who is not approved is asked about its approval first, and is not waiting for a choice then. -/
theorem seekApproval_vetted (origin : String) (changeIdentity : Bool) :
    Vetted (seekApproval origin changeIdentity) := by
  intro w v on id channel other hrun hasked
  rw [seekApproval, Op.bind_ok (x := Op.get) rfl] at hrun
  split at hrun
  · rcases Op.bind_cases hrun with ⟨_, u, happrove, hchoose⟩
    exact chooseIdentity_vets (approve_ok happrove) hchoose hasked
  · exact ask_vetted (fun _ => Errand.noConfusion) w v on id channel other hrun hasked

theorem awaitUnlock_vetted (window : Nat) (origin : String) (changeIdentity : Bool) :
    Vetted (awaitUnlock window origin changeIdentity) := by
  unfold awaitUnlock
  refine .bind fun w => ?_
  refine .ite ?_ ?_
  · refine .bind fun _ => ?_
    refine .bind fun _ => ?_
    refine .bind fun _ => ?_
    exact seekApproval_vetted _ _
  · exact .unasked rfl

theorem openUnlockWindow_vetted (origin : String) (changeIdentity : Bool) :
    Vetted (openUnlockWindow origin changeIdentity) := by
  unfold openUnlockWindow
  refine .bind fun _ => ?_
  exact awaitUnlock_vetted _ _ _

/-- The first part of a connect request leaves nobody waiting for a choice who is not approved. -/
theorem connect_vetted (origin : String) (changeIdentity : Bool) :
    Vetted (connect origin changeIdentity) := by
  unfold connect
  refine .mapError ?_ _
  refine .ite ?_ ?_
  · exact .of_over (.fail _)
  · refine .bind fun w => ?_
    refine .ite ?_ ?_
    · refine .bind fun _ => ?_
      exact seekApproval_vetted _ _
    · refine .bind fun ticket => ?_
      cases ticket with
      | some ticket => exact .unasked rfl
      | none => exact openUnlockWindow_vetted _ _

/-- The answer approves the origin, and the choice comes after that. -/
theorem approvalAnswered_vetted (origin : String) (changeIdentity : Bool)
    (outcome : Except Error Json) : Vetted (approvalAnswered origin changeIdentity outcome) := by
  unfold approvalAnswered
  refine .bind fun data => ?_
  refine .bind fun permission => ?_
  intro w v on id channel other hrun hasked
  rcases Op.bind_cases hrun with ⟨_, u, happrove, hchoose⟩
  exact chooseIdentity_vets (approve_ok happrove) hchoose hasked

theorem fulfil_vetted (id : UInt64) (errand : Errand) (outcome : Except Error Json) :
    Vetted (fulfil id errand outcome) := by
  by_cases h : errand.Connects
  · cases errand with
    | approval origin changeIdentity => exact approvalAnswered_vetted _ _ _
    | identityChoice origin => exact .of_over (choiceAnswered_over origin outcome)
    | _ => exact h.elim
  · exact .of_over (fulfil_over h id outcome)

/-- Whoever goes on waiting for a choice waits for the same one as before, or the origin is
approved. -/
theorem resume_vetted (h : resume on w = (.ok (.waiting next), v))
    (hasked : next.asked? = some (id, channel, .identityChoice origin)) :
    on.asked? = some (id, channel, .identityChoice origin) ∨ v.isApproved origin = true := by
  have hgo := Op.mapError_ok h
  rcases hbefore : on.asked? with _ | ⟨id', channel', errand⟩
  -- A call that has asked nothing yet comes from the gate, and is vetted there.
  · cases on with
    | unlockWindow => exact .inr (openUnlockWindow_vetted _ _ w v next id channel origin hgo hasked)
    | unlock => exact .inr (awaitUnlock_vetted _ _ _ w v next id channel origin hgo hasked)
    | unlockSignal =>
        rw [unlockSignal_waits w _ v hgo next rfl] at hasked
        cases hasked
    | lastWord => cases congrArg Prod.fst hgo
    | _ => cases hbefore
  · rcases goOn_looks hbefore w with ⟨e, u, hrun, _⟩ | ⟨u, hrun, _⟩
    · cases congrArg Prod.fst (hrun.symm.trans hgo)
    · rw [hrun] at hgo
      rcases hanswer : u.core.queue.answer? channel' with _ | outcome
      · -- There is no answer yet, so the wait is for the same question.
        rw [awaitAnswer_none hanswer] at hgo
        rcases Progress.waiting.inj (Except.ok.inj (congrArg Prod.fst hgo))
        exact .inl hasked
      · rw [awaitAnswer_some hanswer] at hgo
        exact .inr (fulfil_vetted id' errand outcome u v next id channel origin hgo hasked)

/-- Nor does the first part of any other call. -/
theorem perform_vetted (call : Call) : Vetted (perform call) := by
  intro w v on id channel origin hrun hasked
  rcases perform_waiting hrun with hasks | ⟨o, changeIdentity, rfl, _⟩ | ⟨_, rfl⟩
  · rcases Option.isSome_iff_exists.1 hasks with ⟨q, hq⟩
    rcases perform_asks hq with ⟨on', _, _, _, hask, hasked', _⟩ | ⟨_, _, hask, _⟩
    · rcases Progress.waiting.inj (Except.ok.inj (congrArg Prod.fst (hask.symm.trans hrun)))
      rcases Prod.mk.inj (Option.some.inj (hasked'.symm.trans hasked)) with ⟨_, hrest⟩
      -- Only a connect request asks for an identity.
      have hconnects := question_connects hq
      rw [(Prod.mk.inj hrest).2] at hconnects
      exact absurd trivial hconnects
    · cases congrArg Prod.fst (hask.symm.trans hrun)
  · exact connect_vetted o changeIdentity w v on id channel origin hrun hasked
  · cases hasked

/-! ## Loaded registries -/

/-- While the session is unlocked both registries are loaded. -/
def Attentive (w : Wallet) : Prop :=
  w.core.session.isUnlocked = true → w.core.approvals.isSome ∧ w.core.connections.isSome

/-- With the secret, the contents of readable slots are loaded. -/
theorem loadRegistries_has {password : String} {a : OriginMap HostPermission}
    {c : OriginMap ConnectedIdentity}
    (hkeys : w.config.storageKeys.approvals ≠ w.config.storageKeys.connections)
    (ha : w.HasApprovals password a) (hc : w.HasConnections password c)
    (hunlocked : w.core.session.isUnlocked = true)
    (hra : (w.host.storage.slot w.config.storageKeys.approvals).readable = true)
    (hrc : (w.host.storage.slot w.config.storageKeys.connections).readable = true) :
    ∃ v, loadRegistries w = (.ok (), v) := by
  have hload := Shelf.load_contains (s := w.approvalShelf) ha hunlocked hra
  let u := w.putApprovals { w.approvalShelf with entries := some a }
  have happrovals : loadApprovals w = (.ok (), u) := by
    rw [loadApprovals, Op.bind_ok (x := secret) rfl, onApprovals_apply, hload]
  -- The approvals are put into their own slot, so that of the connections is as it was.
  have hslot : u.connectionShelf.slot = w.connectionShelf.slot :=
    Storage.slot_put_of_ne hkeys.symm _ _
  have hload' : Shelf.load connectionsLabel u.core.session.secret u.connectionShelf =
      (.ok (), { u.connectionShelf with entries := some c }) :=
    Shelf.load_contains (hc.congr (congrArg Slot.value hslot)) hunlocked (by rw [hslot]; exact hrc)
  have hconnections : loadConnections u =
      (.ok (), u.putConnections { u.connectionShelf with entries := some c }) := by
    rw [loadConnections, Op.bind_ok (x := secret) rfl, onConnections_apply, hload']
  exact ⟨_, by rw [loadRegistries, Op.bind_ok happrovals, hconnections]⟩

end Wallet

namespace Shelf

variable {β : Type} [Wire β] {label : ShelfLabel} {secret : Option String}
  {edits : OriginMap β → OriginMap β → Prop} {s t : Shelf β}

/-- What is loaded stays so. -/
theorem Act.loaded_mono (h : Act label secret edits s t) (hs : s.entries.isSome) :
    t.entries.isSome := by
  cases h with
  | kept hentries hslot => rw [hentries]; exact hs
  | loaded key m hsecret hunloaded hholds hentries hslot => rw [hentries]; rfl
  | edited key m next hsecret hbefore hedit hentries hholds => rw [hentries]; rfl
  | cleared key hsecret hedit hentries hslot => rw [hentries, Option.isSome_map]; exact hs

end Shelf

namespace SessionLock

variable {password : String} {l l' : SessionLock} {e : Error}

/-- Who fails to unlock the session leaves it as it is. -/
theorem unlock_error (h : unlock password l = (.error e, l')) : l'.session = l.session := by
  rw [unlock, Op.bind_ok (x := Op.get) rfl] at h
  split at h
  · cases congrArg Prod.fst h
  · have hstill := isAuthentic_still password l
    rcases hcheck : isAuthentic password l with ⟨outcome, t⟩
    rw [hcheck] at hstill
    cases outcome with
    | error cause =>
        rw [Op.bind_error hcheck] at h
        rw [← (Prod.mk.inj h).2]
        exact congrArg Prod.fst hstill
    | ok b =>
        rw [Op.bind_ok hcheck, Op.bind_ok (x := Op.modify _) rfl, Op.bind_ok (announce_ok _)] at h
        cases congrArg Prod.fst h

/-- Who fails to set up a password leaves the session as it is, even if the verifier was written. -/
theorem setupPassword_error (h : setupPassword password l = (.error e, l')) :
    l'.session = l.session := by
  rw [setupPassword] at h
  -- Every way to fail comes before the session is touched, the last one included.
  split at h
  · rw [← (Prod.mk.inj h).2]
  · rcases read_cases l with ⟨_, hread⟩ | ⟨cause, hread⟩
    · rw [Op.bind_ok hread] at h
      split at h
      · rw [← (Prod.mk.inj h).2]
      · -- Sealing and writing the verifier are no affair of the session.
        let fresh := SealedText.sealFresh knownText password .settings l.entropy
        have hseal : sealWith password knownText .settings l =
            (.ok fresh.1, { l with entropy := fresh.2 }) := rfl
        rw [Op.bind_ok hseal] at h
        rcases write_cases fresh.1 { l with entropy := fresh.2 } with hwrite | ⟨cause, hwrite⟩
        · rw [Op.bind_ok hwrite] at h
          have hafter := unlock_error h
          exact hafter
        · rw [Op.bind_error hwrite] at h
          rw [← (Prod.mk.inj h).2]
    · rw [Op.bind_error hread] at h
      rw [← (Prod.mk.inj h).2]

end SessionLock

namespace Wallet

variable {deeds : Deed → Prop} {w v : Wallet} {password : String} {a : OriginMap HostPermission}
  {c : OriginMap ConnectedIdentity}

theorem Act.attentive (h : Act deeds w v)
    (hdeeds : ∀ q, ¬ deeds (.unlock q) ∧ ¬ deeds (.setUp q)) (hw : w.Attentive) :
    v.Attentive := by
  intro hunlocked
  -- The only act that unlocks is one of the deeds that are excluded.
  cases h with
  | apart happart =>
      rw [happart.session] at hunlocked
      rw [happart.approvals, happart.connections]
      exact hw hunlocked
  | approvals s hshelf hv =>
      rw [hv] at hunlocked ⊢
      exact ⟨hshelf.loaded_mono (hw hunlocked).1, (hw hunlocked).2⟩
  | connections s hshelf hv =>
      rw [hv] at hunlocked ⊢
      exact ⟨(hw hunlocked).1, hshelf.loaded_mono (hw hunlocked).2⟩
  | lock l hlock hv =>
      rw [hv] at hunlocked ⊢
      cases hlock with
      | still hsession hslot =>
          have hbefore : l.session.isUnlocked = true := hunlocked
          rw [hsession] at hbefore
          exact hw hbefore
      | unlocked q verifier hdeed => exact absurd hdeed (hdeeds q).1
      | setUp q hdeed => exact absurd hdeed (hdeeds q).2
  | shut hdeed hv =>
      rw [hv] at hunlocked
      cases hunlocked

/-- Acts that neither unlock the session nor set up a password keep the registries loaded. -/
theorem Acts.attentive (h : Acts deeds w v)
    (hdeeds : ∀ q, ¬ deeds (.unlock q) ∧ ¬ deeds (.setUp q)) (hw : w.Attentive) :
    v.Attentive := by
  induction h with
  | refl => exact hw
  | tail _ hact ih => exact hact.attentive hdeeds ih

theorem Outside.attentive {written : String → Prop} (h : w.Outside written v) (hw : w.Attentive) :
    v.Attentive := by
  rw [Attentive, h.session, h.approvals, h.connections]
  exact hw

/-- Unlocking the session and then loading the registries leaves both loaded, if the slots can be
read, if it is the single password that unlocks, and if whoever fails to unlock changes nothing. -/
theorem onLock_attentive {x : Op SessionLock Bool} (hkeys : w.config.storageKeys.Distinct)
    (hact : SessionLock.Act deeds w.lock (x w.lock).2)
    (herror : ∀ e l, x w.lock = (.error e, l) → l.session = w.core.session)
    (ha : w.HasApprovals password a) (hc : w.HasConnections password c) (hw : w.Attentive)
    (hra : (w.host.storage.slot w.config.storageKeys.approvals).readable = true)
    (hrc : (w.host.storage.slot w.config.storageKeys.connections).readable = true)
    (hsingle : ∀ key, ((do let _ ← onLock x; loadRegistries; return true : Op Wallet Bool)
      w).2.core.session.secret = some key → key = password) :
    ((do let _ ← onLock x; loadRegistries; return true : Op Wallet Bool) w).2.Attentive := by
  rcases hx : x w.lock with ⟨outcome, l⟩
  have hrun : onLock x w = ((x w.lock).1, w.putLock (x w.lock).2) := rfl
  rw [hx] at hrun hact
  cases outcome with
  | error e =>
      rw [Op.bind_error hrun]
      intro hunlocked
      have hbefore : l.session.isUnlocked = true := hunlocked
      rw [herror e l hx] at hbefore
      exact hw hbefore
  | ok b =>
      rw [Op.bind_ok hrun, Op.bind_pure_state] at hsingle ⊢
      have hacts : Acts Harmless (w.putLock l) (loadRegistries (w.putLock l)).2 :=
        loadRegistries_acts _
      rw [hacts.session_of_harmless] at hsingle
      intro hunlocked
      rw [hacts.session_of_harmless] at hunlocked
      -- The lock does not touch the registries, so their contents are still there.
      have ha' : (w.putLock l).HasApprovals password a :=
        ⟨hsingle, fun n hn => ⟨hunlocked, (ha.loaded n hn).2⟩,
          kept_putLock hact (fun _ _ => hkeys.approvals) ▸ ha.kept⟩
      have hc' : (w.putLock l).HasConnections password c :=
        ⟨hsingle, fun n hn => ⟨hunlocked, (hc.loaded n hn).2⟩,
          kept_putLock hact (fun _ _ => hkeys.connections) ▸ hc.kept⟩
      rcases loadRegistries_has (w := w.putLock l) hkeys.registries ha' hc' hunlocked
        ((congrArg Slot.readable (Storage.slot_put_of_ne hkeys.approvals.symm _ _)).trans hra)
        ((congrArg Slot.readable (Storage.slot_put_of_ne hkeys.connections.symm _ _)).trans hrc)
        with ⟨v, hload⟩
      have hloaded := loadRegistries_loaded hload
      rw [hload]
      exact hloaded

end Wallet

end WalletTrust

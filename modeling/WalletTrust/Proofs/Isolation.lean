import WalletTrust.Proofs.Adopting
import WalletTrust.Proofs.Contents
import WalletTrust.Proofs.Linking

/-!
# Isolation of Origins

A call of one page does nothing to the origin of another.

Every part of such a call may write a registry anew, with all its origins, but of these only the one
of the page is edited. What the user answers decides to which identity the origin is connected, and
not which origin. Nor does it matter what an origin is called: where an origin is revoked, it is
disconnected as an origin only if it is connected, so one that has the name of a commitment hits
nobody else.

In memory that is so whatever the state. What is kept in the slots is another matter, as a registry
is written as it is in memory: if that is not what the slot holds, then entries of other origins
come and go with the write. Two registries that share a slot overwrite each other, and somebody else
may write there. The runs `rewrittenSlot` and `commonSlot` show the one and the other. Where the
registries have two slots, and what is loaded is what the slots hold, the slots keep what they hold
of other origins.

## Main definitions

* `Call.OfPage`, `Run.PartOf`: The calls of a page, and the parts of such calls.
* `Wallet.Isolates`: In memory only one origin changes, and only its page is told anything.
* `Shelf.KeepsEntry`, `Wallet.IsolatesKept`: What a slot holds of an origin, and that it holds the
  same of all origins but one.

## Theorems

* `Wallet.Acts.isolatesKept`: Acts that edit one origin only keep what the slots hold of the others.
* `Run.origins_isolated`: A part of a call of a page isolates its origin.
* `Run.slots_rewritten`: What is kept of an origin can change with a call of another page.
* `Shelf.Act.keeps`, `Shelf.Act.mirrors_of_changed`: What a slot keeps of the origins that are not
  edited.
* `Wallet.perform_keepsTo`, `Wallet.resume_keepsTo`: The parts of a call of a page keep to its
  origin.
* `Run.errand_of_page`: Whoever waits in a call of a page waits with an errand for the origin of the
  page.
* `Run.Refills.not_isolated`, `Run.origins_isolated_namesake`: A slot that does not hold the same of
  another origin, and a page that is called like a commitment.
-/

namespace WalletTrust

/-- Two maps have the same of all origins but one. -/
def OriginMap.SameBut {α : Type} (origin : String) (m n : OriginMap α) : Prop :=
  ∀ other, other ≠ origin → n.get? other = m.get? other

/-- The calls of the page of an origin. -/
def Call.OfPage (origin : String) : Call → Prop
  | .connect o _ => o = origin
  | .reveal o => o = origin
  | .revoke o => o = origin
  | .prepare _ o => o = origin
  | .generate _ o => o = origin
  | _ => False

/-- An errand approves or connects an origin, or tells its page something. -/
def Errand.Reaches (origin : String) (errand : Errand) : Prop :=
  errand.Links origin ∨ ∃ commitment, errand = .reveal origin commitment

namespace Shelf

variable {α : Type} [Wire α] {label : ShelfLabel} {key : String} {secret value : Option String}
  {edits : OriginMap α → OriginMap α → Prop} {s t : Shelf α} {m : OriginMap α} {origin : String}

/-- The value of a slot holds an entry under a secret. -/
def KeepsEntry (label : ShelfLabel) (key : String) (value : Option String) (origin : String)
    (x : α) : Prop :=
  ∃ m, Holds label key value m ∧ m.get? origin = some x

theorem keepsEntry_iff (h : Holds label key value m) (origin : String) (x : α) :
    KeepsEntry label key value origin x ↔ m.get? origin = some x := by
  constructor
  · rintro ⟨n, hn, hx⟩
    rcases holds_unique hn h
    exact hx
  · exact fun hx => ⟨m, h, hx⟩

/-- A map that is loaded stays so, and the same but for one origin if no edit touches another. -/
theorem Act.sameBut (h : Act label secret edits s t)
    (hedits : ∀ m n, edits m n → OriginMap.SameBut origin m n) (hs : s.entries = some m) :
    ∃ n, t.entries = some n ∧ OriginMap.SameBut origin m n := by
  cases h with
  | kept hentries hslot => exact ⟨m, hentries.trans hs, fun _ _ => rfl⟩
  | loaded key n hsecret hunloaded => cases hunloaded.symm.trans hs
  | edited key n next hsecret hbefore hedit hentries hholds =>
      rcases Option.some.inj (hbefore.symm.trans hs)
      exact ⟨next, hentries, hedits _ _ hedit⟩
  | cleared key hsecret hedit hentries hslot =>
      exact ⟨.empty, by rw [hentries, hs]; rfl, hedits _ _ (hedit m)⟩

/-- A slot that holds what is loaded keeps an entry that no edit touches. -/
theorem Act.keeps (h : Act label secret edits s t)
    (hleaves : ∀ m n, edits m n → n.get? origin = m.get? origin)
    (hs : Mirrors label secret s.slot.value s.entries) (hkey : ∀ k, secret = some k → k = key)
    (x : α) : KeepsEntry label key t.slot.value origin x ↔
      KeepsEntry label key s.slot.value origin x := by
  cases h with
  | kept hentries hslot => rw [hslot]
  | loaded k n hsecret hunloaded hholds hentries hslot => rw [hslot]
  | edited k n next hsecret hbefore hedit hentries hholds =>
      rcases hs n hbefore with ⟨k', hk', hbefore⟩
      rcases hkey k hsecret
      rcases hkey k' hk'
      rw [keepsEntry_iff hholds, keepsEntry_iff hbefore, hleaves _ _ hedit]
  | cleared k hsecret hedit hentries hslot =>
      -- If any map may be emptied without touching the entry, then there was none.
      have hnone (n : OriginMap α) : n.get? origin = none := (hleaves _ _ (hedit n)).symm
      constructor
      · rintro ⟨n, _, hx⟩
        cases (hnone n).symm.trans hx
      · rintro ⟨n, _, hx⟩
        cases (hnone n).symm.trans hx

/-- A slot whose value changes holds what is loaded. -/
theorem Act.mirrors_of_changed (h : Act label secret edits s t) :
    t.slot.value = s.slot.value ∨ Mirrors label secret t.slot.value t.entries := by
  cases h with
  | kept hentries hslot => exact .inl hslot
  | loaded k n hsecret hunloaded hholds hentries hslot => exact .inl (congrArg Slot.value hslot)
  | edited k n next hsecret hbefore hedit hentries hholds =>
      refine .inr fun m hm => ⟨k, hsecret, ?_⟩
      rcases Option.some.inj (hentries.symm.trans hm)
      exact hholds
  | cleared k hsecret hedit hentries hslot =>
      refine .inr fun m hm => ⟨k, hsecret, ?_⟩
      rw [hentries] at hm
      rcases Option.map_eq_some_iff.1 hm with ⟨_, _, rfl⟩
      rw [hslot]
      rfl

theorem Acts.mirrors_of_changed (h : Acts label secret edits s t) :
    t.slot.value = s.slot.value ∨ Mirrors label secret t.slot.value t.entries := by
  induction h with
  | refl => exact .inl rfl
  | tail _ hact ih =>
      rcases ih with hsame | hmirrors
      · exact hact.mirrors_of_changed.imp_left fun hvalue => hvalue.trans hsame
      · exact .inr (hact.mirrors hmirrors)

end Shelf

namespace Wallet

variable {deeds : Deed → Prop} {w v : Wallet} {origin : String}

/-- What is loaded stays loaded, and only one origin changes. -/
structure AltersOnly (origin : String) (w v : Wallet) : Prop where
  approvals : ∀ m, w.core.approvals = some m →
    ∃ n, v.core.approvals = some n ∧ OriginMap.SameBut origin m n
  connections : ∀ m, w.core.connections = some m →
    ∃ n, v.core.connections = some n ∧ OriginMap.SameBut origin m n

/-- In memory only one origin changes, and only its page is told anything. -/
structure Isolates (origin : String) (w v : Wallet) : Prop extends AltersOnly origin w v where
  told : ∃ more, v.told = w.told ++ more ∧ ∀ e ∈ more, e.1 = origin

/-- The slots of the registries hold the same of all origins but one. While the session is unlocked
that is said of its own secret, and else of any. -/
structure IsolatesKept (origin : String) (w v : Wallet) : Prop where
  approvals : ∀ key, (∀ k, w.core.session.secret = some k → k = key) → ∀ other, other ≠ origin →
    ∀ p : HostPermission,
      Shelf.KeepsEntry approvalsLabel key (v.kept w.config.storageKeys.approvals) other p ↔
      Shelf.KeepsEntry approvalsLabel key (w.kept w.config.storageKeys.approvals) other p
  connections : ∀ key, (∀ k, w.core.session.secret = some k → k = key) → ∀ other, other ≠ origin →
    ∀ i : ConnectedIdentity,
      Shelf.KeepsEntry connectionsLabel key (v.kept w.config.storageKeys.connections) other i ↔
      Shelf.KeepsEntry connectionsLabel key (w.kept w.config.storageKeys.connections) other i

/-! ## Acts -/

theorem AltersOnly.of_same (happrovals : v.core.approvals = w.core.approvals)
    (hconnections : v.core.connections = w.core.connections) : w.AltersOnly origin v where
  approvals m hm := ⟨m, happrovals.trans hm, fun _ _ => rfl⟩
  connections m hm := ⟨m, hconnections.trans hm, fun _ _ => rfl⟩

theorem AltersOnly.trans {u : Wallet} (h : w.AltersOnly origin v) (k : v.AltersOnly origin u) :
    w.AltersOnly origin u where
  approvals m hm := by
    rcases h.approvals m hm with ⟨n, hn, hsame⟩
    rcases k.approvals n hn with ⟨next, hnext, hstill⟩
    exact ⟨next, hnext, fun other hother => (hstill other hother).trans (hsame other hother)⟩
  connections m hm := by
    rcases h.connections m hm with ⟨n, hn, hsame⟩
    rcases k.connections n hn with ⟨next, hnext, hstill⟩
    exact ⟨next, hnext, fun other hother => (hstill other hother).trans (hsame other hother)⟩

theorem Act.altersOnly (h : Act deeds w v) (hdeeds : ∀ d, deeds d → d.Concerns origin) :
    w.AltersOnly origin v := by
  cases h with
  | apart happart => exact .of_same happart.approvals happart.connections
  | approvals s hshelf hv =>
      rw [hv]
      exact ⟨fun m hm => hshelf.sameBut (fun _ _ hd other => (hdeeds _ hd).2 other) hm,
        fun m hm => ⟨m, hm, fun _ _ => rfl⟩⟩
  | connections s hshelf hv =>
      rw [hv]
      exact ⟨fun m hm => ⟨m, hm, fun _ _ => rfl⟩,
        fun m hm => hshelf.sameBut (fun _ _ hd other => (hdeeds _ hd).2 other) hm⟩
  | lock l hlock hv =>
      rw [hv]
      exact .of_same rfl rfl
  | shut hdeed hv => exact absurd trivial (hdeeds _ hdeed).1

/-- Acts that edit one origin leave the others in memory as they are. -/
theorem Acts.altersOnly (h : Acts deeds w v) (hdeeds : ∀ d, deeds d → d.Concerns origin) :
    w.AltersOnly origin v := by
  induction h with
  | refl => exact .of_same rfl rfl
  | tail _ hact ih => exact ih.trans (hact.altersOnly hdeeds)

/-- What the slot of a registry holds of an origin that no edit touches stays, if what is loaded is
what the slot holds. -/
theorem registry_keeps {α : Type} [Wire α] (r : Registry α) (h : Act deeds w v)
    (hkeys : w.config.storageKeys.Apart deeds)
    (hleaves : ∀ m n, deeds (r.edit m n) → n.get? origin = m.get? origin)
    (hw : Shelf.Mirrors r.label w.core.session.secret (r.kept w) (r.entries w.core)) {key : String}
    (hkey : ∀ k, w.core.session.secret = some k → k = key) (x : α) :
    Shelf.KeepsEntry r.label key (r.kept v) origin x ↔
      Shelf.KeepsEntry r.label key (r.kept w) origin x := by
  cases r.fares h hkeys with
  | edited s hshelf _ hkept =>
      rw [hkept]
      exact hshelf.keeps hleaves hw hkey x
  | spared _ hkept => rw [hkept]
  | lock _ _ _ hkept => rw [hkept]
  | shut _ _ hkept => rw [hkept]

/-- By induction on the acts. Those that come before leave the session alone and what is loaded in
the slot, so the next one finds both as the first did. -/
theorem registry_keeps_acts {α : Type} [Wire α] (r : Registry α) (h : Acts deeds w v)
    (hkeys : w.config.storageKeys.Apart deeds) (hapart : ∀ d, deeds d → ¬ d.OfSession)
    (hleaves : ∀ m n, deeds (r.edit m n) → n.get? origin = m.get? origin)
    (hw : Shelf.Mirrors r.label w.core.session.secret (r.kept w) (r.entries w.core)) {key : String}
    (hkey : ∀ k, w.core.session.secret = some k → k = key) (x : α) :
    Shelf.KeepsEntry r.label key (v.kept (r.name w.config.storageKeys)) origin x ↔
      Shelf.KeepsEntry r.label key (r.kept w) origin x := by
  have hkept : v.kept (r.name w.config.storageKeys) = r.kept v := by
    rw [RegistryView.kept, Acts.config h]
  rw [hkept]
  clear hkept
  -- One act after the other: the key stays, and what is kept is what is in memory.
  induction h with
  | refl => exact Iff.rfl
  | tail hacts hact ih =>
      refine (registry_keeps r hact ?_ hleaves (r.mirrors_acts hacts hkeys hw) ?_ x).trans ih
      · rw [Acts.config hacts]
        exact hkeys
      · rw [Acts.session hacts hapart]
        exact hkey

/-- Acts that edit one origin keep what the slots hold of the others, where what is loaded is what
they hold. -/
theorem Acts.isolatesKept (h : Acts deeds w v) (hdeeds : ∀ d, deeds d → d.Concerns origin)
    (hkeys : w.config.storageKeys.approvals ≠ w.config.storageKeys.connections)
    (hw : w.Mirrored) : w.IsolatesKept origin v := by
  have hapart : w.config.storageKeys.Apart deeds :=
    ⟨hkeys, fun q hq => absurd trivial (hdeeds _ hq).1⟩
  have hsession : ∀ d, deeds d → ¬ d.OfSession := fun d hd => (hdeeds d hd).1
  exact {
    approvals := fun key hkey other hother p => registry_keeps_acts Registry.approvals h hapart
      hsession (fun m n hd => (hdeeds _ hd).2 other hother) hw.approvals hkey p
    connections := fun key hkey other hother i => registry_keeps_acts Registry.connections h hapart
      hsession (fun m n hd => (hdeeds _ hd).2 other hother) hw.connections hkey i }

/-! ## Calls of pages -/

/-- An operation does deeds on one origin at most, and tells nobody but its page. -/
structure KeepsTo (origin : String) (w v : Wallet) : Prop where
  acts : Acts (Deed.Concerns origin) w v
  told : ∃ more, v.told = w.told ++ more ∧ ∀ e ∈ more, e.1 = origin

theorem KeepsTo.isolates (h : w.KeepsTo origin v) : w.Isolates origin v where
  toAltersOnly := h.acts.altersOnly fun _ => id
  told := h.told

theorem told_of_same (h : v.told = w.told) :
    ∃ more, v.told = w.told ++ more ∧ ∀ e ∈ more, e.1 = origin :=
  ⟨[], by rw [h, List.append_nil], nofun⟩

theorem told_of_heard {event : PageEvent} (h : v.told = w.told ++ [(origin, event)]) :
    ∃ more, v.told = w.told ++ more ∧ ∀ e ∈ more, e.1 = origin :=
  ⟨_, h, fun _ he => congrArg Prod.fst (List.mem_singleton.1 he)⟩

/-- Of the calls of a page only revoking does any deed. -/
theorem deeds_of_page {call : Call} {d : Deed} (h : call.OfPage origin)
    (hrevoke : ∀ o, call ≠ .revoke o) : ¬ call.Deeds w d := by
  intro hd
  cases call with
  | revoke o => exact hrevoke o rfl
  | connect | reveal | prepare | generate =>
      cases d with
      | unlock => rcases hd.1 with hcall | hcall <;> cases hcall
      | setUp => rcases hd.1 with hcall | hcall <;> cases hcall
      | lock => cases hd
      | _ => exact hd
  | _ => exact h

theorem revoke_keepsTo (hw : w.Guarded) (origin : String) :
    w.KeepsTo origin (revoke origin w).2 where
  acts := revoke_concerns hw origin
  told := by
    rcases revoke_cases hw origin with ⟨e, v, hrun, _, htold⟩ | ⟨cause, v, hrun, _, htold⟩ |
      ⟨a, v, hrun, _, _, ⟨_, htold⟩ | ⟨u, n, _, htold, hdone⟩⟩
    · rw [hrun]
      exact told_of_same htold
    · rw [hrun]
      exact told_of_same htold
    · rw [hrun]
      exact told_of_same htold
    · rw [hrun]
      exact told_of_heard
        (hdone.told.trans (congrArg (· ++ [(origin, PageEvent.disconnect)]) htold))

/-- A call of a page keeps to the origin of the page. -/
theorem perform_keepsTo {call : Call} (h : call.OfPage origin) (hw : w.Guarded) :
    w.KeepsTo origin (perform call w).2 := by
  by_cases hrevoke : ∃ o, call = .revoke o
  · rcases hrevoke with ⟨o, rfl⟩
    rcases h
    rw [perform, finishQuietly, finish, Op.bind_pure_state]
    exact revoke_keepsTo hw _
  · have hother : ∀ o, call ≠ .revoke o := fun o ho => hrevoke ⟨o, ho⟩
    refine ⟨(perform_acts call w).mono fun d hd => absurd hd (deeds_of_page h hother),
      told_of_same (perform_told ?_ w)⟩
    cases call with
    | connect | reveal | prepare | generate => exact fun _ _ => trivial
    | revoke o => exact absurd rfl (hother o)
    | _ => exact h.elim

/-- Going on keeps to the origin that the errand is for. -/
theorem resume_keepsTo {on : Waiting}
    (h : ∀ id channel errand, on.asked? = some (id, channel, errand) →
      ∀ other, errand.Reaches other → other = origin) (w : Wallet) :
    w.KeepsTo origin (resume on w).2 where
  acts := (resume_acts on w).mono fun d hd => ⟨Waiting.deeds_apart hd, fun other hother =>
    Waiting.leaves (fun id channel errand hasked hlinks =>
      hother (h id channel errand hasked other (.inl hlinks))) hd⟩
  told := by
    -- Of the answers only the choice of an identity tells a page that it is connected.
    by_cases hchoice : ∃ id channel o, on.asked? = some (id, channel, .identityChoice o)
    · rcases hchoice with ⟨id, channel, o, hasked⟩
      rcases h id channel _ hasked o (.inl rfl)
      rcases resume_choice hasked w with ⟨_, hsame, _⟩ | ⟨i, _, _, hheard, _⟩
      · exact told_of_same hsame
      · exact told_of_heard hheard
    · rcases resume_told (fun id channel o hasked => hchoice ⟨id, channel, o, hasked⟩) w with
        hsame | ⟨id, channel, o, commitment, hasked, hheard⟩
      · exact told_of_same hsame
      · rcases h id channel _ hasked o (.inr ⟨commitment, rfl⟩)
        exact told_of_heard hheard

/-- What is loaded of the others gets into a slot from which an origin is removed. -/
theorem revoke_mirrors (hunconnected : w.isConnected origin = false) :
    (revoke origin w).2.kept w.config.storageKeys.approvals =
      w.kept w.config.storageKeys.approvals ∨
    Shelf.Mirrors approvalsLabel w.core.session.secret
      ((revoke origin w).2.kept w.config.storageKeys.approvals)
      (revoke origin w).2.core.approvals := by
  rcases hremove : Shelf.remove approvalsLabel w.core.session.secret origin w.approvalShelf with
    ⟨outcome, s⟩
  -- The origin is not connected, so the revocation is over with the approvals.
  have hstate : (revoke origin w).2 = w ∨ (revoke origin w).2 = w.putApprovals s := by
    have hrun : onApprovals (Shelf.remove approvalsLabel w.core.session.secret origin) w =
        (outcome, w.putApprovals s) := by
      rw [onApprovals_apply, hremove]
    rw [revoke]
    split
    · exact .inl rfl
    · refine .inr ?_
      rcases outcome with e | removed
      · have hrefused : unapprove origin w = (.error e, w.putApprovals s) := by
          rw [unapprove, Op.bind_ok (x := secret) rfl, Op.bind_error hrun]
        rw [Op.bind_error hrefused]
      · have hremoved : unapprove origin w = (.ok removed.isSome, w.putApprovals s) := by
          rw [unapprove, Op.bind_ok (x := secret) rfl, Op.bind_ok hrun, Op.pure_apply]
        have hstill : ¬ (w.putApprovals s).isConnected origin = true :=
          Bool.eq_false_iff.1 hunconnected
        rw [Op.bind_ok hremoved, Op.bind_ok (x := Op.get) rfl, if_neg hstill]
        rfl
  rcases hstate with hsame | hput
  · rw [hsame]
    exact .inl rfl
  · have hkept : (w.putApprovals s).kept w.config.storageKeys.approvals = s.slot.value :=
      congrArg Slot.value (Storage.slot_put_self _ _ _)
    rw [hput, hkept]
    have hacts := Shelf.remove_acts approvalsLabel w.core.session.secret origin w.approvalShelf
    rw [hremove] at hacts
    exact hacts.mirrors_of_changed

end Wallet

namespace Run

variable {run : Run} {t n : Nat} {on : Waiting} {origin : String}

/-! ## Runs -/

/-- A stage runs a part of a call of the page of an origin. -/
def PartOf (run : Run) (t : Nat) (origin : String) : Prop :=
  (∃ call, run.move t = .call call ∧ call.OfPage origin) ∨
  ∃ n on call, run.GoesOn t n on ∧ run.move n = .call call ∧ call.OfPage origin

/-- Whoever waits in a call of a page waits with an errand for the origin of the page. -/
theorem errand_of_page {call : Call} {id : UInt64} {channel : Nat} {errand : Errand}
    {other : String} (hmove : run.move n = .call call) (hpage : call.OfPage origin)
    (hwaits : run.Waits t n on) (hasked : on.asked? = some (id, channel, errand))
    (hreaches : errand.Reaches other) : other = origin := by
  -- A call that waits was made to connect, to ask, or to wait for the signal.
  rcases rooted hwaits with ⟨o, changeIdentity, hconnect, hlinks⟩ |
    ⟨q, ⟨call', hmove', hq⟩, hasked'⟩ | ⟨hawait, _⟩
  · rcases Move.call.inj (hmove.symm.trans hconnect)
    rcases hpage
    rcases hreaches with hother | ⟨commitment, rfl⟩
    · exact Waiting.links_unique ((Waiting.links_iff hasked).2 hother) hlinks
    · exact ((Waiting.links_iff hasked).1 hlinks).elim
  · rcases Move.call.inj (hmove.symm.trans hmove')
    rcases Prod.mk.inj (Option.some.inj (hasked.symm.trans hasked')) with ⟨_, hrest⟩
    rcases Prod.mk.inj hrest with ⟨_, rfl⟩
    rcases hreaches with hother | ⟨commitment, hreveal⟩
    · exact absurd (Errand.connects_iff.2 ⟨other, hother⟩) (Wallet.question_connects hq)
    · -- Of the calls of a page only one is to reveal a commitment.
      cases call with
      | reveal o =>
          rcases Option.map_eq_some_iff.1 hq with ⟨connection, _, rfl⟩
          rcases Errand.reveal.inj hreveal with ⟨rfl, _⟩
          exact hpage
      | prepare | generate =>
          rcases Wallet.proofQuestion?_eq_some hq with ⟨_, job, _, rfl⟩
          cases hreveal
      | connect => cases hq
      | revoke => cases hq
      | _ => exact hpage.elim
  · rcases Move.call.inj (hmove.symm.trans hawait)
    exact hpage.elim

/-- A part of a call of a page changes one origin in memory only, and tells nobody but its page
anything. The slots of the registries keep what they hold of the others, if these are two and hold
what is loaded, and so they always do with three slots to which nobody else writes. -/
theorem origins_isolated (h : run.PartOf t origin) :
    (run.wallet t).Isolates origin (run.wallet (t + 1)) ∧
    (run.config.storageKeys.approvals ≠ run.config.storageKeys.connections →
      (run.wallet t).Mirrored → (run.wallet t).IsolatesKept origin (run.wallet (t + 1))) ∧
    (run.config.storageKeys.Distinct →
      (∀ u, ¬ run.WrittenAt u run.config.storageKeys.approvals ∧
        ¬ run.WrittenAt u run.config.storageKeys.connections) →
      (run.wallet t).IsolatesKept origin (run.wallet (t + 1))) := by
  -- A part of a call of a page keeps to it, be it the first or a later one.
  have hkeeps : (run.wallet t).KeepsTo origin (run.wallet (t + 1)) := by
    rcases h with ⟨call, hmove, hpage⟩ | ⟨n, on, call, hgoes, hmove, hpage⟩
    · rw [wallet_call hmove]
      exact Wallet.perform_keepsTo hpage (run.guarded t)
    · rw [wallet_goOn hgoes]
      exact Wallet.resume_keepsTo (fun id channel errand hasked other hreaches =>
        errand_of_page hmove hpage hgoes.waits hasked hreaches) _
  have hkept (hkeys : run.config.storageKeys.approvals ≠ run.config.storageKeys.connections)
      (hmirrored : (run.wallet t).Mirrored) :
      (run.wallet t).IsolatesKept origin (run.wallet (t + 1)) := by
    rw [← run.config_eq t] at hkeys
    exact Wallet.Acts.isolatesKept hkeeps.acts (fun _ => id) hkeys hmirrored
  exact ⟨hkeeps.isolates, hkept, fun hkeys hwritten =>
    hkept hkeys.registries (mirrored hkeys hwritten t)⟩

/-- An origin is connected to an identity, and another one revoked that is called like it. -/
def namesake : Run where
  move
    | 0 => .host (.insertIdentity
        { commitment := "111", name := "Account", serialized := "secret" })
    | 1 => .call (.setupPassword "password")
    | 2 => .call (.connectIdentity "111" "https://a.test")
    | _ => .call (.revoke "111")

theorem namesake_connected :
    (namesake.wallet 3).core.connections.bind (·.get? "https://a.test") =
      some { commitment := "111", name := "Account" } := by
  rw [wallet, system_adopts_add (t := 1) (d := 1) rfl (by decide) (by decide +kernel)
    (by decide +kernel) (by decide +kernel)]
  decide +kernel

/-- The one that is connected stays so, in memory and in its slot. -/
theorem origins_isolated_namesake : (namesake.wallet 4).isConnected "https://a.test" = true ∧
    (namesake.wallet 3).IsolatesKept "111" (namesake.wallet 4) := by
  have hpart : namesake.PartOf 3 "111" := .inl ⟨.revoke "111", rfl, rfl⟩
  have hunwritten : ∀ t name, ¬ namesake.WrittenAt t name := by
    rintro t name ⟨action, hmove, hwrites⟩
    rcases t with _ | _ | _ | t
    all_goals
      cases hmove
      try exact hwrites
  rcases origins_isolated hpart with ⟨hmemory, _, hkept⟩
  refine ⟨?_, hkept ⟨by decide, by decide, by decide⟩
    fun t => ⟨hunwritten t _, hunwritten t _⟩⟩
  rcases Option.bind_eq_some_iff.1 namesake_connected with ⟨m, hm, hget⟩
  rcases hmemory.connections m hm with ⟨n, hn, hsame⟩
  rw [Wallet.isConnected_of_get? hn, hsame _ (by decide), hget]
  rfl

/-! ## Slots that hold something else -/

/-- Two origins are approved, their slot is emptied in some way, and one of them is revoked. -/
def emptying (keys : StorageKeys) (loss : Move) : Run where
  config := { storageKeys := keys }
  move
    | 0 => .call (.setupPassword "password")
    | 1 => .call (.approve { origin := "https://a.test", canSkipApprove := true })
    | 2 => .call (.approve { origin := "https://b.test", canSkipApprove := true })
    | 3 => loss
    | _ => .call (.revoke "https://b.test")

/-- Someone else clears the slot. -/
def rewrittenSlot : Run := emptying {} (.host (.erase "keeper.approvals"))

/-- The other registry is in the same slot, and is cleared. -/
def commonSlot : Run :=
  emptying { password := "x", approvals := "y", connections := "y" } (.call .clearConnections)

theorem emptying_adopts (keys : StorageKeys) (loss : Move) (d : Nat) :
    (emptying keys loss).system (1 + d) = (emptying keys loss).after 1
      (System.run 0 (Wallet.finish .flag (Wallet.adopt "password"))
        ((emptying keys loss).system 0)).2 d :=
  system_adopts_add rfl (by decide) rfl rfl rfl d

/-- A slot is empty, and something of another origin is in it once an origin is revoked. -/
def Refills (run : Run) (t : Nat) (origin other : String) : Prop :=
  run.move t = .call (.revoke origin) ∧ (run.wallet t).isConnected origin = false ∧
  (run.wallet t).kept run.config.storageKeys.approvals = none ∧
  (run.wallet (t + 1)).kept run.config.storageKeys.approvals ≠ none ∧
  (run.wallet (t + 1)).isApproved other = true

/-- Then the slot does not hold the same of the other origin. -/
theorem Refills.not_isolated {other : String} (h : run.Refills t origin other)
    (hother : other ≠ origin) : ¬ (run.wallet t).IsolatesKept origin (run.wallet (t + 1)) := by
  intro hisolates
  rcases h with ⟨hmove, hunconnected, hempty, hwritten, happroved⟩
  have hstate : run.wallet (t + 1) = (Wallet.revoke origin (run.wallet t)).2 := by
    rw [wallet_call hmove, Wallet.perform, Wallet.finishQuietly, Wallet.finish,
      Op.bind_pure_state]
  have hmirrors := Wallet.revoke_mirrors hunconnected
  rw [← hstate, run.config_eq t, hempty] at hmirrors
  rcases Option.isSome_iff_exists.1 happroved with ⟨p, hp⟩
  rcases Option.bind_eq_some_iff.1 hp with ⟨m, hm, hget⟩
  -- What was written is the whole map, with the other origin in it.
  rcases hmirrors.resolve_left hwritten m hm with ⟨key, hkey, hholds⟩
  have hkept := hisolates.approvals key
    (fun k hk => Option.some.inj (hk.symm.trans hkey)) other hother p
  rw [run.config_eq t, hempty, Shelf.keepsEntry_iff hholds] at hkept
  rcases hkept.1 hget with ⟨_, rfl, hnone⟩
  cases hnone

theorem rewrittenSlot_refills : rewrittenSlot.Refills 4 "https://b.test" "https://a.test" := by
  refine ⟨rfl, ?_⟩
  rw [wallet, wallet, rewrittenSlot, emptying_adopts _ _ 3, emptying_adopts _ _ 4]
  decide +kernel

theorem commonSlot_refills : commonSlot.Refills 4 "https://b.test" "https://a.test" := by
  refine ⟨rfl, ?_⟩
  rw [wallet, wallet, commonSlot, emptying_adopts _ _ 3, emptying_adopts _ _ 4]
  decide +kernel

/-- So what is kept of an origin may change with a call of another page, if somebody else writes to
the slots of the registries, or if the registries share a slot. -/
theorem slots_rewritten :
    (¬ ∀ run : Run, run.config.storageKeys.Distinct → ∀ t origin, run.PartOf t origin →
      (run.wallet t).IsolatesKept origin (run.wallet (t + 1))) ∧
    ¬ ∀ run : Run, (∀ t name, ¬ run.WrittenAt t name) → ∀ t origin, run.PartOf t origin →
      (run.wallet t).IsolatesKept origin (run.wallet (t + 1)) := by
  constructor
  · intro hisolated
    exact rewrittenSlot_refills.not_isolated (by decide) (hisolated rewrittenSlot
      ⟨by decide, by decide, by decide⟩ 4 _ (.inl ⟨_, rewrittenSlot_refills.1, rfl⟩))
  · intro hisolated
    have hcalls : ∀ t name, ¬ commonSlot.WrittenAt t name := by
      rintro t name ⟨action, hmove, _⟩
      rcases t with _ | _ | _ | _ | t
      all_goals cases hmove
    exact commonSlot_refills.not_isolated (by decide)
      (hisolated commonSlot hcalls 4 _ (.inl ⟨_, commonSlot_refills.1, rfl⟩))

end Run

end WalletTrust

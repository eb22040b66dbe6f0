import WalletTrust.Proofs.Adopting
import WalletTrust.Proofs.Severing
import WalletTrust.Proofs.Vetting

/-!
# Connected Without Approval

When an origin can be connected that is not approved.

A connect request approves the origin first and then waits for the user to choose an identity. The
wait has no end of its own, and when it is over the request connects the origin without another look
at the approval. If the origin was revoked in the meantime, it is connected and not approved.

That is the only way. In a run in which the registries are edited by connect requests and by
revoking alone, each origin has a row of two entries at any time, its approval and its connection,
and a stage changes a row in one of three ways: it approves the origin, or connects it, or takes
both entries away. So an origin that is connected and not approved was connected by a request that
had waited through a revocation.

## Main definitions

* `Call.Bypasses`: A call edits the registries itself, or unlocks the session behind them.
* `Wallet.HasRoomWithout`: There is room for the registries without an origin.
* `Run.Guided`: Only connect requests and revoking edit the registries, and there is room for what
  revoking leaves.
* `Run.Table`: The contents of the registries in all stages.
* `Run.RevokedMeanwhile`: A connect request connects an origin that was revoked meanwhile.

## Theorems

* `Run.Guided.table`: A guided run has a table.
* `Run.Table.row_cases`: What a stage does to a row.
* `Run.unapproved_iff_revokedMeanwhile`: An origin is connected without approval just if a request
  connected it that had waited for the choice while the origin was revoked.
* `Run.Guided.attentive`: The registries are loaded whenever the session is unlocked.
* `Run.Table.approval_stays`, `Run.Table.connection_stays`: An entry stays until the origin is
  revoked.
* `Run.Table.connected_since`, `Run.Table.approved_or_revoked`: What must have come before a
  connection, and before a choice.
* `Run.revokedWhileChoosing_unapproved`: Not every origin that is connected is approved.
-/

namespace WalletTrust

/-- A call that edits the registries itself, or unlocks the session without loading them. -/
def Call.Bypasses : Call → Prop
  | .setupLock _ => True
  | .openLock _ => True
  | .approve _ => True
  | .setPermission _ _ => True
  | .unapprove _ => True
  | .clearApprovals => True
  | .connectIdentity _ _ => True
  | .disconnect _ => True
  | .clearConnections => True
  | .uploadBackup _ => True
  | .uploadComponent _ _ _ => True
  | _ => False

/-- The registries are edited by revoking, if not by what bypasses the connect requests. -/
theorem Call.leaves {w : Wallet} {call : Call} {d : Deed} (hgated : ¬ call.Bypasses)
    (hrevoke : ∀ origin, call ≠ .revoke origin) (hd : call.Deeds w d) (origin : String) :
    d.Leaves origin := by
  -- Of the calls that write a registry, all but a revocation go past the gate.
  cases d with
  | approvals =>
      cases call with
      | approve | setPermission | unapprove | clearApprovals | uploadBackup | uploadComponent =>
          exact absurd trivial hgated
      | revoke o => exact absurd rfl (hrevoke o)
      | _ => exact hd.elim
  | connections =>
      cases call with
      | connectIdentity | disconnect | clearConnections | uploadBackup | uploadComponent =>
          exact absurd trivial hgated
      | revoke o => exact absurd rfl (hrevoke o)
      | _ => exact hd.elim
  | _ => trivial

namespace Wallet

variable {w : Wallet}

/-- Revoking fails and changes nothing, or a write is refused, or the origin has neither entry. -/
theorem perform_revoke_cases (hw : w.Guarded) (origin : String) :
    (∃ e, (perform (.revoke origin) w).1 = .error e ∧
      Acts Harmless w (perform (.revoke origin) w).2) ∨
    (∃ cause, (perform (.revoke origin) w).1 = .error (.storageWrite cause)) ∨
    ((perform (.revoke origin) w).1 = .ok (.finished .done) ∧
      (∃ a : OriginMap HostPermission,
        (perform (.revoke origin) w).2.core.approvals = some (a.erase origin)) ∧
      (perform (.revoke origin) w).2.isConnected origin = false) := by
  -- A revocation that fails has failed before anything was written, or else in a write.
  rcases revoke_cases hw origin with
    ⟨e, v, hrun, hacts, _⟩ | ⟨cause, v, hrun, _, _⟩ | ⟨a, v, hrun, happrovals, hconnected, _⟩
  · have hends : perform (.revoke origin) w = (.error e, v) := Op.bind_error hrun _
    rw [hends]
    exact .inl ⟨e, rfl, hacts⟩
  · have hends : perform (.revoke origin) w = (.error (.storageWrite cause), v) :=
      Op.bind_error hrun _
    rw [hends]
    exact .inr (.inl ⟨cause, rfl⟩)
  · have hends : perform (.revoke origin) w = (.ok (.finished .done), v) := Op.bind_ok hrun _
    rw [hends]
    exact .inr (.inr ⟨rfl, ⟨a, happrovals⟩, hconnected⟩)

/-- The slots have room for the registries without an origin, as far as it is among them. -/
def HasRoomWithout (origin : String) (w : Wallet) : Prop :=
  ∀ key, w.core.session.secret = some key →
    (∀ a, w.core.approvals = some a → a.contains origin = true →
      w.approvalShelf.HasRoom approvalsLabel key (a.erase origin)) ∧
    ∀ c, w.core.connections = some c → c.contains origin = true →
      w.connectionShelf.HasRoom connectionsLabel key (c.erase origin)

/-- Without quotas there is room for whatever is left. -/
theorem hasRoomWithout_of_quota (ha : w.approvalShelf.slot.quota = none)
    (hc : w.connectionShelf.slot.quota = none) (origin : String) : w.HasRoomWithout origin :=
  fun key _ => ⟨fun _ _ _ => Shelf.hasRoom_of_quota ha approvalsLabel key _,
    fun _ _ _ => Shelf.hasRoom_of_quota hc connectionsLabel key _⟩

/-- With the secret, and with room for the smaller map, an approval can be taken back. -/
theorem unapprove_accepted {key origin : String} {a : OriginMap HostPermission}
    (hkey : w.core.session.secret = some key) (ha : w.core.approvals = some a)
    (hroom : a.contains origin = true →
      w.approvalShelf.HasRoom approvalsLabel key (a.erase origin)) :
    ∃ b s, unapprove origin w = (.ok b, w.putApprovals s) := by
  have hsecret : secret w = (.ok (some key), w) := by rw [← hkey]; rfl
  have hremoves : ∃ found s,
      Shelf.remove approvalsLabel (some key) origin w.approvalShelf = (.ok found, s) := by
    rcases hget : a.get? origin with _ | p
    · -- Nothing is removed, so nothing is written either.
      exact ⟨none, w.approvalShelf, by
        rw [Shelf.remove_loaded (s := w.approvalShelf) approvalsLabel (some key) origin ha, hget]⟩
    · rcases Shelf.remove_room approvalsLabel key (s := w.approvalShelf) ha hget with
        ⟨_, s, hrun, _⟩ | ⟨hfull, _⟩
      · exact ⟨some p, s, hrun⟩
      · exact absurd (hroom (by rw [OriginMap.contains, hget]; rfl)) hfull
  rcases hremoves with ⟨found, s, hrun⟩
  have hput : onApprovals (Shelf.remove approvalsLabel (some key) origin) w =
      (.ok found, w.putApprovals s) := by rw [onApprovals_apply, hrun]
  exact ⟨found.isSome, s, by rw [unapprove, Op.bind_ok hsecret, Op.bind_ok hput, Op.pure_apply]⟩

/-- Where there is room for what is left, no write is refused. Without the secret nothing is written
at all. -/
theorem revoke_accepted {origin : String}
    (hkeys : w.config.storageKeys.approvals ≠ w.config.storageKeys.connections)
    (hlocked : w.core.session.secret = none → w.core.approvals = none) (hw : w.Attentive)
    (hroom : w.HasRoomWithout origin) (cause : String) :
    (perform (.revoke origin) w).1 ≠ .error (.storageWrite cause) := by
  intro hrefused
  -- What the call answers is what the gate answers.
  have hrevoke : (revoke origin w).1 = .error (.storageWrite cause) := by
    rcases hrun : revoke origin w with ⟨e | _, v⟩
    · have hends : perform (.revoke origin) w = (.error e, v) := Op.bind_error hrun _
      rw [hends] at hrefused
      exact congrArg Except.error (Except.error.inj hrefused)
    · have hends : perform (.revoke origin) w = (.ok (.finished .done), v) := Op.bind_ok hrun _
      rw [hends] at hrefused
      cases hrefused
  by_cases horigin : origin = ""
  · rw [revoke, if_pos horigin] at hrevoke
    cases hrevoke
  rw [revoke, if_neg horigin] at hrevoke
  rcases hkey : w.core.session.secret with _ | key
  -- While it is locked the wallet holds no registry, and is refused before it comes to a write.
  · have hsecret : secret w = (.ok none, w) := by rw [← hkey]; rfl
    have hput : onApprovals (Shelf.remove approvalsLabel none origin) w =
        (.error .notProvided, w) := by
      rw [onApprovals_apply, Shelf.remove_locked (s := w.approvalShelf) origin (hlocked hkey),
        putApprovals_self]
    have hunapprove : unapprove origin w = (.error .notProvided, w) := by
      rw [unapprove, Op.bind_ok hsecret, Op.bind_error hput]
    rw [Op.bind_error hunapprove] at hrevoke
    cases hrevoke
  -- Unlocked it holds both, and there is room for what is left of either.
  · rcases hw (by rw [Session.isUnlocked, hkey]; rfl) with ⟨ha, hc⟩
    rcases Option.isSome_iff_exists.1 ha with ⟨a, ha⟩
    rcases Option.isSome_iff_exists.1 hc with ⟨c, hc⟩
    rcases hroom key hkey with ⟨happrovals, hconnections⟩
    rcases unapprove_accepted hkey ha (happrovals a ha) with ⟨b, s, hunapprove⟩
    rw [Op.bind_ok hunapprove, Op.bind_ok (x := Op.get) rfl] at hrevoke
    split at hrevoke
    · next hconnected =>
      have hget : ((c.get? origin).isSome) = true := by
        rw [← isConnected_of_get? (w := w.putApprovals s) hc]
        exact hconnected
      rcases Option.isSome_iff_exists.1 hget with ⟨i, hi⟩
      have hhand : (w.putApprovals s).AtHand key c := ⟨hkey, .inl hc⟩
      rcases disconnect_named hhand horigin (.origin hi) with
        ⟨_, v, hdisconnect, _⟩ | ⟨hfull, _⟩
      · rw [Op.bind_ok hdisconnect] at hrevoke
        cases hrevoke
      · -- The approvals are in another slot, so there is as much room as before.
        refine hfull ((Shelf.hasRoom_congr ?_ key _).2 (hconnections c hc hget))
        rw [slot_putApprovals hkeys]
    · cases hrevoke

end Wallet

namespace Run

variable {run : Run} {password origin : String} {t u n : Nat} {on : Waiting}
  {a : Nat → OriginMap HostPermission} {c : Nat → OriginMap ConnectedIdentity}

/-! ## Guided runs -/

/-- A run that begins with empty registries, in which connect requests and revoking edit them and
nothing else does. Their slots can be read and have room for what revoking leaves, and there is a
single password. -/
structure Guided (run : Run) : Prop where
  keys : run.config.storageKeys.Distinct
  blank : (run.wallet 0).kept run.config.storageKeys.approvals = none ∧
    (run.wallet 0).kept run.config.storageKeys.connections = none
  gated : ∀ t call, run.move t = .call call → ¬ call.Bypasses
  unwritten : ∀ t, ¬ run.WrittenAt t run.config.storageKeys.approvals ∧
    ¬ run.WrittenAt t run.config.storageKeys.connections
  readable : ∀ t,
    ((run.wallet t).host.storage.slot run.config.storageKeys.approvals).readable = true ∧
    ((run.wallet t).host.storage.slot run.config.storageKeys.connections).readable = true
  roomy : ∀ t origin, run.move t = .call (.revoke origin) → (run.wallet t).HasRoomWithout origin
  password : ∃ password, run.Single password

/-- The contents of the registries in all stages of a guided run. While the session is unlocked they
are loaded. -/
structure Table (run : Run) (password : String) (a : Nat → OriginMap HostPermission)
    (c : Nat → OriginMap ConnectedIdentity) : Prop where
  guided : run.Guided
  single : run.Single password
  approvals : ∀ t, (run.wallet t).HasApprovals password (a t)
  connections : ∀ t, (run.wallet t).HasConnections password (c t)
  attentive : ∀ t, (run.wallet t).Attentive

/-- A call that unlocks the session and loads the registries leaves them loaded. -/
theorem Guided.attentive_of_loading (h : run.Guided)
    (ha : ∀ t, (run.wallet t).HasApprovals password (a t))
    (hc : ∀ t, (run.wallet t).HasConnections password (c t)) {deeds : Deed → Prop}
    {x : Op SessionLock Bool} {call : Call} (hmove : run.move t = .call call)
    (hcall : Wallet.perform call = Wallet.finish .flag
      (do let _ ← Wallet.onLock x; Wallet.loadRegistries; return true))
    (hact : SessionLock.Act deeds (run.wallet t).lock (x (run.wallet t).lock).2)
    (herror : ∀ e l, x (run.wallet t).lock = (.error e, l) →
      l.session = (run.wallet t).core.session) (hw : (run.wallet t).Attentive) :
    (run.wallet (t + 1)).Attentive := by
  have hstate : run.wallet (t + 1) =
      ((do let _ ← Wallet.onLock x; Wallet.loadRegistries; return true : Op Wallet Bool)
        (run.wallet t)).2 := by
    rw [wallet_call hmove, hcall, Wallet.finish, Op.bind_pure_state]
  -- Both slots can be read, so both registries are loaded once there is a key.
  rw [hstate]
  refine Wallet.onLock_attentive ?_ hact herror (ha t) (hc t) hw ?_ ?_ fun key hkey => ?_
  · rw [run.config_eq t]
    exact h.keys
  · rw [run.config_eq t]
    exact (h.readable t).1
  · rw [run.config_eq t]
    exact (h.readable t).2
  · rw [← hstate] at hkey
    exact (ha (t + 1)).single key hkey

/-- The registries are loaded whenever the session is unlocked. -/
theorem Guided.attentive (h : run.Guided)
    (ha : ∀ t, (run.wallet t).HasApprovals password (a t))
    (hc : ∀ t, (run.wallet t).HasConnections password (c t)) (t : Nat) :
    (run.wallet t).Attentive := by
  -- A guided user adopts a password only where the registries are loaded right after it.
  induction t with
  | zero => exact fun hunlocked => absurd hunlocked Bool.false_ne_true
  | succ t ih =>
      rcases run.deeds_stage t with ⟨call, hmove, hacts⟩ | ⟨n, on, _, hacts⟩ | hout
      · have hgated := h.gated t call hmove
        cases call with
        | setupPassword p =>
            exact h.attentive_of_loading ha hc hmove rfl (SessionLock.setupPassword_acts p _)
              (fun _ _ => SessionLock.setupPassword_error) ih
        | unlock p =>
            exact h.attentive_of_loading ha hc hmove rfl (SessionLock.unlock_acts p _)
              (fun _ _ => SessionLock.unlock_error) ih
        -- The lock by itself would leave them unloaded, and is not used.
        | setupLock => exact absurd trivial hgated
        | openLock => exact absurd trivial hgated
        | _ =>
            refine hacts.attentive (fun q => ⟨fun hd => ?_, fun hd => ?_⟩) ih
            · rcases hd.1 with hcall | hcall
              · cases hcall
              · cases hcall
            · rcases hd.1 with hcall | hcall
              · cases hcall
              · cases hcall
      · exact hacts.attentive (fun q => ⟨fun hd => Waiting.deeds_apart hd trivial,
          fun hd => Waiting.deeds_apart hd trivial⟩) ih
      · exact hout.attentive ih

/-- A guided run has a table. -/
theorem Guided.table (h : run.Guided) : ∃ password a c, run.Table password a c := by
  rcases h.password with ⟨password, hsingle⟩
  choose a ha using Registry.approvals.has_run hsingle h.keys h.blank.1 fun t => (h.unwritten t).1
  choose c hc using Registry.connections.has_run hsingle h.keys h.blank.2
    fun t => (h.unwritten t).2
  exact ⟨password, a, c, h, hsingle, ha, hc, h.attentive ha hc⟩

/-! ## What happens to an origin -/

/-- An origin is revoked. -/
def Revokes (run : Run) (t : Nat) (origin : String) : Prop :=
  run.move t = .call (.revoke origin) ∧ run.outcome t = some (.ok .done)

/-- A connect request goes on with the answer to its first question, and the origin is approved. -/
def Approves (run : Run) (t : Nat) (origin : String) : Prop :=
  (∃ n on id channel changeIdentity, run.GoesOn t n on ∧
    on.asked? = some (id, channel, .approval origin changeIdentity)) ∧
  (run.wallet (t + 1)).isApproved origin = true

/-- A connect request waits for the choice of an identity. -/
def AwaitsChoice (run : Run) (t n : Nat) (origin : String) : Prop :=
  ∃ on id channel, run.Waits t n on ∧ on.asked? = some (id, channel, .identityChoice origin)

/-- A connect request goes on with the choice of an identity and connects the origin. -/
def Connects (run : Run) (t n : Nat) (origin : String) : Prop :=
  run.move t = .goOn n ∧ run.AwaitsChoice t n origin ∧
    ∃ connection, run.outcome t = some (.ok (.connection (some connection)))

/-- The request that connected an origin had waited for the choice while the origin was revoked, and
the origin was not approved again since. -/
def RevokedMeanwhile (run : Run) (t : Nat) (origin : String) : Prop :=
  ∃ n j k, j < k ∧ k < t ∧ run.AwaitsChoice j n origin ∧ run.Revokes j origin ∧
    run.Connects k n origin ∧ (∀ i, j < i → i < t → ¬ run.Approves i origin) ∧
    ∀ i, k < i → i < t → ¬ run.Revokes i origin

/-! ## Rows -/

namespace Table

variable (h : run.Table password a c)
include h

theorem isApproved (hloaded : (run.wallet t).core.approvals.isSome) (origin : String) :
    (run.wallet t).isApproved origin = ((a t).get? origin).isSome := by
  rcases Option.isSome_iff_exists.1 hloaded with ⟨m, hm⟩
  rw [Wallet.isApproved_of_get? hm, ((h.approvals t).loaded m hm).2]

theorem isConnected (hloaded : (run.wallet t).core.connections.isSome) (origin : String) :
    (run.wallet t).isConnected origin = ((c t).get? origin).isSome := by
  rcases Option.isSome_iff_exists.1 hloaded with ⟨m, hm⟩
  rw [Wallet.isConnected_of_get? hm, ((h.connections t).loaded m hm).2]

/-- Where an origin is approved or connected in memory, both registries are loaded. -/
theorem loaded (hloaded : (run.wallet t).core.approvals.isSome ∨
    (run.wallet t).core.connections.isSome) :
    (run.wallet t).core.approvals.isSome ∧ (run.wallet t).core.connections.isSome := by
  refine h.attentive t ?_
  rcases hloaded with ha | hc
  · rcases Option.isSome_iff_exists.1 ha with ⟨m, hm⟩
    exact ((h.approvals t).loaded m hm).1
  · rcases Option.isSome_iff_exists.1 hc with ⟨m, hm⟩
    exact ((h.connections t).loaded m hm).1

/-- While the session is locked no approvals are loaded. -/
theorem unloaded (t : Nat) (hlocked : (run.wallet t).core.session.secret = none) :
    (run.wallet t).core.approvals = none := by
  refine Option.eq_none_iff_forall_ne_some.2 fun m hm => ?_
  have hunlocked := ((h.approvals t).loaded m hm).1
  rw [hlocked] at hunlocked
  cases hunlocked

theorem keys (t : Nat) (deeds : Deed → Prop) :
    (run.wallet t).config.storageKeys.Apart deeds := by
  rw [run.config_eq t]
  exact h.guided.keys.apart deeds

/-- An approval that no deed touches is there after the stage. -/
theorem approval_kept {deeds : Deed → Prop}
    (hacts : Wallet.Acts deeds (run.wallet t) (run.wallet (t + 1)))
    (hsingle : Deed.Single password deeds)
    (hleaves : ∀ m n, deeds (.approvals m n) → n.get? origin = m.get? origin) :
    (a (t + 1)).get? origin = (a t).get? origin :=
  Registry.approvals.row hacts (h.keys t deeds) hsingle hleaves (h.approvals t)
    (h.approvals (t + 1))

/-- So is a connection. -/
theorem connection_kept {deeds : Deed → Prop}
    (hacts : Wallet.Acts deeds (run.wallet t) (run.wallet (t + 1)))
    (hsingle : Deed.Single password deeds)
    (hleaves : ∀ m n, deeds (.connections m n) → n.get? origin = m.get? origin) :
    (c (t + 1)).get? origin = (c t).get? origin :=
  Registry.connections.row hacts (h.keys t deeds) hsingle hleaves (h.connections t)
    (h.connections (t + 1))

/-- An origin that all deeds leave as it is has the same row after a stage. -/
theorem row_kept {deeds : Deed → Prop}
    (hacts : Wallet.Acts deeds (run.wallet t) (run.wallet (t + 1)))
    (hsingle : Deed.Single password deeds) (hleaves : ∀ d, deeds d → d.Leaves origin) :
    (a (t + 1)).get? origin = (a t).get? origin ∧ (c (t + 1)).get? origin = (c t).get? origin :=
  ⟨h.approval_kept hacts hsingle fun _ _ => hleaves _,
    h.connection_kept hacts hsingle fun _ _ => hleaves _⟩

/-- An origin is revoked, or no row changes. -/
theorem revoke_row {other : String} (origin : String) (hmove : run.move t = .call (.revoke other)) :
    ((a (t + 1)).get? origin = (a t).get? origin ∧ (c (t + 1)).get? origin = (c t).get? origin) ∨
    run.Revokes t origin := by
  rcases eq_or_ne origin other with rfl | hother
  · rcases Wallet.perform_revoke_cases (run.guarded t) origin with
      ⟨e, _, hacts⟩ | ⟨cause, hrefused⟩ | ⟨hok, _, _⟩
    · rw [← wallet_call hmove] at hacts
      exact .inl (h.row_kept hacts (Deed.single_of_apart (fun _ => False.elim) password)
        fun _ => False.elim)
    -- There is room for the smaller maps, so the write is not refused.
    · refine absurd hrefused (Wallet.revoke_accepted ?_ (h.unloaded t) (h.attentive t)
        (h.guided.roomy t origin hmove) cause)
      rw [run.config_eq t]
      exact h.guided.keys.registries
    · exact .inr ⟨hmove, by rw [outcome_call hmove, hok]; rfl⟩
  · -- What is taken back of one origin is nothing to another.
    have hacts := Wallet.revoke_concerns (run.guarded t) other
    have hstate : run.wallet (t + 1) = (Wallet.revoke other (run.wallet t)).2 := by
      rw [wallet_call hmove, Wallet.perform, Wallet.finishQuietly, Wallet.finish,
        Op.bind_pure_state]
    rw [← hstate] at hacts
    exact .inl (h.row_kept hacts (Deed.single_of_apart (fun _ hd => hd.1) password)
      fun _ hd => hd.2 origin hother)

/-- With the answer to the first question the origin is approved, or its row stays. -/
theorem approval_row {id : UInt64} {channel : Nat} {changeIdentity : Bool}
    (hgoes : run.GoesOn t n on)
    (hasked : on.asked? = some (id, channel, .approval origin changeIdentity)) :
    (c (t + 1)).get? origin = (c t).get? origin ∧
      ((a (t + 1)).get? origin = (a t).get? origin ∨ run.Approves t origin) := by
  have hacts := acts_goOn hgoes
  have hsingle : Deed.Single password (on.Deeds (run.wallet t)) :=
    Deed.single_of_apart (fun _ => Waiting.deeds_apart) password
  constructor
  · refine h.connection_kept hacts hsingle fun m next hd => ?_
    rcases hd with ⟨_, _, _, _, hother, _, _, _, _, _, _, rfl, _⟩
    cases hother.symm.trans hasked
  rcases Registry.approvals.has_acts hacts (h.keys t _) hsingle (h.approvals t) with
    ⟨b, hchain, hb⟩
  rcases Shelf.holds_unique hb.kept (h.approvals (t + 1)).kept
  rcases hchain.cases_tail with hsame | ⟨m, _, hedit⟩
  · exact .inl (congrArg (OriginMap.get? · origin) hsame)
  -- The last edit sets the origin. It takes the secret, and with that the approvals are loaded.
  rcases hsecret : (run.wallet t).core.session.secret with _ | key
  · have hkept := hacts.kept_of_locked (fun _ => Waiting.deeds_apart) hsecret
      (run.wallet t).config.storageKeys.approvals
    have hholds := (h.approvals (t + 1)).kept
    rw [hacts.config, hkept] at hholds
    exact .inl (congrArg (OriginMap.get? · origin)
      (Shelf.holds_unique hholds (h.approvals t).kept))
  · have hunlocked : (run.wallet (t + 1)).core.session.isUnlocked = true := by
      rw [hacts.session fun _ => Waiting.deeds_apart, Session.isUnlocked, hsecret]
      rfl
    refine .inr ⟨⟨n, on, id, channel, changeIdentity, hgoes, hasked⟩, ?_⟩
    rw [h.isApproved (h.attentive (t + 1) hunlocked).1]
    rcases hedit with ⟨_, _, _, _, hother, _, o, _, _, p, rfl, _, _, hnext⟩
    rcases Option.some.inj (hother.symm.trans hasked)
    rw [hnext, OriginMap.get?_insert_self]
    rfl

/-- With the choice of an identity the origin is connected, or its row stays. -/
theorem choice_row {id : UInt64} {channel : Nat} (hgoes : run.GoesOn t n on)
    (hasked : on.asked? = some (id, channel, .identityChoice origin)) :
    (a (t + 1)).get? origin = (a t).get? origin ∧
      ((c (t + 1)).get? origin = (c t).get? origin ∨ run.Connects t n origin) := by
  constructor
  · refine h.approval_kept (acts_goOn hgoes)
      (Deed.single_of_apart (fun _ => Waiting.deeds_apart) password) fun m next hd => ?_
    rcases hd with ⟨_, _, _, _, hother, _, _, _, _, _, rfl, _⟩
    cases hother.symm.trans hasked
  · rcases Wallet.resume_choice hasked (run.wallet t) with ⟨hacts, _⟩ | ⟨i, hends, _⟩
    · rw [← wallet_goOn hgoes] at hacts
      exact .inl (h.row_kept hacts (Deed.single_of_apart (fun _ => False.elim) password)
        fun _ => False.elim).2
    · exact .inr ⟨hgoes.move, ⟨on, id, channel, hgoes.waits, hasked⟩, .of origin i,
        (outcome_goOn hgoes).trans (congrArg Progress.outcome? hends)⟩

/-- Going on with a request makes one entry of the row of an origin, or leaves the row alone. -/
theorem goOn_row (hgoes : run.GoesOn t n on) (origin : String) :
    ((a (t + 1)).get? origin = (a t).get? origin ∧ (c (t + 1)).get? origin = (c t).get? origin) ∨
    (run.Approves t origin ∧ (c (t + 1)).get? origin = (c t).get? origin) ∨
    (run.Connects t n origin ∧ (a (t + 1)).get? origin = (a t).get? origin) := by
  -- Only the two errands of a connect request for this origin touch its row.
  by_cases hlinks : ∃ id channel errand, on.asked? = some (id, channel, errand) ∧
      errand.Links origin
  · rcases hlinks with ⟨id, channel, errand, hasked, hlinks⟩
    cases errand with
    | approval o changeIdentity =>
        rcases hlinks
        rcases h.approval_row hgoes hasked with ⟨hc, ha | happroves⟩
        · exact .inl ⟨ha, hc⟩
        · exact .inr (.inl ⟨happroves, hc⟩)
    | identityChoice o =>
        rcases hlinks
        rcases h.choice_row hgoes hasked with ⟨ha, hc | hconnects⟩
        · exact .inl ⟨ha, hc⟩
        · exact .inr (.inr ⟨hconnects, ha⟩)
    | _ => exact hlinks.elim
  · refine .inl (h.row_kept (acts_goOn hgoes)
      (Deed.single_of_apart (fun _ => Waiting.deeds_apart) password) fun d hd => ?_)
    exact Waiting.leaves (fun id channel errand hasked hl =>
      hlinks ⟨id, channel, errand, hasked, hl⟩) hd

/-- A stage leaves the row of an origin alone, or empties it, or makes one of its entries. -/
theorem row_cases (t : Nat) (origin : String) :
    ((a (t + 1)).get? origin = (a t).get? origin ∧ (c (t + 1)).get? origin = (c t).get? origin) ∨
    run.Revokes t origin ∨
    (run.Approves t origin ∧ (c (t + 1)).get? origin = (c t).get? origin) ∨
    ∃ n, run.Connects t n origin ∧ (a (t + 1)).get? origin = (a t).get? origin := by
  -- A call can only revoke, an answer can approve or connect, and nothing else gets at the table.
  rcases run.deeds_stage t with ⟨call, hmove, hacts⟩ | ⟨n, on, hgoes, _⟩ | hout
  · by_cases hrevoke : ∃ other, call = .revoke other
    · rcases hrevoke with ⟨other, rfl⟩
      rcases h.revoke_row origin hmove with hsame | hrevoked
      · exact .inl hsame
      · exact .inr (.inl hrevoked)
    · exact .inl (h.row_kept hacts (h.single.call hmove) fun d hd =>
        Call.leaves (h.guided.gated t call hmove) (fun o ho => hrevoke ⟨o, ho⟩) hd origin)
  · rcases h.goOn_row hgoes origin with hsame | happroves | hconnects
    · exact .inl hsame
    · exact .inr (.inr (.inl happroves))
    · exact .inr (.inr (.inr ⟨n, hconnects⟩))
  · have hconfig := run.config_eq t
    have ha := Registry.approvals.has_outside hout (by rw [hconfig]; exact (h.guided.unwritten t).1)
      (h.approvals t)
    have hc := Registry.connections.has_outside hout
      (by rw [hconfig]; exact (h.guided.unwritten t).2) (h.connections t)
    exact .inl ⟨congrArg (OriginMap.get? · origin)
        (Shelf.holds_unique (h.approvals (t + 1)).kept ha.kept),
      congrArg (OriginMap.get? · origin)
        (Shelf.holds_unique (h.connections (t + 1)).kept hc.kept)⟩

/-! ### What each event makes of a row -/

theorem row_of_approved (happroved : (run.wallet t).isApproved origin = true) :
    ((a t).get? origin).isSome := by
  rcases hentries : (run.wallet t).core.approvals with _ | m
  · rw [Wallet.isApproved, Wallet.permission?, hentries] at happroved
    cases happroved
  · rw [← h.isApproved (by rw [hentries]; rfl)]
    exact happroved

/-- A row that was revoked is empty. -/
theorem row_revoked (hrevoked : run.Revokes t origin) :
    (a (t + 1)).get? origin = none ∧ (c (t + 1)).get? origin = none := by
  rcases hrevoked with ⟨hmove, houtcome⟩
  rw [outcome_call hmove] at houtcome
  rcases Wallet.perform_revoke_cases (run.guarded t) origin with
    ⟨e, hfails, _⟩ | ⟨cause, hfails⟩ | ⟨_, ⟨m, hm⟩, hconnected⟩
  · rw [hfails] at houtcome
    cases houtcome
  · rw [hfails] at houtcome
    cases houtcome
  · rw [← wallet_call hmove] at hm hconnected
    have hloaded := h.loaded (.inl (by rw [hm]; rfl))
    rw [h.isConnected hloaded.2] at hconnected
    refine ⟨?_, Option.isNone_iff_eq_none.1 (Option.isSome_eq_false_iff.1 hconnected)⟩
    rw [← ((h.approvals (t + 1)).loaded _ hm).2, OriginMap.get?_erase_self]

/-- An origin that was connected has a connection. -/
theorem row_connected (hconnects : run.Connects t n origin) :
    ((c (t + 1)).get? origin).isSome := by
  rcases hconnects with ⟨hmove, ⟨on, id, channel, hwaits, hasked⟩, connection, houtcome⟩
  rcases run.stage_cases t with ⟨call, hcall⟩ | ⟨m, on', hgoes⟩ | hidle
  · cases hcall.symm.trans hmove
  · rcases Move.goOn.inj (hgoes.move.symm.trans hmove)
    rcases Option.some.inj (hgoes.waits.symm.trans hwaits)
    rw [outcome_goOn hgoes] at houtcome
    rcases Wallet.resume_choice hasked (run.wallet t) with ⟨_, _, hnot⟩ | ⟨i, _, hi, _⟩
    · exact absurd (Progress.finished_of_outcome houtcome) (hnot _)
    · rw [← wallet_goOn hgoes, Wallet.connection?] at hi
      rcases Option.map_eq_some_iff.1 hi with ⟨j, hj, _⟩
      rcases Option.bind_eq_some_iff.1 hj with ⟨m, hm, hget⟩
      rw [← ((h.connections (t + 1)).loaded m hm).2, hget]
      rfl
  · cases hidle.outcome.symm.trans houtcome

/-! ### How long an entry stays -/

/-- An approval stays until the origin is revoked. -/
theorem approval_stays {k : Nat} (hkt : k ≤ t) (hk : ((a k).get? origin).isSome)
    (hnot : ∀ i, k ≤ i → i < t → ¬ run.Revokes i origin) : ((a t).get? origin).isSome := by
  induction hkt with
  | refl => exact hk
  | @step t hkt ih =>
      have hbefore := ih fun i hki hit => hnot i hki (Nat.lt_succ_of_lt hit)
      rcases h.row_cases t origin with ⟨ha, _⟩ | hrevoked | ⟨⟨_, happroved⟩, _⟩ | ⟨_, _, ha⟩
      · rw [ha]
        exact hbefore
      · exact absurd hrevoked (hnot t hkt (Nat.lt_succ_self t))
      · exact h.row_of_approved happroved
      · rw [ha]
        exact hbefore

/-- An origin that is not approved stays so until it is approved. -/
theorem unapproved_stays {k : Nat} (hkt : k ≤ t) (hk : (a k).get? origin = none)
    (hnot : ∀ i, k ≤ i → i < t → ¬ run.Approves i origin) : (a t).get? origin = none := by
  induction hkt with
  | refl => exact hk
  | @step t hkt ih =>
      have hbefore := ih fun i hki hit => hnot i hki (Nat.lt_succ_of_lt hit)
      rcases h.row_cases t origin with ⟨ha, _⟩ | hrevoked | ⟨happroves, _⟩ | ⟨_, _, ha⟩
      · exact ha.trans hbefore
      · exact (h.row_revoked hrevoked).1
      · exact absurd happroves (hnot t hkt (Nat.lt_succ_self t))
      · exact ha.trans hbefore

/-- A connection stays until the origin is revoked. -/
theorem connection_stays {k : Nat} (hkt : k ≤ t) (hk : ((c k).get? origin).isSome)
    (hnot : ∀ i, k ≤ i → i < t → ¬ run.Revokes i origin) : ((c t).get? origin).isSome := by
  induction hkt with
  | refl => exact hk
  | @step t hkt ih =>
      have hbefore := ih fun i hki hit => hnot i hki (Nat.lt_succ_of_lt hit)
      rcases h.row_cases t origin with ⟨_, hc⟩ | hrevoked | ⟨_, hc⟩ | ⟨n, hconnects, _⟩
      · rw [hc]
        exact hbefore
      · exact absurd hrevoked (hnot t hkt (Nat.lt_succ_self t))
      · rw [hc]
        exact hbefore
      · exact h.row_connected hconnects

/-- An origin that is connected was connected once and not revoked since. -/
theorem connected_since (ht : ((c t).get? origin).isSome) :
    ∃ n k, k < t ∧ run.Connects k n origin ∧ ∀ i, k < i → i < t → ¬ run.Revokes i origin := by
  -- The connection is looked for from the last stage on, going back while the row is the same.
  induction t with
  | zero =>
      have hempty := (h.connections 0).kept
      rw [run.config_eq 0, h.guided.blank.2] at hempty
      rw [show c 0 = .empty from hempty] at ht
      cases ht
  | succ t ih =>
      have hlater (hc : (c (t + 1)).get? origin = (c t).get? origin) :
          ∃ n k, k < t + 1 ∧ run.Connects k n origin ∧
            ∀ i, k < i → i < t + 1 → ¬ run.Revokes i origin := by
        rw [hc] at ht
        rcases ih ht with ⟨n, k, hkt, hconnects, hnot⟩
        refine ⟨n, k, Nat.lt_succ_of_lt hkt, hconnects, fun i hki hit hrevoked => ?_⟩
        rcases Nat.lt_or_eq_of_le (Nat.le_of_lt_succ hit) with hlt | rfl
        · exact hnot i hki hlt hrevoked
        · rw [← hc, (h.row_revoked hrevoked).2] at ht
          cases ht
      rcases h.row_cases t origin with ⟨_, hc⟩ | hrevoked | ⟨_, hc⟩ | ⟨n, hconnects, _⟩
      · exact hlater hc
      · rw [(h.row_revoked hrevoked).2] at ht
        cases ht
      · exact hlater hc
      · exact ⟨n, t, Nat.lt_succ_self t, hconnects, fun i hti hit =>
          absurd (Nat.lt_of_lt_of_le hti (Nat.le_of_lt_succ hit)) (Nat.lt_irrefl t)⟩

/-- Who begins to wait for a choice leaves the origin approved. -/
theorem choice_stage (hawaits : run.AwaitsChoice (t + 1) n origin) :
    run.AwaitsChoice t n origin ∨ ((a (t + 1)).get? origin).isSome := by
  rcases hawaits with ⟨next, id, channel, hwaits, hasked⟩
  rcases waits_stage hwaits with hbefore | ⟨call, hmove, _, hpart⟩ | ⟨on, hgoes, hpart⟩
  · exact .inl ⟨next, id, channel, hbefore, hasked⟩
  · have hperform : Wallet.perform call (run.wallet t) =
        (.ok (.waiting next), run.wallet (t + 1)) := Prod.ext hpart (wallet_call hmove).symm
    exact .inr (h.row_of_approved
      (Wallet.perform_vetted call _ _ _ _ _ _ hperform hasked))
  · have hresume : Wallet.resume on (run.wallet t) = (.ok (.waiting next), run.wallet (t + 1)) :=
      Prod.ext hpart (wallet_goOn hgoes).symm
    rcases Wallet.resume_vetted hresume hasked with hsame | happroved
    · exact .inl ⟨on, id, channel, hgoes.waits, hsame⟩
    · exact .inr (h.row_of_approved happroved)

/-- While a request waits for a choice the origin is approved, unless it was revoked meanwhile. -/
theorem approved_or_revoked (hawaits : run.AwaitsChoice t n origin) :
    ((a t).get? origin).isSome ∨ ∃ j < t, run.AwaitsChoice j n origin ∧ run.Revokes j origin ∧
      ∀ i, j < i → i < t → ¬ run.Approves i origin := by
  -- As long as the choice is awaited the approval is there, up to the first revocation.
  induction t with
  | zero =>
      rcases hawaits with ⟨_, _, _, hwaits, _⟩
      cases hwaits
  | succ t ih =>
      rcases h.choice_stage hawaits with hbefore | happroved
      · by_cases hafter : ((a (t + 1)).get? origin).isSome
        · exact .inl hafter
        refine .inr ?_
        rcases ih hbefore with happroved | ⟨j, hjt, hj, hrevoked, hnot⟩
        · -- The approval is gone after this stage, so it is this one that revoked the origin.
          by_cases hrevoked : run.Revokes t origin
          · exact ⟨t, Nat.lt_succ_self t, hbefore, hrevoked, fun i hti hit =>
              absurd (Nat.lt_of_lt_of_le hti (Nat.le_of_lt_succ hit)) (Nat.lt_irrefl t)⟩
          · refine absurd (h.approval_stays (Nat.le_succ t) happroved fun i hti hit => ?_) hafter
            rcases Nat.le_antisymm hti (Nat.le_of_lt_succ hit)
            exact hrevoked
        · refine ⟨j, Nat.lt_succ_of_lt hjt, hj, hrevoked, fun i hji hit happroves => ?_⟩
          rcases Nat.lt_or_eq_of_le (Nat.le_of_lt_succ hit) with hlt | rfl
          · exact hnot i hji hlt happroves
          · exact hafter (h.row_of_approved happroves.2)
      · exact .inl happroved

end Table

/-- An origin is connected without being approved just if the request that connected it had waited
for the choice of an identity while the origin was revoked, and nobody has approved or revoked it
since. -/
theorem unapproved_iff_revokedMeanwhile (h : run.Guided)
    (ha : (run.wallet t).core.approvals.isSome) (hc : (run.wallet t).core.connections.isSome)
    (origin : String) : ((run.wallet t).isConnected origin = true ∧
      (run.wallet t).isApproved origin = false) ↔ run.RevokedMeanwhile t origin := by
  rcases h.table with ⟨password, a, c, htable⟩
  rw [htable.isConnected hc, htable.isApproved ha]
  constructor
  · rintro ⟨hconnected, hunapproved⟩
    have hnone {k : Nat} (hkt : k ≤ t) (hnot : ∀ i, k ≤ i → i < t → ¬ run.Revokes i origin) :
        ((a k).get? origin).isSome = false :=
      Bool.eq_false_iff.2 fun hk =>
        Bool.eq_false_iff.1 hunapproved (htable.approval_stays hkt hk hnot)
    -- The stage that connected the origin found it without approval.
    rcases htable.connected_since hconnected with ⟨n, k, hkt, hconnects, hsince⟩
    have hfrom : ∀ i, k ≤ i → i < t → ¬ run.Revokes i origin := fun i hki hit hrevoked => by
      rcases Nat.lt_or_eq_of_le hki with hlt | rfl
      · exact hsince i hlt hit hrevoked
      · cases hrevoked.1.symm.trans hconnects.1
    rcases htable.approved_or_revoked hconnects.2.1 with happroved | ⟨j, hjk, hj, hrevoked, hnot⟩
    · exact absurd happroved (Bool.eq_false_iff.1 (hnone (Nat.le_of_lt hkt) hfrom))
    · refine ⟨n, j, k, hjk, hkt, hj, hrevoked, hconnects, fun i hji hit happroves => ?_, hsince⟩
      rcases Nat.lt_or_ge i k with hik | hki
      · exact hnot i hji hik happroves
      · refine absurd (htable.row_of_approved happroves.2) (Bool.eq_false_iff.1 (hnone hit ?_))
        exact fun m him hmt => hfrom m (Nat.le_trans hki (Nat.le_of_succ_le him)) hmt
  · rintro ⟨n, j, k, hjk, hkt, _, hrevoked, hconnects, hnotApproved, hnotRevoked⟩
    have hunapproved := htable.unapproved_stays (Nat.le_of_lt (Nat.lt_of_le_of_lt hjk hkt))
      (htable.row_revoked hrevoked).1 fun i => hnotApproved i
    refine ⟨htable.connection_stays hkt (htable.row_connected hconnects) fun i => hnotRevoked i, ?_⟩
    rw [hunapproved]
    rfl

/-- The user is asked to choose an identity for an origin, and revokes the origin before
choosing. -/
def revokedWhileChoosing : Run where
  move
    | 0 => .host (.insertIdentity
        { commitment := "111", name := "Account", serialized := "secret" })
    | 1 => .call (.setupPassword "password")
    | 2 => .call (.connect "https://a.test" false)
    | 3 => .call (.finalize { id := 0, status := .accept, data := none })
    | 4 => .goOn 2
    | 5 => .call (.revoke "https://a.test")
    | 6 => .call (.finalize
        { id := 1, status := .accept, data := some (.obj [("commitment", .str "111")]) })
    | 7 => .goOn 2
    | _ => .goOn 0

theorem revokedWhileChoosing_after (d : Nat) : revokedWhileChoosing.system (2 + d) =
    revokedWhileChoosing.after 2 (System.run 1 (Wallet.finish .flag (Wallet.adopt "password"))
      (revokedWhileChoosing.system 1)).2 d :=
  system_adopts_add rfl (by decide) (by decide +kernel) (by decide +kernel) (by decide +kernel) d

theorem revokedWhileChoosing_readable : ∀ d ≤ 6,
    ((revokedWhileChoosing.wallet (2 + d)).host.storage.slot
      revokedWhileChoosing.config.storageKeys.approvals).readable = true ∧
    ((revokedWhileChoosing.wallet (2 + d)).host.storage.slot
      revokedWhileChoosing.config.storageKeys.connections).readable = true := by
  simp only [wallet, revokedWhileChoosing_after]
  decide +kernel

/-- The slots have no quota when the origin is revoked. -/
theorem revokedWhileChoosing_unlimited :
    (revokedWhileChoosing.wallet 5).approvalShelf.slot.quota = none ∧
    (revokedWhileChoosing.wallet 5).connectionShelf.slot.quota = none := by
  rw [wallet, show revokedWhileChoosing.system 5 = _ from revokedWhileChoosing_after 3]
  decide +kernel

/-- Nothing but a connect request and a revocation edits the registries, and there is room for
all. -/
theorem revokedWhileChoosing_guided : revokedWhileChoosing.Guided where
  -- Eight calls are made, and after them nothing is; each rule is looked up for them.
  keys := ⟨by decide, by decide, by decide⟩
  blank := ⟨rfl, rfl⟩
  gated t call hmove := by
    rcases t with _ | _ | _ | _ | _ | _ | _ | _ | t
    all_goals
      cases hmove
      try exact id
  unwritten t := by
    have hnone (name : String) : ¬ revokedWhileChoosing.WrittenAt t name := by
      rintro ⟨action, hmove, hwrites⟩
      rcases t with _ | _ | _ | _ | _ | _ | _ | _ | t
      all_goals
        cases hmove
        try exact hwrites
    exact ⟨hnone _, hnone _⟩
  readable := by
    refine always_of_rests (s := 2) (t := 6) (n := 0) (P := fun w =>
      (w.host.storage.slot revokedWhileChoosing.config.storageKeys.approvals).readable = true ∧
      (w.host.storage.slot revokedWhileChoosing.config.storageKeys.connections).readable = true)
      (fun t ht => ?_) revokedWhileChoosing_readable (fun d => ?_) ?_
    · rcases t with _ | _ | t
      · exact ⟨rfl, rfl⟩
      · exact ⟨rfl, rfl⟩
      · omega
    · rw [Nat.add_comm]
      rfl
    · rw [revokedWhileChoosing_after 6]
      exact Option.isNone_iff_eq_none.1 (by decide +kernel)
  roomy t origin hmove := by
    have ht : t = 5 := by
      rcases t with _ | _ | _ | _ | _ | _ | _ | _ | t
      all_goals
        cases hmove
        try rfl
    rw [ht]
    exact Wallet.hasRoomWithout_of_quota revokedWhileChoosing_unlimited.1
      revokedWhileChoosing_unlimited.2 origin
  password := by
    refine ⟨"password", fun t q hq => ?_⟩
    have hmove := hq.imp SetsUp.move Unlocks.move
    rcases t with _ | _ | _ | _ | _ | _ | _ | _ | t
    all_goals
      rcases hmove with (h | h) | h | h
      all_goals cases h
      all_goals rfl

theorem revokedWhileChoosing_connected :
    (revokedWhileChoosing.wallet 8).isConnected "https://a.test" = true ∧
    (revokedWhileChoosing.wallet 8).isApproved "https://a.test" = false ∧
    (revokedWhileChoosing.wallet 8).core.approvals.isSome ∧
    (revokedWhileChoosing.wallet 8).core.connections.isSome := by
  rw [wallet, revokedWhileChoosing_after 6]
  decide +kernel

/-- The origin is connected by the request that had waited through the revocation. -/
theorem unapproved_iff_revokedMeanwhile_revokedWhileChoosing :
    revokedWhileChoosing.RevokedMeanwhile 8 "https://a.test" := by
  rcases revokedWhileChoosing_connected with ⟨hconnected, hunapproved, ha, hc⟩
  exact (unapproved_iff_revokedMeanwhile revokedWhileChoosing_guided ha hc "https://a.test").1
    ⟨hconnected, hunapproved⟩

/-- So not every origin that is connected is approved. -/
theorem revokedWhileChoosing_unapproved : ¬ ∀ run : Run, run.Guided → ∀ t,
    (run.wallet t).core.approvals.isSome → (run.wallet t).core.connections.isSome → ∀ origin,
    (run.wallet t).isConnected origin = true → (run.wallet t).isApproved origin = true := by
  intro h
  rcases revokedWhileChoosing_connected with ⟨hconnected, hunapproved, ha, hc⟩
  have happroved := h _ revokedWhileChoosing_guided 8 ha hc _ hconnected
  rw [hunapproved] at happroved
  cases happroved

end Run

end WalletTrust

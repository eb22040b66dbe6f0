import WalletTrust.Proofs.Routine
import WalletTrust.Wallet.Backups
import WalletTrust.Wallet.HostAction

/-!
# Registries, Session and Backups

Every operation that waits for nobody, read off how it is put together.

All of them are routine; they differ in the origins that they spare. Locking the session, clearing
the connections and restoring a backup spare none. Disconnecting spares whoever is named neither as
an origin nor as a commitment, and connecting an origin spares the others. What comes from outside
spares all: the host cannot reach the secret or the connections, which are in memory.

Each proof goes through its operation in the order in which the operation is written, and has one
step for each part. What a part has to respect is the same for all of them; only the connections
that are spared differ, and they are weakened where an operation is used by another that spares
fewer. Disconnecting is the one operation that has to look at the wallet first, since only the
wallet tells which origin is meant.

The queue of the broker is no exception: closing a window rejects whoever is in the queue, and that
is ordinary, whether the user closed the window or the wallet had it closed.

## Theorems

* `Wallet.connectIdentity_routine`, `Wallet.disconnect_routine`, `Wallet.clearConnections_routine`,
  `Wallet.revoke_routine`: The operations that end a connection.
* `Wallet.logout_routine`: Locking the session.
* `Wallet.uploadBackup_routine`: Restoring a backup.
* `Wallet.undergo_routine`: What comes from outside.
* `Wallet.loadApprovals_routine`, `Wallet.loadConnections_routine`, `Wallet.unlock_routine`: Loading
  entitles whoever was connected before, and takes nothing from anyone.
* `Desk.closeWindow_ordinary`, `Desk.submit_ordinary`: The operations of the desk do to the queue
  what is ordinary.
-/

namespace WalletTrust

namespace Desk

/-- A question that is put joins the others, and nobody is answered. -/
theorem submit_ordinary (kind : RequestKind) (payload : Json) (d : Desk) :
    d.queue.Ordinary (submit kind payload d).2.queue := by
  rcases submit_cases d kind payload with
    ⟨_, _, _, _, hdoes, _, _, _⟩ | ⟨_, halone, _, hdoes⟩
  · rw [hdoes.queue]
    exact (RequestQueue.Ordinary.enqueue d.queue kind payload).trans (.of_same rfl rfl rfl rfl)
  · -- The question was alone, so nobody else is dropped with it.
    rw [hdoes.queue]
    exact .refused halone kind payload _

/-- Those whose window is closed are rejected. -/
theorem ClosesAtMost.ordinary {window : Nat} {d t : Desk} (h : ClosesAtMost window d t) :
    d.queue.Ordinary t.queue := by
  rcases h.2 with hsame | ⟨_, hrejected⟩
  · rw [hsame]
    exact .refl _
  · rw [hrejected]
    exact .rejectAll _

/-- And so if it is the wallet that has it closed. -/
theorem closeWindow_ordinary (id : Option Nat) (d : Desk) :
    d.queue.Ordinary (closeWindow id d).2.queue := by
  rcases closeWindow_queue id d with ⟨_, h⟩
  exact h.ordinary

end Desk

namespace Wallet

open Op (Within)

variable {α : Type} {spared : String → String → Prop}

/-! ## Approvals -/

/-- Loading the approvals reads one slot. No connection is touched. -/
theorem loadApprovals_routine : Within (Routine spared) loadApprovals := by
  unfold loadApprovals
  refine .bind (.gets _) fun _ => ?_
  exact onApprovals_routine _

/-- An origin that is approved keeps the identity it had, if it had one. -/
theorem approve_routine (entry : ApprovalEntry) : Within (Routine spared) (approve entry) := by
  unfold approve
  refine .ite (fun _ => ?_) fun _ => ?_
  · exact .fail _
  · refine .bind (.gets _) fun _ => ?_
    refine .bind (onApprovals_routine _) fun _ => ?_
    exact .pure _

theorem setPermission_routine (origin : String) (flag : Bool) :
    Within (Routine spared) (setPermission origin flag) := by
  unfold setPermission
  refine .ite (fun _ => ?_) fun _ => ?_
  · exact .fail _
  · refine .bind loadApprovals_routine fun _ => ?_
    refine .bind .get fun _ => ?_
    refine .ite (fun _ => ?_) fun _ => ?_
    · refine .bind (.gets _) fun _ => ?_
      refine .bind (onApprovals_routine _) fun _ => ?_
      exact .pure _
    · exact .fail _

/-- Without its approval an origin is connected still. Disconnecting it is a step of its own. -/
theorem unapprove_routine (origin : String) : Within (Routine spared) (unapprove origin) := by
  unfold unapprove
  refine .bind (.gets _) fun _ => ?_
  refine .bind (onApprovals_routine _) fun _ => ?_
  exact .pure _

theorem clearApprovals_routine : Within (Routine spared) clearApprovals := by
  unfold clearApprovals
  refine .bind (.gets _) fun _ => ?_
  exact onApprovals_routine _

/-! ## Connections -/

/-- What is loaded is what the slot holds, and if the connections are there already nothing is
loaded. -/
theorem loadConnections_routine : Within (Routine spared) loadConnections :=
  onConnections_routine fun _ => Shelf.load_spares _

theorem loadRegistries_routine : Within (Routine spared) loadRegistries := by
  unfold loadRegistries
  refine .bind loadApprovals_routine fun _ => ?_
  exact loadConnections_routine

/-- An identity that is looked up is not used by that. -/
theorem identity_routine (commitment : String) : Within (Routine spared) (identity commitment) := by
  unfold identity
  refine .bind .get fun _ => ?_
  exact .ofExcept _

theorem selectedIdentity_routine : Within (Routine spared) selectedIdentity := by
  unfold selectedIdentity
  refine .bind .get fun _ => ?_
  exact .ofExcept _

theorem connectedIdentity_routine (origin : String) :
    Within (Routine spared) (connectedIdentity origin) := by
  unfold connectedIdentity
  refine .bind .get fun w => ?_
  cases w.connection? origin with
  | none => exact .pure _
  | some connection => exact identity_routine _

/-- To tell a page anything is not to spare it. -/
theorem notify_routine (origin : String) (event : PageEvent)
    (h : ∀ commitment, event ≠ .revealCommitment commitment)
    (hspared : ¬ ∀ o c, spared o c) : Within (Routine spared) (notify origin event) := by
  intro w
  exact {
    toKeeps := .of_core rfl
    uses := Desktop.pushEvent_uses h origin w.host.desktop
    told := fun hall => absurd hall hspared
    queue := .refl _ }

/-- Connecting an origin may replace its own identity and spares all others. -/
theorem connectIdentity_routine (commitment origin : String) :
    Within (Routine fun o _ => o ≠ origin) (connectIdentity commitment origin) := by
  unfold connectIdentity
  refine .ite (fun _ => ?_) fun _ => ?_
  · exact .fail _
  · refine .bind (identity_routine commitment) fun found => ?_
    refine .bind (.ofOption _ _) fun identity => ?_
    refine onConnections_bind (fun _ => Shelf.upsert_spares _ _ _) fun _ => ?_
    have hnotice : Within (Routine fun o _ => o ≠ origin)
        (notify origin (.connect identity.name)) :=
      notify_routine origin _ (fun _ => PageEvent.noConfusion) fun hall => hall origin "" rfl
    refine .bind hnotice fun _ => ?_
    exact .pure _

/-- An origin that is meant by a target is the target itself or is connected to its identity. -/
theorem disconnectTarget?_cases {w : Wallet} {target origin : String}
    (h : w.disconnectTarget? target = some origin) :
    origin = target ∨ (w.connection? origin).map (·.commitment) = some target := by
  rw [disconnectTarget?] at h
  -- A target that is no origin is searched for among the commitments.
  split at h
  · exact .inl (Option.some.inj h).symm
  · rw [commitment_eq]
    rcases hm : w.core.connections with _ | m
    · rw [hm] at h
      cases h
    · rw [hm] at h
      rcases Option.map_eq_some_iff.1 h with ⟨e, hfind, rfl⟩
      rw [Option.bind_some] at hfind
      have hmem : e ∈ m.entries := List.mem_of_find?_eq_some hfind
      have hcommitment : e.2.commitment = target := by
        simpa only [decide_eq_true_eq] using List.find?_some hfind
      rw [Option.bind_some, m.get?_of_mem hmem, Option.map_some, hcommitment]
      exact .inr rfl

/-- Disconnecting spares whoever is named neither as an origin nor as a commitment. -/
theorem disconnect_routine (target : String) :
    Within (Routine fun o c => o ≠ target ∧ c ≠ target) (disconnect target) := by
  unfold disconnect
  refine .ite (fun _ => ?_) fun _ => ?_
  · exact .fail _
  · refine .bind loadConnections_routine fun _ => ?_
    refine .get_bind fun w => ?_
    rcases hmeant : w.disconnectTarget? target with _ | origin
    · exact Std.Refl.refl w
    · have hremove : Within (Routine fun o _ => o ≠ origin) (do
          let removed ← onConnections (Shelf.remove connectionsLabel (← secret) origin)
          let removed ← Op.ofOption .notConnected removed
          notify origin .disconnect
          return Connection.of origin removed : Op Wallet Connection) := by
        refine onConnections_bind (fun _ => Shelf.remove_spares _ _) fun _ => ?_
        refine .bind (.ofOption _ _) fun _ => ?_
        have hnotice : Within (Routine fun o _ => o ≠ origin) (notify origin .disconnect) :=
          notify_routine origin _ (fun _ => PageEvent.noConfusion) fun hall => hall origin "" rfl
        refine .bind hnotice fun _ => ?_
        exact .pure _
      -- The origin that is removed goes by the target, or its identity does.
      refine (hremove w).weaken (fun o c hs he => ?_) fun hall => absurd rfl (hall target "").1
      rintro rfl
      rcases disconnectTarget?_cases hmeant with hsame | hconnected
      · exact hs.1 hsame
      · exact hs.2 (Option.some.inj (he.2.symm.trans hconnected))

/-- By induction on the origins. Each may be told, so none is spared. -/
theorem notifyDisconnected_routine (origins : List String) :
    Within (Routine fun _ _ => False) (notifyDisconnected origins) := by
  induction origins with
  | nil => exact .pure _
  | cons origin rest ih =>
      have hnotice : Within (Routine fun _ _ => False) (notify origin .disconnect) :=
        notify_routine origin _ (fun _ => PageEvent.noConfusion) fun hall => hall origin ""
      refine .bind hnotice fun _ => ?_
      exact ih

/-- Nobody is spared. -/
theorem clearConnections_routine : Within (Routine fun _ _ => False) clearConnections := by
  unfold clearConnections
  refine .bind loadConnections_routine fun _ => ?_
  refine .bind .get fun w => ?_
  -- The pages are told first, whatever becomes of the rest.
  refine .bind (notifyDisconnected_routine _) fun _ => ?_
  exact onConnections_routine fun _ => Shelf.clear_spares

/-- The approval is taken from the origin that is named. Disconnecting takes it for an origin or for
a commitment, so that whoever goes by that name is not spared. -/
theorem revoke_routine (origin : String) :
    Within (Routine fun o c => o ≠ origin ∧ c ≠ origin) (revoke origin) := by
  unfold revoke
  refine .ite (fun _ => ?_) fun _ => ?_
  · exact .fail _
  · refine .bind (unapprove_routine origin) fun _ => ?_
    refine .bind .get fun w => ?_
    refine .ite (fun _ => ?_) fun _ => ?_
    · refine .bind (disconnect_routine origin) fun _ => ?_
      exact .pure _
    · exact .pure _

/-! ## The session -/

/-- A new password unlocks the session and loads what there is to load. -/
theorem setupPassword_routine (password : String) :
    Within (Routine spared) (setupPassword password) := by
  unfold setupPassword
  refine .bind (onLock_routine (SessionLock.setupPassword_firm password)) fun _ => ?_
  refine .bind loadRegistries_routine fun _ => ?_
  exact .pure _

/-- Unlocking entitles whoever was connected when the session was locked, and takes nothing from
anyone. -/
theorem unlock_routine (password : String) : Within (Routine spared) (unlock password) := by
  unfold unlock
  refine .bind (onLock_routine (SessionLock.unlock_firm password)) fun _ => ?_
  refine .bind loadRegistries_routine fun _ => ?_
  exact .pure _

/-- Observers are no pages. -/
theorem tellObservers_routine (names : List String) :
    Within (Routine spared) (tellObservers names) := by
  induction names with
  | nil => exact .pure _
  | cons name rest ih =>
      refine .bind (onDesktop_routine (Desktop.record_silent rfl rfl)) fun _ => ?_
      exact ih

/-- Locking drops the connections together with the secret, so what is left is guarded. -/
theorem logout_routine : Within (Routine fun _ _ => False) logout := by
  intro w
  -- Secret and connections go together; in between nothing else happens.
  have hlocked : Routine (fun _ _ => False) w
      ((do onLock SessionLock.drop; forgetRegistries : Op Wallet Unit) w).2 := {
    uses := rfl
    told := fun hall => (hall "" "").elim
    guarded := fun _ h => absurd h Bool.false_ne_true
    entitled := fun _ _ h => h.elim
    queue := .refl _ }
  have htold : Within (Routine fun _ _ => False) (do
      tellObservers (← Op.get).core.observers
      onLock SessionLock.announce
      return true : Op Wallet Bool) := by
    refine .bind .get fun w => ?_
    refine .bind (tellObservers_routine _) fun _ => ?_
    refine .bind (onLock_routine SessionLock.announce_firm) fun _ => ?_
    exact .pure _
  exact Trans.trans hlocked (htold _)

/-! ## Backups -/

/-- A backup is made of what is there. -/
theorem downloadComponent_routine (c : BackupComponent) (password : String) :
    Within (Routine spared) (downloadComponent c password) := by
  cases c with
  | approvals =>
      refine .bind (.gets _) fun _ => ?_
      exact onApprovals_routine _
  | connections => exact onConnections_routine fun _ => Shelf.downloadBackup_spares _ _
  | foreign key data refuses =>
      refine .bind (onDesktop_routine (Desktop.record_silent rfl rfl)) fun _ => ?_
      refine .ite (fun _ => ?_) fun _ => ?_
      · exact .fail _
      · exact .pure _

/-- Restoring the connections puts the identities of the backup over those there are. -/
theorem uploadComponent_routine (c : BackupComponent) (blob password : String) :
    Within (Routine fun _ _ => c ≠ .connections) (uploadComponent c blob password) := by
  cases c with
  | approvals =>
      refine .bind (.gets _) fun _ => ?_
      exact onApprovals_routine _
  | connections =>
      have h : Within (Routine fun _ _ => False) (secret >>= fun key =>
          onConnections (Shelf.uploadBackup connectionsLabel key blob password)) :=
        onConnections_routine fun _ => Shelf.uploadBackup_spares _ _ _
      exact Routine.within h fun _ _ hne => hne rfl
  | foreign key data refuses =>
      refine .bind (onDesktop_routine (Desktop.record_silent rfl rfl)) fun _ => ?_
      refine .ite (fun _ => ?_) fun _ => ?_
      · exact .fail _
      · exact .pure _

theorem registerComponent_routine (c : BackupComponent) :
    Within (Routine spared) (Op.modify (registerComponent c)) :=
  .modify fun _ => .of_same rfl rfl rfl rfl

theorem removeComponent_routine (key : String) : Within (Routine spared) (removeComponent key) :=
  fun _ => .of_same rfl rfl rfl rfl

/-- By induction on the components. -/
theorem collect_routine (password : String) (components : List BackupComponent)
    (file : BackupFile) : Within (Routine spared) (collect password components file) := by
  induction components generalizing file with
  | nil => exact .pure _
  | cons c rest ih =>
      refine .bind (downloadComponent_routine c password) fun _ => ?_
      exact ih _

theorem downloadBackup_routine (password : String) :
    Within (Routine spared) (downloadBackup password) := by
  unfold downloadBackup
  refine .bind (onLock_routine (SessionLock.isAuthentic_firm password)) fun _ => ?_
  refine .bind .get fun _ => ?_
  refine .bind (collect_routine _ _ _) fun _ => ?_
  exact .pure _

/-- By induction on the components. A backup may connect an origin to another identity, so that
nobody is spared. -/
theorem restore_routine (file : BackupFile) (password : String)
    (components : List BackupComponent) :
    Within (Routine fun _ _ => False) (restore file password components) := by
  induction components with
  | nil => exact .pure _
  | cons c rest ih =>
      -- What is restored first may be overwritten, so nobody is spared throughout.
      have hone : ∀ data, Within (Routine fun _ _ => False) (uploadComponent c data password) :=
        fun data => Routine.within (uploadComponent_routine c data password) fun _ _ h => h.elim
      rw [restore]
      cases Assoc.lookup c.key file with
      | none => exact ih
      | some data =>
          cases data with
          | none => exact ih
          | some data =>
              refine .bind (hone data) fun _ => ?_
              exact ih

theorem uploadBackup_routine (upload : UploadBackup) :
    Within (Routine fun _ _ => False) (uploadBackup upload) := by
  unfold uploadBackup
  refine .bind (onLock_routine (SessionLock.isAuthentic_firm _)) fun _ => ?_
  refine .bind (.ofExcept _) ?_
  intro json
  refine .bind (.ofOption _ _) fun file => ?_
  refine .bind .get fun w => ?_
  refine .ite (fun _ => ?_) fun _ => ?_
  · exact restore_routine _ _ _
  · exact .fail _

/-! ## What comes from outside -/

/-- What happens to the host is no affair of the connections, as long as it leaves the record
alone. -/
theorem onHost_routine {f : Host → Host} (h : ∀ host, (f host).desktop.log = host.desktop.log) :
    Within (Routine spared) (onHost f) :=
  .modify fun w => .of_same
    (congrArg (fun log => (log.filterMap HostEvent.use?, log.filterMap HostEvent.told?)) (h w.host))
    rfl rfl rfl

/-- Other programs may write into a slot. What was loaded from it stays loaded. -/
theorem onSlot_routine (name : String) (x : Op Slot α) : Within (Routine spared) (onSlot name x) :=
  .zoom_any fun _ _ => .of_same rfl rfl rfl rfl

/-- What is out of order is not recorded. -/
theorem setFault_log (part : HostPart) (broken : Bool) (host : Host) :
    (host.setFault part broken).desktop.log = host.desktop.log := by
  cases part with
  | windows => rfl
  | reach => rfl
  | closing => rfl
  | pages => rfl
  | broadcasts => rfl
  | identities => rfl

theorem useProver_log (prover : Prover) (host : Host) :
    (host.useProver prover).desktop.log = host.desktop.log := by
  rw [Host.useProver]
  split
  · rfl
  · rfl

theorem useSandbox_log (sandbox : Sandbox) (host : Host) :
    (host.useSandbox sandbox).desktop.log = host.desktop.log := by
  rw [Host.useSandbox]
  split
  · rfl
  · rfl

/-- The host may do what it likes: it uses no identity and tells no page anything. -/
theorem undergo_routine (action : HostAction) : Within (Routine spared) (undergo action) := by
  -- No part of the host reaches the session or the connections.
  cases action with
  | setFault part broken => exact onHost_routine (setFault_log part broken)
  | setReadable slot readable => exact onSlot_routine _ _
  | setClearable slot clearable => exact onSlot_routine _ _
  | setQuota slot bytes => exact onSlot_routine _ _
  | write slot value => exact onSlot_routine _ _
  | writeSealed slot plain secret purpose =>
      refine .bind (fun w => ?_) fun _ => ?_
      · exact .of_same rfl rfl rfl rfl
      · exact onSlot_routine _ _
  | erase slot => exact onSlot_routine _ _
  | holdWindow => exact onDesktop_routine (.modify fun _ => rfl)
  | releaseWindow => exact onDesktop_routine (.modify fun _ => rfl)
  | closeWindow id =>
      exact onDesk_routine (Desk.windowClosed_silent id) fun d =>
        (Desk.windowClosed_queue id d).ordinary
  | reportClosed id =>
      exact onDesk_routine (Desk.surfaceClosed_silent id) fun d =>
        (Desk.surfaceClosed_queue id d).ordinary
  | useProver prover => exact onHost_routine (useProver_log prover)
  | useSandbox sandbox => exact onHost_routine (useSandbox_log sandbox)
  | insertIdentity identity => exact onHost_routine fun _ => rfl
  | selectIdentity commitment => exact onHost_routine fun _ => rfl
  | addObserver name => exact .modify fun _ => .of_same rfl rfl rfl rfl
  | dropObserver name => exact .modify fun _ => .of_same rfl rfl rfl rfl

end Wallet

end WalletTrust

import WalletTrust.Proofs.Cover

/-!
# Blind Operations

The operations that finish at once do not notice what is covered, and neither do those that wait for
the user.

An operation is blind to a cover if under it the operation answers what it answers without, and
leaves behind what it leaves behind without, only covered. Blindness passes from parts to the whole,
so what has to be checked are the small operations that touch the desktop. None of them reads the
record, and what they write into it is public. Operations on slots do not even touch what is
covered, whatever they do.

Looking up an identity is not blind: its answer has the secret. Under a cover it answers with the
covered identity. An operation that makes use of nothing but the commitment and the name of what it
looked up is blind again. Connecting an identity is such an operation.

Every operation has its line here. The proofs are read off the operations, with one step for each
part, so they change with the operation and with nothing else. The cover is a variable throughout:
what is proved is used for the veil and for the platforms, and would hold of any other cover.

## Main definitions

* `Op.Blind`: An operation that goes on under a cover as without it.
* `Op.Covers`: One whose answer is covered as well.

## Theorems

* `Op.Blind.bind`, `Op.Covers.bind`: Operations that are put together.
* `Desk.finalize_blind`, `Wallet.connectIdentity_blind`, `Wallet.uploadBackup_blind`: Operations of
  the queue, the registries and the backups.
* `Wallet.connect_blind`, `Wallet.resume_blind`: Connect requests, and going on after a wait.
* `Wallet.undergo_cover`: What comes from outside.
* `Op.Blind.zoom`, `Op.Blind.zoom_bare`: An operation on a part, covered or not.
* `Op.Covers.blind`: An operation whose answer has nothing to hide.
* `Desktop.record_blind`: A public event is recorded as it is.
* `Wallet.identity_covers`, `Wallet.selectedIdentity_covers`: The answer to a lookup is covered.
* `Wallet.fulfil_blind`: An errand is fulfilled blindly, unless a proof is to be computed for it.
-/

namespace WalletTrust

namespace Op

variable {σ τ α β : Type} {veil : σ → σ}

/-- Behind a veil the operation does what it does before it. -/
def Blind (veil : σ → σ) (x : Op σ α) : Prop :=
  ∀ s, x (veil s) = ((x s).1, veil (x s).2)

/-- Behind the veil `y` does what `x` does before it, and answers with what `hide` leaves of the
answer. -/
def Covers (veil : σ → σ) (hide : α → α) (x y : Op σ α) : Prop :=
  ∀ s, y (veil s) = ((x s).1.map hide, veil (x s).2)

namespace Blind

theorem pure (a : α) : Blind veil (Pure.pure a : Op σ α) := fun _ => rfl

theorem fail (e : Error) : Blind veil (Op.fail e : Op σ α) := fun _ => rfl

theorem ofExcept (r : Except Error α) : Blind veil (Op.ofExcept r : Op σ α) := fun _ => rfl

/-- What is there is covered, and what is not there cannot be. -/
theorem ofOption (e : Error) (o : Option α) : Blind veil (Op.ofOption e o : Op σ α) := by
  cases o with
  | none => exact fail e
  | some a => exact pure a

theorem gets {f : σ → α} (h : ∀ s, f (veil s) = f s) : Blind veil (Op.gets f) := by
  intro s
  rw [Op.gets, Op.gets, h]

/-- A change that comes to the same under the veil. -/
theorem modify {f : σ → σ} (h : ∀ s, f (veil s) = veil (f s)) : Blind veil (Op.modify f) := by
  intro s
  rw [Op.modify, Op.modify, h]

/-- Whoever catches a failure catches the same one under the veil. -/
theorem attempt {x : Op σ α} (hx : Blind veil x) : Blind veil x.attempt := by
  intro s
  simp only [Op.attempt, hx s]

theorem mapError {f : Error → Error} {x : Op σ α} (hx : Blind veil x) :
    Blind veil (x.mapError f) := by
  intro s
  rw [Op.mapError, Op.mapError, hx s]
  rcases x s with ⟨e | a, t⟩
  · rfl
  · rfl

theorem ignore {x : Op σ α} (hx : Blind veil x) : Blind veil x.ignore := by
  intro s
  simp only [Op.ignore, hx s]

/-- A choice that is made before the veil comes into it, between operations that are both blind. -/
theorem ite {c : Prop} [Decidable c] {x y : Op σ α} (hx : Blind veil x) (hy : Blind veil y) :
    Blind veil (if c then x else y) := by
  split
  · exact hx
  · exact hy

/-- One blind operation after another. The second gets an answer from which nothing had to be
taken. -/
theorem bind {x : Op σ α} {f : α → Op σ β} (hx : Blind veil x) (hf : ∀ a, Blind veil (f a)) :
    Blind veil (x >>= f) := by
  intro s
  rcases hrun : x s with ⟨e | a, t⟩
  · have hveiled := hx s
    rw [hrun] at hveiled
    rw [bind_error hveiled, bind_error hrun]
  · have hveiled := hx s
    rw [hrun] at hveiled
    rw [bind_ok hveiled, bind_ok hrun]
    exact hf a t

/-- An operation that looks at the state first, but not behind the veil. -/
theorem get_bind {f : σ → Op σ β} (hsame : ∀ s, f (veil s) = f s) (hf : ∀ s, Blind veil (f s)) :
    Blind veil (Op.get >>= f) := by
  intro s
  rw [bind_ok (x := Op.get) rfl, bind_ok (x := Op.get) rfl, hsame]
  exact hf s s

/-- An operation on a part that has a veil of its own. -/
theorem zoom {inner : τ → τ} {part : σ → τ} {restore : τ → σ → σ} {x : Op τ α}
    (hx : Blind inner x) (hpart : ∀ s, part (veil s) = inner (part s))
    (hrestore : ∀ t s, restore (inner t) (veil s) = veil (restore t s)) :
    Blind veil (x.zoom part restore) := by
  intro s
  simp only [Op.zoom, hpart, hx (part s), hrestore]

/-- An operation on a part that the veil does not cover. -/
theorem zoom_bare {part : σ → τ} {restore : τ → σ → σ} (x : Op τ α)
    (hpart : ∀ s, part (veil s) = part s)
    (hrestore : ∀ t s, restore t (veil s) = veil (restore t s)) :
    Blind veil (x.zoom part restore) := by
  intro s
  simp only [Op.zoom, hpart, hrestore]

end Blind

namespace Covers

variable {hide : α → α} {hide' : β → β}

/-- What is answered under the veil, if anything is. -/
theorem apply_ok {x y : Op σ α} {s t : σ} {a : α} (hx : Covers veil hide x y)
    (h : x s = (.ok a, t)) : y (veil s) = (.ok (hide a), veil t) := by
  rw [hx s, h]
  rfl

/-- A failure has nothing to hide. -/
theorem apply_error {x y : Op σ α} {s t : σ} {e : Error} (hx : Covers veil hide x y)
    (h : x s = (.error e, t)) : y (veil s) = (.error e, veil t) := by
  rw [hx s, h]
  rfl

/-- Who has nothing to hide from its answer is blind. -/
theorem of_blind {x : Op σ α} (hx : Blind veil x) : Covers veil id x x := by
  intro s
  rw [hx s]
  rcases (x s).1 with e | a
  · rfl
  · rfl

theorem pure (a : α) : Covers veil hide (Pure.pure a) (Pure.pure (hide a)) := fun _ => rfl

theorem fail (e : Error) : Covers veil hide (Op.fail e) (Op.fail e) := fun _ => rfl

theorem ofOption (e : Error) (o : Option α) :
    Covers veil hide (Op.ofOption e o) (Op.ofOption e (o.map hide)) := by
  cases o with
  | none => exact fail e
  | some a => exact pure a

theorem ite {c : Prop} [Decidable c] {x y u v : Op σ α} (hx : Covers veil hide x u)
    (hy : Covers veil hide y v) : Covers veil hide (if c then x else y) (if c then u else v) := by
  split
  · exact hx
  · exact hy

/-- Whoever looks at the state may see the veil, if what it does then is covered too. -/
theorem get_bind {f g : σ → Op σ β} (h : ∀ s, Covers veil hide' (f s) (g (veil s))) :
    Covers veil hide' (Op.get >>= f) (Op.get >>= g) :=
  fun s => h s s

/-- One after the other, if the second makes of a covered answer what is covered of the plain one.
-/
theorem bind {x y : Op σ α} {f g : α → Op σ β} (hx : Covers veil hide x y)
    (h : ∀ a, Covers veil hide' (f a) (g (hide a))) : Covers veil hide' (x >>= f) (y >>= g) := by
  intro s
  rcases hrun : x s with ⟨e | a, t⟩
  · rw [bind_error (hx.apply_error hrun), bind_error hrun]
    rfl
  · rw [bind_ok (hx.apply_ok hrun), bind_ok hrun]
    exact h a t

/-- An operation whose answer has nothing to hide. -/
theorem blind {x : Op σ α} (hx : Covers veil hide x x) (h : ∀ a, hide a = a) : Blind veil x := by
  intro s
  rw [hx s, show hide = id from funext h]
  rcases (x s).1 with e | a
  · rfl
  · rfl

/-- Whoever does not look at what is hidden goes on as before. -/
theorem bind_blind {x : Op σ α} {f : α → Op σ β} (hx : Covers veil hide x x)
    (hsame : ∀ a, f (hide a) = f a) (hf : ∀ a, Blind veil (f a)) : Blind veil (x >>= f) := by
  intro s
  rcases hrun : x s with ⟨e | a, t⟩
  · rw [bind_error (hx.apply_error hrun), bind_error hrun]
  · rw [bind_ok (hx.apply_ok hrun), bind_ok hrun, hsame]
    exact hf a t

end Covers

end Op

open Op (Blind Covers)

variable {cover : Cover}

/-! ## Windows and pages -/

namespace Desktop

/-- A public event is recorded as it is. -/
theorem record_blind {e : HostEvent} (h : e.isPublic = true) :
    Blind cover.desktop (Op.modify (record e)) :=
  .modify (Cover.desktop_record h)

/-- Windows are held back or not, and that is not covered. -/
theorem requestWindow_blind : Blind cover.desktop requestWindow := by
  intro d
  have hholds : (cover.desktop d).holdsNext = d.holdsNext := rfl
  rw [requestWindow, requestWindow, Cover.desktop_record (e := .windowRequested) rfl, hholds]
  split
  · rfl
  · rfl

/-- A window gets the next number, covered or not. -/
theorem openWindow_blind : Blind cover.desktop openWindow := by
  intro d
  have hrefuses : (cover.desktop d).refusesWindows = d.refusesWindows := rfl
  have hunreachable : (cover.desktop d).unreachable = d.unreachable := rfl
  rw [openWindow, openWindow, hrefuses, hunreachable]
  split
  · rfl
  · split
    · rfl
    · exact Prod.ext rfl (Cover.desktop_record rfl { d with nextWindow := d.nextWindow + 1 })

/-- Whether a window can be closed is up to the host. -/
theorem requestClose_blind (id : Option Nat) : Blind cover.desktop (requestClose id) := by
  intro d
  have hfails : (cover.desktop d).closingFails = d.closingFails := rfl
  rw [requestClose, requestClose, Cover.desktop_record (e := .closeRequested id) rfl, hfails]
  split
  · rfl
  · rfl

/-- A listener gets the next number as well. -/
theorem addListener_blind : Blind cover.desktop addListener := by
  intro d
  exact Prod.ext rfl (Cover.desktop_record rfl { d with
    nextListener := d.nextListener + 1
    listeners := d.listeners ++ [{ id := d.nextListener }] })

theorem removeListener_blind (id : Nat) : Blind cover.desktop (removeListener id) := by
  intro d
  exact Prod.ext rfl <|
    Cover.desktop_record rfl { d with listeners := d.listeners.filter fun l => l.id ≠ id }

/-- Pages are told of commitments and names, which are public. -/
theorem pushEvent_blind (origin : String) (event : PageEvent) :
    Blind cover.desktop (pushEvent origin event) := by
  intro d
  have hgone : (cover.desktop d).pagesGone = d.pagesGone := rfl
  rw [pushEvent, pushEvent, Cover.desktop_record (e := .pageUnreachable origin event) rfl,
    Cover.desktop_record (e := .pageTold origin event) rfl, hgone]
  split
  · rfl
  · rfl

/-- Surfaces are told of questions and of the status. -/
theorem broadcast_blind (message : ExtensionMessage) : Blind cover.desktop (broadcast message) := by
  intro d
  have hfail : (cover.desktop d).broadcastsFail = d.broadcastsFail := rfl
  rw [broadcast, broadcast, Cover.desktop_record (e := .broadcastLost message) rfl,
    Cover.desktop_record (e := .broadcast message) rfl, hfail]
  split
  · rfl
  · rfl

end Desktop

/-! ## The queue -/

namespace Desk

/-- What is blind on the desktop is blind at the desk. -/
theorem onDesktop_blind {α : Type} {x : Op Desktop α} (hx : Blind cover.desktop x) :
    Blind cover.desk (onDesktop x) :=
  .zoom hx (fun _ => rfl) fun _ _ => rfl

/-- The queue is not covered, so it may be changed in any way. -/
theorem onQueue_blind (f : RequestQueue → RequestQueue) : Blind cover.desk (onQueue f) :=
  .modify fun _ => rfl

theorem broadcastQueue_blind : Blind cover.desk broadcastQueue := by
  unfold broadcastQueue
  refine .get_bind (fun _ => rfl) fun _ => ?_
  exact .ignore (onDesktop_blind (Desktop.broadcast_blind _))

theorem abandon_blind {α : Type} (id : UInt64) (cause : Error) :
    Blind cover.desk (abandon id cause : Op Desk α) := by
  unfold abandon
  refine .bind (onQueue_blind _) fun _ => ?_
  refine .bind broadcastQueue_blind fun _ => ?_
  exact .fail _

theorem holdWindow_blind (window : Nat) : Blind cover.desk (holdWindow window) := by
  unfold holdWindow
  refine .bind (onDesktop_blind Desktop.addListener_blind) fun _ => ?_
  exact onQueue_blind _

theorem completeOpening_blind (id : UInt64) : Blind cover.desk (completeOpening id) := by
  unfold completeOpening
  refine .bind (.attempt (onDesktop_blind Desktop.openWindow_blind)) fun outcome => ?_
  cases outcome with
  | ok window =>
      refine .bind (holdWindow_blind window) fun _ => ?_
      exact broadcastQueue_blind
  | error cause => exact abandon_blind id cause

/-- Which number and which channel a question gets is read off the queue. -/
theorem submit_blind (kind : RequestKind) (payload : Json) :
    Blind cover.desk (submit kind payload) := by
  unfold submit
  refine .get_bind (fun _ => rfl) fun _ => ?_
  refine .bind (onQueue_blind _) fun _ => ?_
  refine .get_bind (fun _ => rfl) fun _ => ?_
  refine .ite ?_ ?_
  · refine .bind (onDesktop_blind Desktop.requestWindow_blind) fun ticket => ?_
    cases ticket with
    | some ticket => exact .pure _
    | none =>
        refine .bind (completeOpening_blind _) fun _ => ?_
        exact .pure _
  · refine .bind broadcastQueue_blind fun _ => ?_
    exact .pure _

theorem surfaceClosed_blind (window : Nat) : Blind cover.desk (surfaceClosed window) := by
  unfold surfaceClosed
  refine .get_bind (fun _ => rfl) fun desk => ?_
  refine .ite ?_ ?_
  · refine .bind (onQueue_blind _) fun _ => ?_
    cases desk.queue.listener with
    | some listener =>
        refine .bind (onDesktop_blind (Desktop.removeListener_blind listener)) fun _ => ?_
        exact onQueue_blind _
    | none => exact onQueue_blind _
  · exact .pure _

/-- By induction on the listeners, each of whom compares two numbers of windows. -/
theorem callListeners_blind (window : Nat) (listeners : List CloseListener) :
    Blind cover.desk (callListeners window listeners) := by
  induction listeners with
  | nil => exact .pure _
  | cons l rest ih =>
      refine .ite ?_ ?_
      · refine .bind (surfaceClosed_blind window) fun _ => ?_
        exact ih
      · exact ih

theorem windowClosed_blind (window : Nat) : Blind cover.desk (windowClosed window) := by
  unfold windowClosed
  refine .get_bind (fun _ => rfl) fun _ => ?_
  exact callListeners_blind window _

theorem closeWindow_blind (id : Option Nat) : Blind cover.desk (closeWindow id) := by
  unfold closeWindow
  refine .bind (onDesktop_blind (Desktop.requestClose_blind id)) fun closed => ?_
  cases closed with
  | some window => exact windowClosed_blind window
  | none => exact .pure _

/-- The window and the listener are those of the queue. -/
theorem dismiss_blind (queue : RequestQueue) : Blind cover.desk (dismiss queue) := by
  have hclose : Blind cover.desk (closeWindow queue.popup).ignore := .ignore (closeWindow_blind _)
  rw [dismiss]
  cases queue.listener with
  | some listener =>
      refine .bind (onDesktop_blind (Desktop.removeListener_blind listener)) fun _ => ?_
      exact hclose
  | none => exact hclose

/-- What is answered is kept in the queue, and the queue is not covered. -/
theorem finalize_blind (request : FinalizeRequest) : Blind cover.desk (finalize request) := by
  unfold finalize
  refine .get_bind (fun _ => rfl) fun desk => ?_
  dsimp only
  cases desk.queue.find? request.id with
  | none => exact .pure _
  | some entry =>
      refine .bind (onQueue_blind _) fun _ => ?_
      refine .bind broadcastQueue_blind fun _ => ?_
      refine .ite ?_ ?_
      · refine .bind (dismiss_blind _) fun _ => ?_
        exact .pure _
      · exact .pure _

end Desk

/-! ## The lock -/

namespace SessionLock

/-- Slots are not covered. -/
theorem onVerifier_blind {α : Type} (x : Op Slot α) : Blind cover.lock (onVerifier x) :=
  .zoom_bare x (fun _ => rfl) fun _ _ => rfl

/-- What is blind on the desktop is blind for the session. -/
theorem onDesktop_blind {α : Type} {x : Op Desktop α} (hx : Blind cover.desktop x) :
    Blind cover.lock (onDesktop x) :=
  .zoom hx (fun _ => rfl) fun _ _ => rfl

theorem status_blind : Blind cover.lock status := by
  unfold status
  refine .bind (onVerifier_blind _) fun _ => ?_
  refine .get_bind (fun _ => rfl) fun _ => ?_
  exact .pure _

theorem state_blind : Blind cover.lock state := by
  unfold state
  refine .get_bind (fun _ => rfl) fun _ => ?_
  refine .ite ?_ ?_
  · exact .pure _
  · refine .bind (onVerifier_blind _) fun verifier => ?_
    cases verifier with
    | some _ => exact .pure _
    | none => exact .pure _

theorem announce_blind : Blind cover.lock announce := by
  unfold announce
  refine .bind (.attempt status_blind) fun outcome => ?_
  cases outcome with
  | ok status => exact .ignore (onDesktop_blind (Desktop.broadcast_blind _))
  | error e => exact .pure _

theorem isAuthentic_blind (password : String) : Blind cover.lock (isAuthentic password) := by
  unfold isAuthentic
  refine .ite ?_ ?_
  · exact .fail _
  · refine .bind (onVerifier_blind _) fun verifier => ?_
    cases verifier with
    | none => exact .fail _
    | some verifier =>
        refine .ite ?_ ?_
        · exact .pure _
        · exact .fail _

theorem unlock_blind (password : String) : Blind cover.lock (unlock password) := by
  unfold unlock
  refine .get_bind (fun _ => rfl) fun _ => ?_
  refine .ite ?_ ?_
  · exact .pure _
  · refine .bind (isAuthentic_blind password) fun _ => ?_
    refine .bind (.modify fun _ => rfl) fun _ => ?_
    refine .bind announce_blind fun _ => ?_
    exact .pure _

/-- The random bytes are not covered, so a text is sealed alike. -/
theorem sealWith_blind (secret plain : String) (purpose : Purpose) :
    Blind cover.lock (sealWith secret plain purpose) :=
  fun _ => rfl

/-- The verifier is sealed and written alike. -/
theorem setupPassword_blind (password : String) : Blind cover.lock (setupPassword password) := by
  unfold setupPassword
  refine .ite ?_ ?_
  · exact .fail _
  · refine .bind (onVerifier_blind _) fun _ => ?_
    refine .ite ?_ ?_
    · exact .fail _
    · refine .bind (sealWith_blind _ _ _) fun _ => ?_
      refine .bind (onVerifier_blind _) fun _ => ?_
      exact unlock_blind password

theorem drop_blind : Blind cover.lock drop :=
  .modify fun _ => rfl

theorem ensureUnlocked_blind : Blind cover.lock ensureUnlocked := by
  unfold ensureUnlocked
  refine .get_bind (fun _ => rfl) fun _ => ?_
  refine .ite ?_ ?_
  · exact .pure _
  · exact .fail _

theorem sealText_blind (plain : String) (purpose : Purpose) :
    Blind cover.lock (sealText plain purpose) := by
  unfold sealText
  refine .get_bind (fun _ => rfl) fun lock => ?_
  cases lock.session.secret with
  | some secret => exact sealWith_blind secret plain purpose
  | none => exact .fail _

/-- A text is opened with the secret of the session. That is no secret of an identity. -/
theorem openText_blind (sealed : String) (purpose : Purpose) :
    Blind cover.lock (openText sealed purpose) := by
  unfold openText
  refine .get_bind (fun _ => rfl) fun lock => ?_
  cases lock.session.secret with
  | some secret => exact .ofExcept _
  | none => exact .fail _

end SessionLock

/-! ## The wallet -/

namespace Wallet

/-- What is blind for a part of the wallet is blind for the wallet. -/
theorem onDesktop_blind {α : Type} {x : Op Desktop α} (hx : Blind cover.desktop x) :
    Blind cover.wallet (onDesktop x) :=
  .zoom hx (fun _ => rfl) fun _ _ => rfl

theorem onDesk_blind {α : Type} {x : Op Desk α} (hx : Blind cover.desk x) :
    Blind cover.wallet (onDesk x) :=
  .zoom hx (fun _ => rfl) fun _ _ => rfl

theorem onLock_blind {α : Type} {x : Op SessionLock α} (hx : Blind cover.lock x) :
    Blind cover.wallet (onLock x) :=
  .zoom hx (fun _ => rfl) fun _ _ => rfl

/-- The secret of the session is no identity's. -/
theorem secret_blind : Blind cover.wallet secret :=
  .gets fun _ => rfl

/-- The slots and the registries are not covered. -/
theorem onApprovals_blind {α : Type} (x : Op (Shelf HostPermission) α) :
    Blind cover.wallet (onApprovals x) :=
  .zoom_bare x (fun _ => rfl) fun _ _ => rfl

/-- A registry is a slot and a map, and it keeps names and commitments only. -/
theorem onConnections_blind {α : Type} (x : Op (Shelf ConnectedIdentity) α) :
    Blind cover.wallet (onConnections x) :=
  .zoom_bare x (fun _ => rfl) fun _ _ => rfl

/-! ### Approvals and connections -/

theorem loadApprovals_blind : Blind cover.wallet loadApprovals := by
  unfold loadApprovals
  refine .bind secret_blind fun _ => ?_
  exact onApprovals_blind _

theorem loadConnections_blind : Blind cover.wallet loadConnections := by
  unfold loadConnections
  refine .bind secret_blind fun _ => ?_
  exact onConnections_blind _

theorem loadRegistries_blind : Blind cover.wallet loadRegistries := by
  unfold loadRegistries
  refine .bind loadApprovals_blind fun _ => ?_
  exact loadConnections_blind

theorem approve_blind (entry : ApprovalEntry) : Blind cover.wallet (approve entry) := by
  unfold approve
  refine .ite ?_ ?_
  · exact .fail _
  · refine .bind secret_blind fun _ => ?_
    refine .bind (onApprovals_blind _) fun _ => ?_
    exact .pure _

theorem setPermission_blind (origin : String) (canSkipApprove : Bool) :
    Blind cover.wallet (setPermission origin canSkipApprove) := by
  unfold setPermission
  refine .ite ?_ ?_
  · exact .fail _
  · refine .bind loadApprovals_blind fun _ => ?_
    refine .get_bind (fun _ => rfl) fun _ => ?_
    refine .ite ?_ ?_
    · refine .bind secret_blind fun _ => ?_
      refine .bind (onApprovals_blind _) fun _ => ?_
      exact .pure _
    · exact .fail _

theorem unapprove_blind (origin : String) : Blind cover.wallet (unapprove origin) := by
  unfold unapprove
  refine .bind secret_blind fun _ => ?_
  refine .bind (onApprovals_blind _) fun _ => ?_
  exact .pure _

theorem clearApprovals_blind : Blind cover.wallet clearApprovals := by
  unfold clearApprovals
  refine .bind secret_blind fun _ => ?_
  exact onApprovals_blind _

theorem notify_blind (origin : String) (event : PageEvent) :
    Blind cover.wallet (notify origin event) :=
  .ignore (onDesktop_blind (Desktop.pushEvent_blind origin event))

/-- The answer to a lookup is covered. -/
theorem identity_covers (commitment : String) :
    Covers cover.wallet (·.map cover.identity) (identity commitment) (identity commitment) := by
  intro w
  exact Prod.ext (cover.lookup_book w.host.identities commitment) rfl

/-- The selected identity is found alike and comes out covered. -/
theorem selectedIdentity_covers :
    Covers cover.wallet (·.map cover.identity) selectedIdentity selectedIdentity := by
  intro w
  exact Prod.ext (cover.lookupSelected_book w.host.identities) rfl

/-- So does the identity that an origin is connected to. -/
theorem connectedIdentity_covers (origin : String) :
    Covers cover.wallet (·.map cover.identity) (connectedIdentity origin)
      (connectedIdentity origin) := by
  unfold connectedIdentity
  refine .get_bind fun w => ?_
  have hsame : (cover.wallet w).connection? origin = w.connection? origin := rfl
  rw [hsame]
  cases w.connection? origin with
  | none => exact .pure none
  | some connection => exact identity_covers connection.commitment

/-- Whoever needs an identity, but of it only what is public. -/
theorem lookup_blind {α : Type} {x : Op Wallet (Option Identity)} {f : Identity → Op Wallet α}
    (hx : Covers cover.wallet (·.map cover.identity) x x)
    (hpublic : ∀ i j, i.commitment = j.commitment → i.name = j.name → f i = f j)
    (hf : ∀ i, Blind cover.wallet (f i)) :
    Blind cover.wallet (x >>= fun found => Op.ofOption .identityMissing found >>= f) := by
  refine hx.bind_blind (fun found => ?_) fun found => .bind (.ofOption _ _) hf
  cases found with
  | none => rfl
  | some i => exact hpublic (cover.identity i) i (cover.commitment i) (cover.name i)

/-- Of the identity that is connected, only the commitment and the name are used. -/
theorem connectIdentity_blind (commitment origin : String) :
    Blind cover.wallet (connectIdentity commitment origin) := by
  unfold connectIdentity
  refine .ite ?_ ?_
  · exact .fail _
  · refine lookup_blind (identity_covers commitment) (fun i j hc hn => ?_) fun i => ?_
    · simp only [hc, hn]
    · refine .bind secret_blind fun _ => ?_
      refine .bind (onConnections_blind _) fun _ => ?_
      refine .bind (notify_blind _ _) fun _ => ?_
      exact .pure _

/-- Of the selected identity, only the commitment is used. -/
theorem chosenCommitment_blind (choice : IdentityChoice) :
    Blind cover.wallet (chosenCommitment choice) := by
  rw [chosenCommitment]
  cases choice.commitment with
  | some commitment => exact .pure _
  | none =>
      exact lookup_blind selectedIdentity_covers (fun i j hc _ => by simp only [hc])
        fun _ => .pure _

/-- Origins are found by their names and by commitments. -/
theorem disconnect_blind (target : String) : Blind cover.wallet (disconnect target) := by
  unfold disconnect
  refine .ite ?_ ?_
  · exact .fail _
  · refine .bind loadConnections_blind fun _ => ?_
    refine .get_bind (fun _ => rfl) fun _ => ?_
    refine .bind (.ofOption _ _) fun _ => ?_
    refine .bind secret_blind fun _ => ?_
    refine .bind (onConnections_blind _) fun _ => ?_
    refine .bind (.ofOption _ _) fun _ => ?_
    refine .bind (notify_blind _ _) fun _ => ?_
    exact .pure _

theorem notifyDisconnected_blind (origins : List String) :
    Blind cover.wallet (notifyDisconnected origins) := by
  induction origins with
  | nil => exact .pure _
  | cons origin rest ih =>
      refine .bind (notify_blind _ _) fun _ => ?_
      exact ih

theorem clearConnections_blind : Blind cover.wallet clearConnections := by
  unfold clearConnections
  refine .bind loadConnections_blind fun _ => ?_
  refine .get_bind (fun _ => rfl) fun _ => ?_
  refine .bind (notifyDisconnected_blind _) fun _ => ?_
  refine .bind secret_blind fun _ => ?_
  exact onConnections_blind _

theorem revoke_blind (origin : String) : Blind cover.wallet (revoke origin) := by
  unfold revoke
  refine .ite ?_ ?_
  · exact .fail _
  · refine .bind (unapprove_blind origin) fun _ => ?_
    refine .get_bind (fun _ => rfl) fun _ => ?_
    refine .ite ?_ ?_
    · refine .bind (disconnect_blind origin) fun _ => ?_
      exact .pure _
    · exact .pure _

/-! ### The session -/

theorem setupPassword_blind (password : String) : Blind cover.wallet (setupPassword password) := by
  unfold setupPassword
  refine .bind (onLock_blind (SessionLock.setupPassword_blind password)) fun _ => ?_
  refine .bind loadRegistries_blind fun _ => ?_
  exact .pure _

theorem unlock_blind (password : String) : Blind cover.wallet (unlock password) := by
  unfold unlock
  refine .bind (onLock_blind (SessionLock.unlock_blind password)) fun _ => ?_
  refine .bind loadRegistries_blind fun _ => ?_
  exact .pure _

theorem tellObservers_blind (names : List String) : Blind cover.wallet (tellObservers names) := by
  induction names with
  | nil => exact .pure _
  | cons name rest ih =>
      refine .bind (onDesktop_blind (Desktop.record_blind rfl)) fun _ => ?_
      exact ih

theorem logout_blind : Blind cover.wallet logout := by
  unfold logout
  refine .bind (onLock_blind SessionLock.drop_blind) fun _ => ?_
  refine .bind (.modify fun _ => rfl) fun _ => ?_
  refine .get_bind (fun _ => rfl) fun _ => ?_
  refine .bind (tellObservers_blind _) fun _ => ?_
  refine .bind (onLock_blind SessionLock.announce_blind) fun _ => ?_
  exact .pure _

/-! ### Backups -/

theorem registerComponent_blind (c : BackupComponent) :
    Blind cover.wallet (Op.modify (registerComponent c)) :=
  .modify fun _ => rfl

theorem removeComponent_blind (key : String) : Blind cover.wallet (removeComponent key) :=
  fun _ => rfl

theorem downloadComponent_blind (c : BackupComponent) (password : String) :
    Blind cover.wallet (downloadComponent c password) := by
  cases c with
  | approvals =>
      refine .bind secret_blind fun _ => ?_
      exact onApprovals_blind _
  | connections =>
      refine .bind secret_blind fun _ => ?_
      exact onConnections_blind _
  | foreign key data refuses =>
      refine .bind (onDesktop_blind (Desktop.record_blind rfl)) fun _ => ?_
      refine .ite ?_ ?_
      · exact .fail _
      · exact .pure _

theorem uploadComponent_blind (c : BackupComponent) (blob password : String) :
    Blind cover.wallet (uploadComponent c blob password) := by
  cases c with
  | approvals =>
      refine .bind secret_blind fun _ => ?_
      exact onApprovals_blind _
  | connections =>
      refine .bind secret_blind fun _ => ?_
      exact onConnections_blind _
  | foreign key data refuses =>
      refine .bind (onDesktop_blind (Desktop.record_blind rfl)) fun _ => ?_
      refine .ite ?_ ?_
      · exact .fail _
      · exact .pure _

theorem collect_blind (password : String) (components : List BackupComponent)
    (file : BackupFile) : Blind cover.wallet (collect password components file) := by
  induction components generalizing file with
  | nil => exact .pure _
  | cons c rest ih =>
      refine .bind (downloadComponent_blind c password) fun _ => ?_
      exact ih _

theorem downloadBackup_blind (password : String) :
    Blind cover.wallet (downloadBackup password) := by
  unfold downloadBackup
  refine .bind (onLock_blind (SessionLock.isAuthentic_blind password)) fun _ => ?_
  refine .get_bind (fun _ => rfl) fun _ => ?_
  refine .bind (collect_blind password _ _) fun _ => ?_
  exact .pure _

theorem restore_blind (file : BackupFile) (password : String) (components : List BackupComponent) :
    Blind cover.wallet (restore file password components) := by
  induction components with
  | nil => exact .pure _
  | cons c rest ih =>
      rw [restore]
      split
      · refine .bind (uploadComponent_blind c _ password) fun _ => ?_
        exact ih
      · exact ih

/-- A backup is of registries, and they are restored alike. -/
theorem uploadBackup_blind (upload : UploadBackup) : Blind cover.wallet (uploadBackup upload) := by
  unfold uploadBackup
  refine .bind (onLock_blind (SessionLock.isAuthentic_blind upload.password)) fun _ => ?_
  refine .bind (.ofExcept _) fun _ => ?_
  refine .bind (.ofOption _ _) fun _ => ?_
  refine .get_bind (fun _ => rfl) fun _ => ?_
  refine .ite ?_ ?_
  · exact restore_blind _ _ _
  · exact .fail _

/-! ### Questions and errands -/

theorem ask_blind (kind : RequestKind) (payload : Json) (errand : Errand) :
    Blind cover.wallet (ask kind payload errand) := by
  unfold ask
  refine .bind (onDesk_blind (Desk.submit_blind kind payload)) fun submission => ?_
  cases submission with
  | queued id channel => exact .pure _
  | opening id channel ticket => exact .pure _

theorem chooseIdentity_blind (origin : String) (changeIdentity : Bool) :
    Blind cover.wallet (chooseIdentity origin changeIdentity) := by
  unfold chooseIdentity
  refine .get_bind (fun _ => rfl) fun w => ?_
  split
  · exact .pure _
  · exact ask_blind _ _ _

/-- Whether an origin is approved is not covered. -/
theorem seekApproval_blind (origin : String) (changeIdentity : Bool) :
    Blind cover.wallet (seekApproval origin changeIdentity) := by
  unfold seekApproval
  refine .get_bind (fun _ => rfl) fun _ => ?_
  refine .ite ?_ ?_
  · refine .bind (approve_blind _) fun _ => ?_
    exact chooseIdentity_blind origin changeIdentity
  · exact ask_blind _ _ _

theorem enterUnlocked_blind (window : Nat) (origin : String) (changeIdentity : Bool) :
    Blind cover.wallet (enterUnlocked window origin changeIdentity) := by
  unfold enterUnlocked
  refine .bind loadRegistries_blind fun _ => ?_
  refine .bind (.ignore (onDesk_blind (Desk.closeWindow_blind _))) fun _ => ?_
  refine .bind loadRegistries_blind fun _ => ?_
  exact seekApproval_blind origin changeIdentity

theorem awaitUnlock_blind (window : Nat) (origin : String) (changeIdentity : Bool) :
    Blind cover.wallet (awaitUnlock window origin changeIdentity) := by
  unfold awaitUnlock
  refine .get_bind (fun _ => rfl) fun _ => ?_
  refine .ite ?_ ?_
  · exact enterUnlocked_blind window origin changeIdentity
  · exact .pure _

theorem openUnlockWindow_blind (origin : String) (changeIdentity : Bool) :
    Blind cover.wallet (openUnlockWindow origin changeIdentity) := by
  unfold openUnlockWindow
  refine .bind (onDesktop_blind Desktop.openWindow_blind) fun window => ?_
  exact awaitUnlock_blind window origin changeIdentity

/-- A connect request makes use of identities only when one was chosen. -/
theorem connect_blind (origin : String) (changeIdentity : Bool) :
    Blind cover.wallet (connect origin changeIdentity) := by
  unfold connect
  refine .mapError ?_
  refine .ite ?_ ?_
  · exact .fail _
  · refine .get_bind (fun _ => rfl) fun w => ?_
    refine .ite ?_ ?_
    · refine .bind loadRegistries_blind fun _ => ?_
      exact seekApproval_blind origin changeIdentity
    · refine .bind (onDesktop_blind Desktop.requestWindow_blind) fun ticket => ?_
      cases ticket with
      | some ticket => exact .pure _
      | none => exact openUnlockWindow_blind origin changeIdentity

/-- What is revealed is the commitment that the registry has. -/
theorem reveal_blind (origin : String) : Blind cover.wallet (reveal origin) := by
  unfold reveal
  refine .get_bind (fun _ => rfl) fun _ => ?_
  refine .bind (.ofOption _ _) fun _ => ?_
  exact ask_blind _ _ _

/-- An errand is fulfilled blindly, unless a proof is to be computed for it. -/
theorem fulfil_blind {errand : Errand} (h : ∀ job, errand ≠ .proof job true) (id : UInt64)
    (outcome : Except Error Json) : Blind cover.wallet (fulfil id errand outcome) := by
  cases errand with
  | asked withId =>
      cases withId with
      | true => exact .pure _
      | false =>
          refine .bind (.ofExcept _) fun _ => ?_
          exact .pure _
  | approval origin changeIdentity =>
      refine .bind (.ofExcept _) fun _ => ?_
      refine .bind (.ofExcept _) fun _ => ?_
      refine .bind (approve_blind _) fun _ => ?_
      exact chooseIdentity_blind origin changeIdentity
  | identityChoice origin =>
      refine .bind (.ofExcept _) fun _ => ?_
      refine .bind (.ofExcept _) fun choice => ?_
      refine .bind (chosenCommitment_blind choice) fun _ => ?_
      refine .bind (connectIdentity_blind _ _) fun _ => ?_
      exact .pure _
  | reveal origin commitment =>
      refine .bind (.ofExcept _) fun _ => ?_
      refine .bind (onDesktop_blind (Desktop.pushEvent_blind _ _)) fun _ => ?_
      exact .pure _
  -- A proof that is to be computed is excluded, one that is not only hands the job back.
  | proof job compute =>
      cases compute with
      | true => exact absurd rfl (h job)
      | false =>
          refine .bind (.ofExcept _) fun _ => ?_
          exact .pure _

/-- An errand that needs no proof is fulfilled alike. -/
theorem awaitAnswer_blind {errand : Errand} (h : ∀ job, errand ≠ .proof job true) (id : UInt64)
    (channel : Nat) : Blind cover.wallet (awaitAnswer id channel errand) := by
  unfold awaitAnswer
  refine .get_bind (fun _ => rfl) fun w => ?_
  cases w.core.queue.answer? channel with
  | some outcome => exact fulfil_blind h id outcome
  | none => exact .pure _

/-- Whatever a call waits for, it goes on blindly, unless a proof is to be computed. -/
theorem resume_blind {on : Waiting}
    (h : ∀ id channel job, on.asked? ≠ some (id, channel, .proof job true)) :
    Blind cover.wallet (resume on) := by
  unfold resume
  refine .mapError ?_
  -- A wait for the registries or the signal looks at nothing that is covered.
  cases on with
  | unlockWindow ticket origin changeIdentity => exact openUnlockWindow_blind _ _
  | unlock window origin changeIdentity => exact awaitUnlock_blind _ _ _
  | unlockSignal =>
      refine .get_bind (fun _ => rfl) fun _ => ?_
      refine .ite ?_ ?_
      · exact .pure _
      · exact .pure _
  | window id channel ticket errand =>
      refine .bind (onDesk_blind (Desk.completeOpening_blind id)) fun _ => ?_
      exact awaitAnswer_blind (fun job hjob => h id channel job (by rw [hjob]; rfl)) id channel
  | answer id channel errand =>
      exact awaitAnswer_blind (fun job hjob => h id channel job (by rw [hjob]; rfl)) id channel
  | lastWord id outcome => exact .pure _

/-! ### What comes from outside -/

/-- A change of the host that comes to the same under a cover. -/
theorem onHost_cover {f g : Host → Host} (h : ∀ host, g (cover.host host) = cover.host (f host))
    (w : Wallet) : (onHost g (cover.wallet w)).2 = cover.wallet (onHost f w).2 :=
  congrArg (fun host => { w with host }) (h w.host)

/-- Other programs write to slots, and slots are not covered. -/
theorem onSlot_blind {α : Type} (name : String) (x : Op Slot α) :
    Blind cover.wallet (onSlot name x) :=
  .zoom_bare _ (fun _ => rfl) fun _ _ => rfl

/-- What comes from outside does under a cover what it does without, provers and contexts apart. -/
theorem undergo_cover (cover : Cover) {action : HostAction}
    (hprover : ∀ prover, action ≠ .useProver prover)
    (hsandbox : ∀ sandbox, action ≠ .useSandbox sandbox) (w : Wallet) :
    (undergo (cover.action action) (cover.wallet w)).2 = cover.wallet (undergo action w).2 := by
  have hblind {x : Op Wallet Unit} (hx : Blind cover.wallet x) :
      (x (cover.wallet w)).2 = cover.wallet (x w).2 :=
    congrArg Prod.snd (hx w)
  -- Of what the action itself brings, only an identity for the book is covered.
  cases action with
  | setFault part broken =>
      refine onHost_cover (fun host => ?_) w
      cases part with
      | _ => rfl
  | setReadable slot readable => exact hblind (onSlot_blind _ _)
  | setClearable slot clearable => exact hblind (onSlot_blind _ _)
  | setQuota slot bytes => exact hblind (onSlot_blind _ _)
  | write slot value => exact hblind (onSlot_blind _ _)
  | writeSealed slot plain secret purpose =>
      have hseal : Blind cover.wallet (sealOutside plain secret purpose) := fun _ => rfl
      exact hblind (.bind hseal fun _ => onSlot_blind _ _)
  | erase slot => exact hblind (onSlot_blind _ _)
  | holdWindow => exact hblind (onDesktop_blind (.modify fun _ => rfl))
  | releaseWindow => exact hblind (onDesktop_blind (.modify fun _ => rfl))
  | closeWindow id => exact hblind (onDesk_blind (Desk.windowClosed_blind id))
  | reportClosed id => exact hblind (onDesk_blind (Desk.surfaceClosed_blind id))
  | useProver prover => exact absurd rfl (hprover prover)
  | useSandbox sandbox => exact absurd rfl (hsandbox sandbox)
  | insertIdentity identity =>
      refine onHost_cover (fun host => ?_) w
      simp only [Cover.host, Cover.insert_book]
  | selectIdentity commitment => exact hblind (.modify fun _ => rfl)
  | addObserver name => exact hblind (.modify fun _ => rfl)
  | dropObserver name => exact hblind (.modify fun _ => rfl)

end Wallet

end WalletTrust

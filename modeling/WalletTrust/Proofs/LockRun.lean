import WalletTrust.Proofs.Deeds

/-!
# The Life of a Lock

A lock by itself, over any number of calls.

A lock starts without a password. Setting one up writes the verifier and unlocks, or it does
neither. From then on the verifier stays, and the lock goes back and forth between locked and
unlocked. Which of the two it is in shows in three places: in the secret, in the signal that waiters
watch and in what the open windows are told. The three never disagree.

All of it rests on one invariant. The signal follows the secret, and a secret that is held opens
the verifier that is stored. The delicate move is setting up a password, since the verifier is
written before the session is unlocked with it: were the password not to open the verifier just
written, a call that failed would leave a verifier behind. That it opens is the law of sealed texts.

## Main definitions

* `SessionLock.Opens`: A password opens the verifier that is stored.
* `SessionLock.Sound`: The signal follows the secret, and the secret opens the verifier.
* `LockMove`, `LockRun`: What can be asked of a lock, and locks over time.
* `LockMove.Turns`: Everything that a move can do to the session and the verifier.
* `LockRun.Orderly`: What holds of a lock at every moment of its life.

## Theorems

* `SessionLock.isAuthentic_cases`, `SessionLock.unlock_outcome`,
  `SessionLock.setupPassword_outcome`: What the calls answer and leave behind.
* `LockMove.turns`, `LockMove.step_sound`: A move does one of these things and keeps a lock sound.
* `LockRun.orderly`: The life of every lock is orderly.
* `SessionLock.adopt_cases`, `SessionLock.announce_reports`: Adopting a password, and announcing it.
* `LockMove.step_keeps`, `LockMove.step_failed`: A verifier that was written is never replaced, and
  a call that failed changed nothing.
* `LockRun.SetsUp.not_lt`: Nobody sets up a password after another.
-/

namespace WalletTrust

/-- The state of the lock that an event shows to the open windows. -/
def HostEvent.status? : HostEvent → Option SessionStatus
  | .broadcast (.sessionStatus status) => some status
  | .broadcastLost (.sessionStatus status) => some status
  | _ => none

/-- What is sent to the open windows is recorded, whether or not it arrives. -/
theorem Desktop.broadcast_records (message : ExtensionMessage) (d : Desktop) :
    ∃ event, (broadcast message d).2 = d.record event ∧
      (event = .broadcast message ∨ event = .broadcastLost message) := by
  simp only [broadcast]
  split
  · exact ⟨_, rfl, .inr rfl⟩
  · exact ⟨_, rfl, .inl rfl⟩

/-! ## Single calls -/

namespace SessionLock

variable {l : SessionLock} {password : String}

/-- The state the lock is in, whether or not the verifier can be read. -/
def standing (l : SessionLock) : SessionStatus :=
  { isInitialized := l.verifier.value.isSome, isUnlocked := l.session.isUnlocked }

/-- A password opens the verifier that is stored. -/
def Opens (password : String) (l : SessionLock) : Prop :=
  password ≠ "" ∧ ∃ verifier, l.verifier.value = some verifier ∧ verifies verifier password = true

/-- The signal follows the secret, and the secret opens the verifier. -/
structure Sound (l : SessionLock) : Prop where
  signal : l.session.signal = l.session.isUnlocked
  opens : ∀ secret, l.session.secret = some secret → l.Opens secret

/-- Whatever was said of the state of the lock in between is true of the lock afterwards. -/
def Reports (l l' : SessionLock) : Prop :=
  ∃ events, l'.desktop.log = l.desktop.log ++ events ∧
    ∀ e ∈ events, ∀ status, e.status? = some status → status = l'.standing

theorem Reports.of_desktop_eq {l' : SessionLock} (h : l'.desktop = l.desktop) : l.Reports l' :=
  ⟨[], by rw [h, List.append_nil], fun _ he => absurd he List.not_mem_nil⟩

/-- Only the record at the start matters. -/
theorem Reports.from_desktop {k l' : SessionLock} (h : k.desktop = l.desktop) (hk : k.Reports l') :
    l.Reports l' := by
  rw [Reports, ← h]
  exact hk

theorem status_cases (l : SessionLock) :
    status l = (.ok l.standing, l) ∨ ∃ e, status l = (.error e, l) := by
  rcases read_cases l with ⟨_, hread⟩ | ⟨e, hread⟩
  · exact .inl (Op.bind_ok hread _)
  · exact .inr ⟨e, Op.bind_error hread _⟩

/-- Looking at the stage the lock is in changes nothing. -/
theorem state_cases (l : SessionLock) : ∃ outcome, state l = (outcome, l) := by
  rw [state, Op.bind_ok (x := Op.get) rfl]
  split
  · exact ⟨_, rfl⟩
  · rcases read_cases l with ⟨_, hread⟩ | ⟨e, hread⟩
    · rw [Op.bind_ok hread]
      rcases l.verifier.value with _ | _
      · exact ⟨_, rfl⟩
      · exact ⟨_, rfl⟩
    · exact ⟨_, Op.bind_error hread _⟩

/-- Where there is a verifier the lock is not taken for one without a password. -/
theorem state_initialized (h : l.verifier.value ≠ none) : (state l).1 ≠ .ok .uninitialized := by
  rw [state, Op.bind_ok (x := Op.get) rfl]
  split
  · exact fun heq => by cases heq
  · rcases read_cases l with ⟨_, hread⟩ | ⟨e, hread⟩
    · rw [Op.bind_ok hread]
      rcases hvalue : l.verifier.value with _ | verifier
      · exact absurd hvalue h
      · exact fun heq => by cases heq
    · rw [Op.bind_error hread]
      exact fun heq => by cases heq

/-- What is announced is the state the lock is in. -/
theorem announce_reports (l : SessionLock) : l.Reports (announce l).2 := by
  -- A status that cannot be read is not announced.
  rcases status_cases l with hstatus | ⟨e, hstatus⟩
  · have hattempt : status.attempt l = (.ok (.ok l.standing), l) := by
      rw [Op.attempt, hstatus]
    rcases Desktop.broadcast_records (.sessionStatus l.standing) l.desktop with
      ⟨event, hrun, hevent⟩
    rw [announce, Op.bind_ok hattempt]
    refine ⟨[event], congrArg Desktop.log hrun, fun e he status hstatus => ?_⟩
    rcases List.mem_singleton.1 he
    rcases hevent with rfl | rfl
    · exact (Option.some.inj hstatus).symm
    · exact (Option.some.inj hstatus).symm
  · have hattempt : status.attempt l = (.ok (.error e), l) := by
      rw [Op.attempt, hstatus]
    rw [announce, Op.bind_ok hattempt]
    exact .of_desktop_eq rfl

/-- A password is authentic if it opens the verifier, and otherwise the call fails. -/
theorem isAuthentic_cases (password : String) (l : SessionLock) :
    (l.Opens password ∧ l.verifier.readable = true ∧ isAuthentic password l = (.ok true, l)) ∨
      ∃ e, isAuthentic password l = (.error e, l) := by
  rw [isAuthentic]
  split
  · exact .inr ⟨_, rfl⟩
  · next hp =>
    rcases read_cases l with ⟨hreads, hread⟩ | ⟨e, hread⟩
    · rw [Op.bind_ok hread]
      -- It compares with the verifier, and nothing is kept of it.
      rcases hvalue : l.verifier.value with _ | verifier
      · exact .inr ⟨_, rfl⟩
      · rcases hverifies : verifies verifier password with _ | _
        · exact .inr ⟨_, congrFun (if_neg (by rw [hverifies]; exact Bool.false_ne_true)) l⟩
        · have hopens : l.Opens password := ⟨hp, verifier, hvalue, hverifies⟩
          exact .inl ⟨hopens, hreads, congrFun (if_pos hverifies) l⟩
    · exact .inr ⟨e, Op.bind_error hread _⟩

/-- While the verifier can be read, whatever opens it is authentic. -/
theorem Opens.isAuthentic (h : l.Opens password) (hreads : l.verifier.readable = true) :
    SessionLock.isAuthentic password l = (.ok true, l) := by
  rcases h with ⟨hp, verifier, hvalue, hverifies⟩
  rcases read_cases l with ⟨_, hread⟩ | ⟨e, hread⟩
  · rw [SessionLock.isAuthentic, if_neg hp, Op.bind_ok hread, hvalue]
    exact congrFun (if_pos hverifies) l
  · simp only [onVerifier, Op.zoom, Slot.read, hreads, if_true] at hread
    cases congrArg Prod.fst hread

/-- A locked session is unlocked by a password that opens a verifier that can be read, and by no
other. -/
theorem unlock_outcome (password : String) (hlocked : l.session.isUnlocked = false) :
    (l.Opens password ∧ l.verifier.readable = true ∧ unlock password l =
      (.ok true, (announce { l with session := .holding password }).2)) ∨
    (¬ (l.Opens password ∧ l.verifier.readable = true) ∧
      ∃ e, unlock password l = (.error e, l)) := by
  rcases isAuthentic_cases password l with ⟨hopens, hreads, hcheck⟩ | ⟨e, hcheck⟩
  · exact .inl ⟨hopens, hreads, unlock_of_authentic hlocked hcheck⟩
  · refine .inr ⟨fun ⟨hopens, hreads⟩ => ?_, e, unlock_refused hlocked hcheck⟩
    cases congrArg Prod.fst (hcheck.symm.trans (hopens.isAuthentic hreads))

/-- A password that was adopted opens the verifier that was written for it. If the slot refuses the
verifier, nothing but its counter and the random source has moved. -/
theorem adopt_cases (hp : password ≠ "") (l : SessionLock) :
    (∃ l', l'.Opens password ∧ l'.session = .holding password ∧ l'.desktop = l.desktop ∧
      adopt password l = (.ok true, (announce l').2)) ∨
    ∃ e l', l'.session = l.session ∧ l'.verifier.value = l.verifier.value ∧
      l'.desktop = l.desktop ∧ adopt password l = (.error e, l') := by
  let fresh := SealedText.sealFresh knownText password .settings l.entropy
  have hseal : sealWith password knownText .settings l =
      (.ok fresh.1, { l with entropy := fresh.2 }) := rfl
  rw [adopt, Op.bind_ok hseal]
  -- The write comes first, and without it the password is not adopted.
  rcases write_cases fresh.1 { l with entropy := fresh.2 } with hwrite | ⟨e, hwrite⟩
  · refine .inl ⟨{ l with
      session := .holding password
      verifier := l.verifier.tried (some fresh.1)
      entropy := fresh.2 }, ⟨hp, fresh.1, rfl, verifies_sealed⟩, rfl, rfl, ?_⟩
    rw [Op.bind_ok hwrite, Op.bind_ok (x := Op.modify _) rfl, Op.bind_ok (announce_ok _),
      Op.pure_apply]
  · refine .inr ⟨e, { l with
      verifier := l.verifier.tried l.verifier.value
      entropy := fresh.2 }, rfl, rfl, rfl, Op.bind_error hwrite _⟩

/-- A password is set up where there is none, or the call fails and leaves the session and the
verifier as they were. -/
theorem setupPassword_outcome (password : String)
    (hlocked : l.verifier.value = none → l.session.isUnlocked = false) :
    (l.verifier.value = none ∧ ∃ l', l'.Opens password ∧ l'.session = .holding password ∧
      l'.desktop = l.desktop ∧ setupPassword password l = (.ok true, (announce l').2)) ∨
    ∃ e l', l'.session = l.session ∧ l'.verifier.value = l.verifier.value ∧
      l'.desktop = l.desktop ∧ setupPassword password l = (.error e, l') := by
  -- Each check that fails leaves the lock as it was.
  by_cases hp : password = ""
  · exact .inr ⟨.notProvided, l, rfl, rfl, rfl, congrFun (if_pos hp) l⟩
  · rcases read_cases l with ⟨hreads, hread⟩ | ⟨e, hread⟩
    · rcases hempty : l.verifier.value with _ | verifier
      · rw [setupPassword_adopts hp hreads hempty (hlocked hempty), ← hempty]
        exact (adopt_cases hp l).imp_left fun h => ⟨rfl, h⟩
      · refine .inr ⟨.alreadyInitialized, l, rfl, hempty, rfl, ?_⟩
        rw [setupPassword, if_neg hp, Op.bind_ok hread, hempty]
        rfl
    · refine .inr ⟨e, l, rfl, rfl, rfl, ?_⟩
      rw [setupPassword, if_neg hp, Op.bind_error hread]

namespace Sound

theorem locked_of_empty (h : l.Sound) (hempty : l.verifier.value = none) :
    l.session.isUnlocked = false := by
  rcases hsecret : l.session.secret with _ | secret
  · rw [Session.isUnlocked, hsecret]
    rfl
  · rcases (h.opens secret hsecret).2 with ⟨verifier, hvalue, _⟩
    cases hempty.symm.trans hvalue

theorem of_same {l' : SessionLock} (h : l.Sound) (hsession : l'.session = l.session)
    (hvalue : l'.verifier.value = l.verifier.value) : l'.Sound where
  signal := by rw [hsession]; exact h.signal
  opens := fun secret hsecret => by
    rw [hsession] at hsecret
    rw [Opens, hvalue]
    exact h.opens secret hsecret

theorem of_holding (hsession : l.session = .holding password) (hopens : l.Opens password) :
    l.Sound where
  signal := by rw [hsession]; rfl
  opens := fun secret hsecret => by
    rw [hsession] at hsecret
    rcases Option.some.inj hsecret
    exact hopens

theorem of_locked (hsession : l.session = .locked) : l.Sound where
  signal := by rw [hsession]; rfl
  opens := fun secret hsecret => by
    rw [hsession] at hsecret
    cases hsecret

end Sound

end SessionLock

/-! ## Moves -/

/-- What can be asked of a lock. Elsewhere everything may change but the session and what is in the
slot of the verifier. -/
inductive LockMove where
  | setupPassword (password : String)
  | unlock (password : String)
  | logout
  | isAuthentic (password : String)
  | status
  | state
  | elsewhere (quota : Option Nat) (readable : Bool) (entropy : Entropy) (desktop : Desktop)

/-- What a move answers. -/
inductive LockAnswer where
  | flag (b : Bool)
  | status (status : SessionStatus)
  | state (state : SessionState)
  | nothing
deriving DecidableEq, Repr

namespace LockMove

open SessionLock (Reports)

/-- What a move answers and what it makes of a lock. -/
def step : LockMove → Op SessionLock LockAnswer
  | .setupPassword password => return .flag (← SessionLock.setupPassword password)
  | .unlock password => return .flag (← SessionLock.unlock password)
  | .logout => return .flag (← SessionLock.logout)
  | .isAuthentic password => return .flag (← SessionLock.isAuthentic password)
  | .status => return .status (← SessionLock.status)
  | .state => return .state (← SessionLock.state)
  | .elsewhere quota readable entropy desktop => do
      Op.modify fun l =>
        { l with verifier := { l.verifier with quota, readable }, entropy, desktop }
      return .nothing

/-- The move is one of the calls. -/
def Asks : LockMove → Prop
  | .elsewhere _ _ _ _ => False
  | _ => True

/-- Everything that a move can do to the session and the verifier. -/
inductive Turns (l l' : SessionLock) : LockMove → Except Error LockAnswer → Prop where
  | setUp {password : String} (empty : l.verifier.value = none) (opens : l'.Opens password)
    (session : l'.session = .holding password) :
    Turns l l' (.setupPassword password) (.ok (.flag true))
  | unlocked {password : String} (opens : l.Opens password) (slot : l'.verifier = l.verifier)
    (session : l'.session = .holding password) : Turns l l' (.unlock password) (.ok (.flag true))
  | locked (slot : l'.verifier = l.verifier) (session : l'.session = .locked) :
    Turns l l' .logout (.ok (.flag true))
  | kept {move : LockMove} {outcome : Except Error LockAnswer} (session : l'.session = l.session)
    (value : l'.verifier.value = l.verifier.value)
    (refused : ∀ password, move = .setupPassword password → ∃ e, outcome = .error e) :
    Turns l l' move outcome

variable {l : SessionLock}

theorem setupPassword_turns (password : String) (hl : l.Sound) :
    Turns l ((setupPassword password).step l).2 (.setupPassword password)
        ((setupPassword password).step l).1 ∧
      Reports l ((setupPassword password).step l).2 := by
  rcases SessionLock.setupPassword_outcome password hl.locked_of_empty with
    ⟨hempty, k, hopens, hsession, hdesktop, hrun⟩ | ⟨e, k, hsession, hvalue, hdesktop, hrun⟩
  · rw [step, Op.bind_ok hrun, Op.pure_apply]
    rcases Prod.mk.inj (SessionLock.announce_still k) with ⟨hafter, hslot⟩
    refine ⟨.setUp hempty ?_ (hafter.trans hsession), .from_desktop hdesktop (k.announce_reports)⟩
    rw [SessionLock.Opens, hslot]
    exact hopens
  · rw [step, Op.bind_error hrun]
    exact ⟨.kept hsession hvalue fun _ _ => ⟨e, rfl⟩, .of_desktop_eq hdesktop⟩

theorem unlock_turns (password : String) (l : SessionLock) :
    Turns l ((unlock password).step l).2 (.unlock password) ((unlock password).step l).1 ∧
      Reports l ((unlock password).step l).2 := by
  rcases hunlocked : l.session.isUnlocked with _ | _
  · rcases SessionLock.unlock_outcome password hunlocked with ⟨hopens, _, hrun⟩ | ⟨_, e, hrun⟩
    · rw [step, Op.bind_ok hrun, Op.pure_apply]
      let k : SessionLock := { l with session := .holding password }
      rcases Prod.mk.inj (SessionLock.announce_still k) with ⟨hafter, hslot⟩
      exact ⟨.unlocked hopens hslot hafter, .from_desktop rfl k.announce_reports⟩
    · rw [step, Op.bind_error hrun]
      exact ⟨.kept rfl rfl nofun, .of_desktop_eq rfl⟩
  · rw [step, Op.bind_ok (SessionLock.unlock_unlocked password hunlocked), Op.pure_apply]
    exact ⟨.kept rfl rfl nofun, .of_desktop_eq rfl⟩

theorem logout_turns (l : SessionLock) :
    Turns l (logout.step l).2 .logout (logout.step l).1 ∧ Reports l (logout.step l).2 := by
  let k : SessionLock := { l with session := .locked }
  have hrun : SessionLock.logout l = (.ok true, (SessionLock.announce k).2) := by
    rw [SessionLock.logout, Op.bind_ok (x := SessionLock.drop) rfl,
      Op.bind_ok (SessionLock.announce_ok k), Op.pure_apply]
  rw [step, Op.bind_ok hrun, Op.pure_apply]
  rcases Prod.mk.inj (SessionLock.announce_still k) with ⟨hafter, hslot⟩
  exact ⟨.locked hslot hafter, .from_desktop rfl k.announce_reports⟩

/-- A call that leaves the lock as it is. -/
theorem kept_of_eq {m : LockMove} {outcome : Except Error LockAnswer}
    (hrun : m.step l = (outcome, l)) (hm : ∀ password, m ≠ .setupPassword password) :
    Turns l (m.step l).2 m (m.step l).1 ∧ Reports l (m.step l).2 := by
  rw [hrun]
  exact ⟨.kept rfl rfl fun password h => absurd h (hm password), .of_desktop_eq rfl⟩

/-- A move does one of these things, and says nothing untrue of the lock. -/
theorem turns (m : LockMove) (hl : l.Sound) :
    Turns l (m.step l).2 m (m.step l).1 ∧ (m.Asks → Reports l (m.step l).2) := by
  have hcall : ∀ {m : LockMove}, Turns l (m.step l).2 m (m.step l).1 ∧ Reports l (m.step l).2 →
      Turns l (m.step l).2 m (m.step l).1 ∧ (m.Asks → Reports l (m.step l).2) :=
    fun h => ⟨h.1, fun _ => h.2⟩
  -- Only the three calls of the session may turn it; the others look.
  cases m with
  | setupPassword password => exact hcall (setupPassword_turns password hl)
  | unlock password => exact hcall (unlock_turns password l)
  | logout => exact hcall (logout_turns l)
  | isAuthentic password =>
      rcases SessionLock.isAuthentic_cases password l with ⟨_, _, hrun⟩ | ⟨e, hrun⟩
      · exact hcall (kept_of_eq (Op.bind_ok hrun _) nofun)
      · exact hcall (kept_of_eq (Op.bind_error hrun _) nofun)
  | status =>
      rcases SessionLock.status_cases l with hrun | ⟨e, hrun⟩
      · exact hcall (kept_of_eq (Op.bind_ok hrun _) nofun)
      · exact hcall (kept_of_eq (Op.bind_error hrun _) nofun)
  | state =>
      rcases SessionLock.state_cases l with ⟨outcome | state, hrun⟩
      · exact hcall (kept_of_eq (Op.bind_error hrun _) nofun)
      · exact hcall (kept_of_eq (Op.bind_ok hrun _) nofun)
  | elsewhere quota readable entropy desktop =>
      exact ⟨.kept rfl rfl nofun, fun h => absurd h id⟩

/-- A move keeps a lock sound. -/
theorem step_sound (m : LockMove) (hl : l.Sound) : (m.step l).2.Sound := by
  have hturns := (turns m hl).1
  rcases hstep : m.step l with ⟨outcome, l'⟩
  rw [hstep] at hturns
  cases hturns with
  | setUp _ opens session => exact .of_holding session opens
  | unlocked opens slot session =>
      refine .of_holding session ?_
      rw [SessionLock.Opens, slot]
      exact opens
  | locked _ session => exact .of_locked session
  | kept session value _ => exact hl.of_same session value

/-- A verifier that was written is never replaced. -/
theorem step_keeps {verifier : String} (m : LockMove) (hl : l.Sound)
    (h : l.verifier.value = some verifier) : (m.step l).2.verifier.value = some verifier := by
  have hturns := (turns m hl).1
  rcases hstep : m.step l with ⟨outcome, l'⟩
  rw [hstep] at hturns
  cases hturns with
  | setUp empty _ _ => cases empty.symm.trans h
  | unlocked _ slot _ => rwa [slot]
  | locked slot _ => rwa [slot]
  | kept _ value _ => rwa [value]

/-- A call that failed changed neither the session nor the verifier. -/
theorem step_failed {m : LockMove} {e : Error} (hl : l.Sound) (h : (m.step l).1 = .error e) :
    (m.step l).2.session = l.session ∧ (m.step l).2.verifier.value = l.verifier.value := by
  have hturns := (turns m hl).1
  rcases hstep : m.step l with ⟨outcome, l'⟩
  rw [hstep] at h hturns
  rcases h
  cases hturns with
  | kept session value _ => exact ⟨session, value⟩

/-- A password that is set up opens the first verifier, and is held. -/
theorem setupPassword_ok {password : String} {answer : LockAnswer} (hl : l.Sound)
    (h : ((setupPassword password).step l).1 = .ok answer) :
    l.verifier.value = none ∧ ((setupPassword password).step l).2.Opens password ∧
      ((setupPassword password).step l).2.session = .holding password := by
  have hturns := (turns (.setupPassword password) hl).1
  rcases hstep : (setupPassword password).step l with ⟨outcome, l'⟩
  rw [hstep] at h hturns
  rcases h
  cases hturns with
  | setUp empty opens session => exact ⟨empty, opens, session⟩
  | kept _ _ refused =>
      rcases refused password rfl with ⟨e, he⟩
      cases he

end LockMove

/-! ## Runs -/

/-- A lock that starts without a password, and what is asked of it stage by stage. -/
structure LockRun where
  quota : Option Nat := none
  readable : Bool := true
  entropy : Entropy
  desktop : Desktop := {}
  move : Nat → LockMove

namespace LockRun

/-- The lock as it is made. -/
def start (run : LockRun) : SessionLock where
  verifier := { quota := run.quota, readable := run.readable }
  entropy := run.entropy
  desktop := run.desktop

/-- The lock at the start of a stage. -/
def lock (run : LockRun) : Nat → SessionLock
  | 0 => run.start
  | t + 1 => ((run.move t).step (run.lock t)).2

variable (run : LockRun)

/-- What the move of a stage answers. -/
def outcome (t : Nat) : Except Error LockAnswer :=
  ((run.move t).step (run.lock t)).1

/-- A password is set up in a stage. -/
def SetsUp (t : Nat) (password : String) : Prop :=
  run.move t = .setupPassword password ∧ ∃ answer, run.outcome t = .ok answer

/-- What holds of a lock at every moment of its life. -/
structure Orderly : Prop where
  /-- The signal follows the secret. -/
  signal : ∀ t, (run.lock t).session.signal = (run.lock t).session.secret.isSome
  /-- A verifier that was written never changes again. -/
  kept : ∀ t u verifier, t ≤ u → (run.lock t).verifier.value = some verifier →
    (run.lock u).verifier.value = some verifier
  /-- Once there is a verifier, the lock is not taken for one without a password. -/
  initialized : ∀ t u, t ≤ u → (run.lock t).verifier.value ≠ none →
    (SessionLock.state (run.lock u)).1 ≠ .ok .uninitialized
  /-- A password is set up only once. -/
  once : ∀ t u password other, run.SetsUp t password → run.SetsUp u other → t = u
  /-- A password that was set up is stored in a verifier, and held. -/
  settled : ∀ t password, run.SetsUp t password → (run.lock t).verifier.value = none ∧
    (run.lock (t + 1)).Opens password ∧ (run.lock (t + 1)).session = .holding password
  /-- A secret that is held opens the verifier and is found to be authentic. -/
  authentic : ∀ t secret, (run.lock t).session.secret = some secret →
    (run.lock t).Opens secret ∧ ((run.lock t).verifier.readable = true →
      SessionLock.isAuthentic secret (run.lock t) = (.ok true, run.lock t))
  /-- A call that fails leaves secret, signal and verifier as they were. -/
  failed : ∀ t e, run.outcome t = .error e →
    (run.lock (t + 1)).session = (run.lock t).session ∧
      (run.lock (t + 1)).verifier.value = (run.lock t).verifier.value
  /-- Unlocking what is unlocked succeeds with any password and does nothing. -/
  again : ∀ t password, run.move t = .unlock password → (run.lock t).session.secret.isSome →
    run.outcome t = .ok (.flag true) ∧ run.lock (t + 1) = run.lock t
  /-- What the open windows are told is how the lock stands. -/
  reported : ∀ t, (run.move t).Asks → (run.lock t).Reports (run.lock (t + 1))

variable {run}

theorem lock_sound (run : LockRun) (t : Nat) : (run.lock t).Sound := by
  induction t with
  | zero => exact .of_locked rfl
  | succ t ih => exact LockMove.step_sound (run.move t) ih

theorem verifier_kept {t u : Nat} {verifier : String} (htu : t ≤ u)
    (h : (run.lock t).verifier.value = some verifier) :
    (run.lock u).verifier.value = some verifier := by
  induction htu with
  | refl => exact h
  | step _ ih => exact LockMove.step_keeps _ (run.lock_sound _) ih

theorem SetsUp.settled {t : Nat} {password : String} (h : run.SetsUp t password) :
    (run.lock t).verifier.value = none ∧ (run.lock (t + 1)).Opens password ∧
      (run.lock (t + 1)).session = .holding password := by
  rcases h with ⟨hmove, answer, hok⟩
  rw [outcome, hmove] at hok
  rw [lock, hmove]
  exact LockMove.setupPassword_ok (run.lock_sound t) hok

/-- Nobody sets up a password after another. -/
theorem SetsUp.not_lt {t u : Nat} {password other : String} (h : run.SetsUp t password)
    (k : run.SetsUp u other) : ¬ t < u := by
  intro hlt
  rcases h.settled.2.1.2 with ⟨verifier, hvalue, _⟩
  cases k.settled.1.symm.trans (verifier_kept hlt hvalue)

/-- The life of every lock is orderly. -/
theorem orderly (run : LockRun) : run.Orderly where
  signal := fun t => (run.lock_sound t).signal
  kept := fun _ _ _ htu h => verifier_kept htu h
  initialized := fun t u htu h => by
    rcases Option.ne_none_iff_exists'.1 h with ⟨verifier, hvalue⟩
    refine SessionLock.state_initialized ?_
    rw [verifier_kept htu hvalue]
    exact Option.some_ne_none verifier
  once := fun _ _ _ _ h k => Nat.le_antisymm (Nat.not_lt.1 (k.not_lt h)) (Nat.not_lt.1 (h.not_lt k))
  settled := fun _ _ h => h.settled
  authentic := fun t secret h =>
    have hopens := (run.lock_sound t).opens secret h
    ⟨hopens, hopens.isAuthentic⟩
  failed := fun t _ h => LockMove.step_failed (run.lock_sound t) h
  -- Unlocking an unlocked session looks at no password.
  again := fun t password hmove hunlocked => by
    have hrun := SessionLock.unlock_unlocked password hunlocked
    have hstep : (run.move t).step (run.lock t) = (.ok (.flag true), run.lock t) := by
      rw [hmove, LockMove.step, Op.bind_ok hrun, Op.pure_apply]
    rw [outcome, lock, hstep]
    exact ⟨rfl, rfl⟩
  reported := fun t h => (LockMove.turns (run.move t) (run.lock_sound t)).2 h

end LockRun

end WalletTrust

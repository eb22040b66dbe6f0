import WalletTrust.Proofs.Adopting
import WalletTrust.Proofs.Pending

/-!
# Connect Requests

What becomes of a connect request while nothing else goes on, from the call to its end.

A connect request has two questions to put: whether the origin is approved, and which identity it is
to be connected to. The first is left out if the origin is approved, and the second if it is
connected and the connection is to stay. So there are two halves, and each of them may wait, fail or
succeed. `Course` lists where the request may be, with the questions that it has put by then, what
the registries hold, and which slots it has touched.

The first half is over as soon as there is an approval: the one that the origin had, which stays as
it is, or the one that the user has given, as it was given. Where there is none the request fails,
and the registries are as they were. An approval that there is no room for is none. The second half
begins in the same stage, so what it is about does not depend on how the first has ended.

The parts are computed in `Writes`, and `Pending` says which of them a stage runs. A window that
fails to come after its question was answered is left out.

## Main definitions

* `Run.Stands`: What the registries hold, and which slots were touched.
* `Run.Granted`, `Run.Denied`: How the first half ends.
* `Run.Choosing`, `Run.Unchosen`: Where the second half is, and how it fails.
* `Run.Course`, `Run.ConnectsAlone`: Where a connect request is, and what becomes of it.

## Theorems

* `Run.Leads.chooses`, `Run.chooses_on`: How the second half begins, and how it goes on.
* `Run.seeks_on`: How the first half goes on.
* `Run.Course.stage`: One stage of a connect request.
* `Run.connects_alone`: All together, for every connect request in every run.
* `Run.approvalUnstored_unasked`: An approval that there is no room for is the end.
-/

namespace WalletTrust

namespace Run

variable {run : Run} {n j t u : Nat} {origin : String} {changeIdentity : Bool}
  {a a' : OriginMap HostPermission} {c c' : OriginMap ConnectedIdentity}
  {asked more : List (RequestKind × Json)} {tried written tried' written' : List String}
  {on : Waiting}
  {errand : Errand} {w : Wallet}

/-! ## The two halves -/

/-- The question whether an origin is approved. -/
def approveQuestion (origin : String) : RequestKind × Json :=
  (.approve, Wallet.originPayload origin)

/-- The question which identity an origin is to be connected to. -/
def choiceQuestion (origin : String) : RequestKind × Json :=
  (.connectIdentity, Wallet.originPayload origin)

/-- The registries hold two maps before a stage. Since a call was made the session is as it was,
only some slots were tried, and only some hold another text. -/
structure Stands (run : Run) (n t : Nat) (a : OriginMap HostPermission)
    (c : OriginMap ConnectedIdentity) (tried written : List String) : Prop where
  touches : Wallet.Touches tried written (run.wallet n) (run.wallet t)
  approvals : (run.wallet t).core.approvals = some a
  connections : (run.wallet t).core.connections = some c

/-- Why an origin is not approved, as the call of stage `n` is told in stage `u`. -/
inductive Denied (run : Run) (n u : Nat) (origin : String) (a : OriginMap HostPermission) :
    Error → Prop
  | unaccepted {e : Error} (h : run.Unaccepted n u e) : Denied run n u origin a e
  /-- What came with the acceptance is no permission. -/
  | malformed {k : Nat} {data : Json} {e : Error} (hku : k < u)
      (haccepted : run.AcceptedWith k (run.channel n) data)
      (h : (Wallet.decodeData {} data : Except Error HostPermission) = .error e) :
      Denied run n u origin a e
  /-- There is no room for the approval. -/
  | full {k : Nat} {data : Json} {p : HostPermission} {key : String} (hku : k < u)
      (haccepted : run.AcceptedWith k (run.channel n) data)
      (h : Wallet.decodeData {} data = .ok p)
      (hkey : (run.wallet u).core.session.secret = some key)
      (hfull : ¬ (run.wallet u).approvalShelf.HasRoom approvalsLabel key (a.insert origin p)) :
      Denied run n u origin a (.storageWrite "quota exceeded")

/-- An origin is approved in a stage `j`: the questions that took, the approvals then, and the slots
that were written to. -/
inductive Granted (run : Run) (n : Nat) (origin : String) (a : OriginMap HostPermission) :
    Nat → List (RequestKind × Json) → OriginMap HostPermission → List String → Prop
  /-- It was approved before. -/
  | known (h : (a.get? origin).isSome) : Granted run n origin a n [] a []
  | given {k j : Nat} {on : Waiting} {data : Json} {p : HostPermission} {key : String}
      (habsent : a.get? origin = none) (hgoes : run.GoesOn j n on) (hkj : k < j)
      (haccepted : run.AcceptedWith k (run.channel n) data)
      (h : Wallet.decodeData {} data = .ok p)
      (hkey : (run.wallet j).core.session.secret = some key)
      (hroom : (run.wallet j).approvalShelf.HasRoom approvalsLabel key (a.insert origin p)) :
      Granted run n origin a j [approveQuestion origin] (a.insert origin p)
        [run.config.storageKeys.approvals]

/-- Why no identity is chosen, as a call is told in stage `u` that has asked for one in stage
`j`. -/
inductive Unchosen (run : Run) (j u : Nat) (origin : String) (c : OriginMap ConnectedIdentity) :
    Error → Prop
  | unaccepted {e : Error} (h : run.Unaccepted j u e) : Unchosen run j u origin c e
  /-- What came with the acceptance is no choice. -/
  | malformed {k : Nat} {data : Json} {e : Error} (hku : k < u)
      (haccepted : run.AcceptedWith k (run.channel j) data)
      (h : (Wallet.decodeData {} data : Except Error IdentityChoice) = .error e) :
      Unchosen run j u origin c e
  /-- The identity is not found. -/
  | unfound {k : Nat} {data : Json} {choice : IdentityChoice} {e : Error} (hku : k < u)
      (haccepted : run.AcceptedWith k (run.channel j) data)
      (h : Wallet.decodeData {} data = .ok choice)
      (hchosen : (run.wallet u).host.identities.chosen choice = .error e) :
      Unchosen run j u origin c e
  /-- There is no room for the connection. -/
  | full {k : Nat} {data : Json} {choice : IdentityChoice} {found : Identity} {key : String}
      (hku : k < u) (haccepted : run.AcceptedWith k (run.channel j) data)
      (h : Wallet.decodeData {} data = .ok choice)
      (hchosen : (run.wallet u).host.identities.chosen choice = .ok found)
      (hkey : (run.wallet u).core.session.secret = some key)
      (hfull : ¬ (run.wallet u).connectionShelf.HasRoom connectionsLabel key
        (c.insert origin found.connected)) :
      Unchosen run j u origin c (.storageWrite "quota exceeded")

/-- A connect request has to have an identity chosen. -/
def Needs (changeIdentity : Bool) (origin : String) (c : OriginMap ConnectedIdentity) : Prop :=
  changeIdentity = true ∨ c.get? origin = none

/-- Where the second half of a connect request is before a stage `t`, if it has begun in a stage
`j`: the question that it has put, the connections, and the slots that were tried and written to. -/
inductive Choosing (run : Run) (n : Nat) (origin : String) (changeIdentity : Bool)
    (c : OriginMap ConnectedIdentity) (j t : Nat) :
    List (RequestKind × Json) → OriginMap ConnectedIdentity → List String → List String → Prop
  /-- The origin keeps its connection, and nobody is asked. -/
  | kept {i : ConnectedIdentity} (hchange : changeIdentity = false) (hget : c.get? origin = some i)
      (hends : run.Ends j n (.ok (.connection (some (.of origin i))))) :
      Choosing run n origin changeIdentity c j t [] c [] []
  | pending (hneeds : Needs changeIdentity origin c)
      (hpends : run.Pends n j t (.identityChoice origin)) :
      Choosing run n origin changeIdentity c j t [choiceQuestion origin] c [] []
  | failed {u : Nat} {e : Error} (hneeds : Needs changeIdentity origin c) (hut : u < t)
      (hends : run.Ends u n (.error (.ofConnect e))) (hwhy : run.Unchosen j u origin c e) :
      Choosing run n origin changeIdentity c j t [choiceQuestion origin] c
        [run.config.storageKeys.connections] []
  | chosen {k u : Nat} {data : Json} {choice : IdentityChoice} {found : Identity} {key : String}
      (hneeds : Needs changeIdentity origin c) (hku : k < u) (hut : u < t)
      (haccepted : run.AcceptedWith k (run.channel j) data)
      (h : Wallet.decodeData {} data = .ok choice)
      (hchosen : (run.wallet u).host.identities.chosen choice = .ok found)
      (hkey : (run.wallet u).core.session.secret = some key)
      (hroom : c.get? origin = some found.connected ∨
        (run.wallet u).connectionShelf.HasRoom connectionsLabel key
          (c.insert origin found.connected))
      (hends : run.Ends u n (.ok (.connection (some (.of origin found.connected))))) :
      Choosing run n origin changeIdentity c j t [choiceQuestion origin]
        (c.insert origin found.connected) [run.config.storageKeys.connections]
        [run.config.storageKeys.connections]

/-- Where a connect request is, with the questions that it has put. -/
inductive Course (run : Run) (n : Nat) (origin : String) (changeIdentity : Bool)
    (a : OriginMap HostPermission) (c : OriginMap ConnectedIdentity) (t : Nat) :
    List (RequestKind × Json) → Prop
  | seeking (habsent : a.get? origin = none)
      (hpends : run.Pends n n t (.approval origin changeIdentity))
      (hstands : run.Stands n t a c [] []) :
      Course run n origin changeIdentity a c t [approveQuestion origin]
  | denied {u : Nat} {e : Error} (habsent : a.get? origin = none) (hut : u < t)
      (hends : run.Ends u n (.error (.ofConnect e))) (hwhy : run.Denied n u origin a e)
      (hstands : run.Stands n t a c [run.config.storageKeys.approvals] []) :
      Course run n origin changeIdentity a c t [approveQuestion origin]
  | granted {j : Nat} {asked more : List (RequestKind × Json)} {a' : OriginMap HostPermission}
      {c' : OriginMap ConnectedIdentity} {spent tried written : List String}
      (hjt : j < t) (hgranted : run.Granted n origin a j asked a' spent)
      (hchoosing : run.Choosing n origin changeIdentity c j t more c' tried written)
      (hstands : run.Stands n t a' c' (spent ++ tried) (spent ++ written)) :
      Course run n origin changeIdentity a c t (asked ++ more)

/-- What becomes of a connect request before a stage. -/
structure ConnectsAlone (run : Run) (n t : Nat) (origin : String) (changeIdentity : Bool)
    (a : OriginMap HostPermission) (c : OriginMap ConnectedIdentity) : Prop where
  /-- Without an origin it is refused, and nothing happens. -/
  refused : origin = "" → run.Ends n n (.error (.ofConnect .originMissing)) ∧
    run.wallet (n + 1) = run.wallet n ∧ run.HasPut n t [] ∧ run.Stands n t a c [] []
  course : origin ≠ "" → ∃ asked, run.HasPut n t asked ∧
    run.Course n origin changeIdentity a c t asked
  /-- What it answers is the connection that the origin then has. -/
  connected : ∀ u answer, u < t → run.Ends u n (.ok answer) → ∃ connection,
    answer = .connection (some connection) ∧ connection.origin = origin ∧
    (run.wallet (u + 1)).connection? origin = some connection

/-! ## Stages that run no part of the request -/

theorem Stands.trans (h : run.Stands n t a c tried written)
    (htouches : Wallet.Touches tried' written' (run.wallet t) (run.wallet u))
    (ha : (run.wallet u).core.approvals = some a')
    (hc : (run.wallet u).core.connections = some c') :
    run.Stands n u a' c' (tried ++ tried') (written ++ written') :=
  ⟨h.touches.trans htouches, ha, hc⟩

theorem Stands.of_untouched (h : run.Stands n t a c [] []) : run.Stands n t a c tried written :=
  ⟨h.touches.mono (List.nil_subset _) (List.nil_subset _), h.approvals, h.connections⟩

theorem Stands.rests (h : run.Stands n t a c tried written) (hquiet : (run.move t).Quiet n)
    (hrests : ∀ on, ¬ run.GoesOn t n on) : run.Stands n (t + 1) a c tried written := by
  rcases run.rests hquiet hrests with ⟨htouches, ha, hc, _⟩
  have hstands := h.trans htouches (ha.trans h.approvals) (hc.trans h.connections)
  rw [List.append_nil, List.append_nil] at hstands
  exact hstands

theorem Choosing.rests (h : run.Choosing n origin changeIdentity c j t more c' tried written)
    (hquiet : (run.move t).Quiet n) (hrests : ∀ on, ¬ run.GoesOn t n on) :
    run.Choosing n origin changeIdentity c j (t + 1) more c' tried written := by
  cases h with
  | kept hchange hget hends => exact .kept hchange hget hends
  | pending hneeds hpends => exact .pending hneeds (hpends.rests hquiet hrests)
  | failed hneeds hut hends hwhy => exact .failed hneeds (Nat.lt_succ_of_lt hut) hends hwhy
  | chosen hneeds hku hut haccepted h hchosen hkey hroom hends =>
      exact .chosen hneeds hku (Nat.lt_succ_of_lt hut) haccepted h hchosen hkey hroom hends

theorem Course.rests (h : run.Course n origin changeIdentity a c t asked)
    (hquiet : (run.move t).Quiet n) (hrests : ∀ on, ¬ run.GoesOn t n on) :
    run.Course n origin changeIdentity a c (t + 1) asked := by
  cases h with
  | seeking habsent hpends hstands =>
      exact .seeking habsent (hpends.rests hquiet hrests) (hstands.rests hquiet hrests)
  | denied habsent hut hends hwhy hstands =>
      exact .denied habsent (Nat.lt_succ_of_lt hut) hends hwhy (hstands.rests hquiet hrests)
  | granted hjt hgranted hchoosing hstands =>
      exact .granted (Nat.lt_succ_of_lt hjt) hgranted (hchoosing.rests hquiet hrests)
        (hstands.rests hquiet hrests)

/-! ## Stages that run a part of the request -/

/-- The second half begins: the origin keeps its connection, or the user is asked. -/
theorem Leads.chooses
    (h : run.Leads j n ((Wallet.chooseIdentity origin changeIdentity).mapError .ofConnect w))
    (hw : w.core.queue.nextChannel = (run.queue j).nextChannel)
    (hc : w.core.connections = some c) (hopened : ∀ cause, w.host.desktop.opened = .error cause →
      (run.wallet j).host.desktop.opened = .error cause) :
    ∃ more tried, run.PutsAt j more ∧ w.Apart (run.wallet (j + 1)) ∧
      run.Choosing n origin changeIdentity c j (j + 1) more c tried [] := by
  -- An identity is asked for, or there is one already and the call is over.
  by_cases hneeds : Needs changeIdentity origin c
  · rw [Op.mapError, Wallet.chooseIdentity_asks hc hneeds] at h
    rcases Leads.asks (.identityChoice origin) h hw with
      ⟨hputs, happart, hpends | ⟨cause, hopens, hends⟩⟩
    · exact ⟨_, [], hputs, happart, .pending hneeds hpends⟩
    · -- The channel is new, so nobody has answered before the window failed.
      have hnone := ((run.queue_sound j).blank (Nat.le_refl _)).2
      exact ⟨_, _, hputs, happart, .failed hneeds (Nat.lt_succ_self j) hends
        (.unaccepted (.unseen hnone (hopened cause hopens)))⟩
  · rw [Needs, not_or] at hneeds
    rcases Bool.eq_false_iff.2 hneeds.1
    rcases Option.ne_none_iff_exists'.1 hneeds.2 with ⟨i, hget⟩
    have hrun := Op.mapError_of_ok (Wallet.chooseIdentity_kept hc hget) .ofConnect
    have hwallet : run.wallet (j + 1) = w := h.wallet.trans (congrArg Prod.snd hrun)
    refine ⟨[], [], ?_, ?_, .kept rfl hget
      (h.ends _ (congrArg (fun part => Progress.outcome? part.1) hrun))⟩
    · rw [PutsAt, queue, hwallet, hw]
    · rw [hwallet]
      exact ⟨rfl, rfl, rfl, rfl, rfl⟩

/-- A stage goes on with the second half: it puts no question, and the approvals are as they
were. -/
def ChoosesOn (run : Run) (n : Nat) (origin : String) (changeIdentity : Bool)
    (c : OriginMap ConnectedIdentity) (j t : Nat) : Prop :=
  run.PutsAt t [] ∧ (run.wallet (t + 1)).core.approvals = (run.wallet t).core.approvals ∧
    ∃ c' tried written, (run.wallet (t + 1)).core.connections = some c' ∧
      Wallet.Touches tried written (run.wallet t) (run.wallet (t + 1)) ∧
      run.Choosing n origin changeIdentity c j (t + 1) [choiceQuestion origin] c' tried written

/-- What is chosen is connected, if there is room. -/
theorem chooses_found {key : String} {k : Nat} {data : Json} {choice : IdentityChoice}
    {found : Identity} (horigin : origin ≠ "")
    (hkey : (run.wallet t).core.session.secret = some key)
    (hc : (run.wallet t).core.connections = some c) (hneeds : Needs changeIdentity origin c)
    (hkt : k < t) (haccepted : run.AcceptedWith k (run.channel j) data)
    (hdecode : Wallet.decodeData {} data = .ok choice)
    (hchosen : (run.wallet t).host.identities.chosen choice = .ok found)
    (hleads : run.Leads t n ((Wallet.choiceAnswered origin (.ok data)).mapError .ofConnect
      (on.settled (run.wallet t)))) : run.ChoosesOn n origin changeIdentity c j t := by
  rcases Wallet.settled_apart on (run.wallet t) with ⟨happart, _, hidentities⟩
  rcases Wallet.settled_shelves on (run.wallet t) with ⟨_, hshelf⟩
  have hslot : (on.settled (run.wallet t)).config.storageKeys.connections =
      run.config.storageKeys.connections := by rw [happart.config, run.config_eq]
  have hquiet := (Wallet.settled_quiet on (run.wallet t)).2
  rcases Wallet.choiceAnswered_room horigin (happart.session ▸ hkey) (happart.connections.trans hc)
    hdecode (hidentities ▸ hchosen) with
    ⟨hroom, s, v, hrun, hstill, hqueue, hs⟩ | ⟨hfull, s, hrun, hs, hkept⟩
  · rcases hleads.answers hrun with ⟨hwallet, hends⟩
    -- The window comes, the connections are written, and the page is told.
    have htouches := ((Wallet.Touches.of_apart happart).trans
      (Wallet.putConnections_touches s _)).trans (.of_apart hstill)
    rw [hslot] at htouches
    refine ⟨?_, ?_, _, _, _, ?_, ?_, .chosen hneeds hkt (Nat.lt_succ_self t) haccepted hdecode
      hchosen hkey (hshelf ▸ hroom) hends⟩
    · rw [PutsAt, queue, hwallet, hqueue, hquiet]
      rfl
    · rw [hwallet, hstill.approvals]
      exact happart.approvals
    · rw [hwallet, hstill.connections]
      exact hs
    · rw [hwallet]
      exact htouches
  · rcases hleads.fails hrun with ⟨hwallet, hends⟩
    have htouches := (Wallet.Touches.of_apart happart).trans (Wallet.putConnections_refused hkept)
    rw [hslot] at htouches
    refine ⟨?_, ?_, c, _, _, ?_, ?_, .failed hneeds (Nat.lt_succ_self t) hends
      (.full hkt haccepted hdecode hchosen hkey (hshelf ▸ hfull))⟩
    · rw [PutsAt, queue, hwallet]
      exact hquiet
    · rw [hwallet]
      exact happart.approvals
    · rw [hwallet]
      exact hs
    · rw [hwallet]
      exact htouches

/-- The second half goes on. -/
theorem chooses_on {key : String} (horigin : origin ≠ "")
    (hkey : (run.wallet t).core.session.secret = some key)
    (hc : (run.wallet t).core.connections = some c) (hneeds : Needs changeIdentity origin c)
    (hpends : run.Pends n j t (.identityChoice origin)) (hgoes : run.GoesOn t n on)
    (hprompt : ¬ run.FailsLate t n) : run.ChoosesOn n origin changeIdentity c j t := by
  -- Whatever goes wrong before the slot is tried leaves all as it is.
  have hfailed {e : Error} (h : run.PutsAt t [] ∧ (run.wallet t).Apart (run.wallet (t + 1)))
      (hends : run.Ends t n (.error (.ofConnect e))) (hwhy : run.Unchosen j t origin c e) :
      run.ChoosesOn n origin changeIdentity c j t :=
    ⟨h.1, h.2.approvals, c, _, _, h.2.connections.trans hc,
      (Wallet.Touches.of_apart h.2).mono (List.nil_subset _) (List.nil_subset _),
      .failed hneeds (Nat.lt_succ_self t) hends hwhy⟩
  rcases hpends.goesOn rfl hgoes hprompt with
    ⟨hstill, ⟨e, hends, hwhy⟩ | hwaits⟩ | ⟨id, k, data, hkt, haccepted, hleads⟩
  · exact hfailed hstill hends (.unaccepted hwhy)
  · exact ⟨hstill.1, hstill.2.approvals, c, [], [], hstill.2.connections.trans hc,
      .of_apart hstill.2, .pending hneeds hwaits⟩
  rcases hdecode : (Wallet.decodeData {} data : Except Error IdentityChoice) with e | choice
  · rcases hleads.fails (Wallet.choiceAnswered_malformed hdecode) with ⟨hwallet, hends⟩
    exact hfailed (settled_stage hwallet) hends (.malformed hkt haccepted hdecode)
  rcases hchosen : (run.wallet t).host.identities.chosen choice with e | found
  · have hthere : (on.settled (run.wallet t)).host.identities.chosen choice = .error e := by
      rw [(Wallet.settled_apart on _).2.2, hchosen]
    rcases hleads.fails (Wallet.choiceAnswered_unfound horigin hdecode hthere) with
      ⟨hwallet, hends⟩
    exact hfailed (settled_stage hwallet) hends (.unfound hkt haccepted hdecode hchosen)
  · exact chooses_found horigin hkey hc hneeds hkt haccepted hdecode hchosen hleads

/-- What the user has allowed is set down, if there is room, and the second half begins. -/
theorem approves_on {key : String} {k : Nat} {data : Json} {p : HostPermission}
    (horigin : origin ≠ "") (hkey : (run.wallet t).core.session.secret = some key)
    (hstands : run.Stands n t a c [] []) (habsent : a.get? origin = none)
    (hgoes : run.GoesOn t n on) (hkt : k < t) (haccepted : run.AcceptedWith k (run.channel n) data)
    (hdecode : Wallet.decodeData {} data = .ok p)
    (hleads : run.Leads t n ((Wallet.approvalAnswered origin changeIdentity (.ok data)).mapError
      .ofConnect (on.settled (run.wallet t)))) :
    ∃ more, run.PutsAt t more ∧
      run.Course n origin changeIdentity a c (t + 1) (approveQuestion origin :: more) := by
  rcases Wallet.settled_apart on (run.wallet t) with ⟨happart, _, _⟩
  have hshelf := (Wallet.settled_shelves on (run.wallet t)).1
  have hslot : (on.settled (run.wallet t)).config.storageKeys.approvals =
      run.config.storageKeys.approvals := by rw [happart.config, run.config_eq]
  have hquiet := (Wallet.settled_quiet on (run.wallet t)).2
  have hrun := Wallet.approvalAnswered_decoded origin changeIdentity hdecode
    (on.settled (run.wallet t))
  rcases Wallet.approve_room p horigin (happart.session ▸ hkey)
    (happart.approvals.trans hstands.approvals) habsent with
    ⟨hroom, s, happrove, hs⟩ | ⟨hfull, s, happrove, hs, hkept⟩
  · rw [Op.bind_ok happrove] at hrun
    rw [Op.mapError, hrun] at hleads
    -- The approval is written, and in the same stage the second half begins.
    rcases Leads.chooses hleads hquiet (happart.connections.trans hstands.connections)
      (fun cause hopen => Wallet.settled_opened hopen) with
      ⟨more, tried, hputs, hstill, hchoosing⟩
    have htouches := ((Wallet.Touches.of_apart happart).trans
      (Wallet.putApprovals_touches s _)).trans (.of_apart hstill)
    rw [hslot] at htouches
    refine ⟨more, hputs, .granted (Nat.lt_succ_self t)
      (.given habsent hgoes hkt haccepted hdecode hkey (hshelf ▸ hroom)) hchoosing
      ⟨?_, hstill.approvals.trans hs, ?_⟩⟩
    · exact (hstands.touches.trans htouches).mono (List.subset_append_left _ tried)
        (List.subset_append_left _ [])
    · exact hstill.connections.trans (happart.connections.trans hstands.connections)
  · rw [Op.bind_error happrove] at hrun
    rcases hleads.fails hrun with ⟨hwallet, hends⟩
    have htouches := (Wallet.Touches.of_apart happart).trans (Wallet.putApprovals_refused hkept)
    rw [hslot, ← hwallet] at htouches
    refine ⟨[], ?_, .denied habsent (Nat.lt_succ_self t) hends
      (.full hkt haccepted hdecode hkey (hshelf ▸ hfull)) (hstands.trans htouches ?_ ?_)⟩
    · rw [PutsAt, queue, hwallet]
      exact hquiet
    · rw [hwallet]
      exact hs
    · rw [hwallet]
      exact happart.connections.trans hstands.connections

/-- The first half goes on. -/
theorem seeks_on {key : String} (horigin : origin ≠ "")
    (hkey : (run.wallet t).core.session.secret = some key)
    (hstands : run.Stands n t a c [] []) (habsent : a.get? origin = none)
    (hpends : run.Pends n n t (.approval origin changeIdentity)) (hgoes : run.GoesOn t n on)
    (hprompt : ¬ run.FailsLate t n) : ∃ more, run.PutsAt t more ∧
      run.Course n origin changeIdentity a c (t + 1) (approveQuestion origin :: more) := by
  have hafter (h : (run.wallet t).Apart (run.wallet (t + 1))) : run.Stands n (t + 1) a c [] [] :=
    hstands.trans (.of_apart h) (h.approvals.trans hstands.approvals)
      (h.connections.trans hstands.connections)
  -- Whatever goes wrong before the slot is tried leaves all as it is.
  have hfailed {e : Error} (h : run.PutsAt t [] ∧ (run.wallet t).Apart (run.wallet (t + 1)))
      (hends : run.Ends t n (.error (.ofConnect e))) (hwhy : run.Denied n t origin a e) :
      ∃ more, run.PutsAt t more ∧
        run.Course n origin changeIdentity a c (t + 1) (approveQuestion origin :: more) :=
    ⟨[], h.1, .denied habsent (Nat.lt_succ_self t) hends hwhy (hafter h.2).of_untouched⟩
  rcases hpends.goesOn rfl hgoes hprompt with
    ⟨hstill, ⟨e, hends, hwhy⟩ | hwaits⟩ | ⟨id, k, data, hkt, haccepted, hleads⟩
  · exact hfailed hstill hends (.unaccepted hwhy)
  · exact ⟨[], hstill.1, .seeking habsent hwaits (hafter hstill.2)⟩
  rcases hdecode : (Wallet.decodeData {} data : Except Error HostPermission) with e | p
  · rcases hleads.fails (Wallet.approvalAnswered_malformed hdecode) with ⟨hwallet, hends⟩
    exact hfailed (settled_stage hwallet) hends (.malformed hkt haccepted hdecode)
  · exact approves_on horigin hkey hstands habsent hgoes hkt haccepted hdecode hleads

/-! ## The whole request -/

/-- The request begins. -/
theorem connect_begins {key : String}
    (hmove : run.move n = .call (.connect origin changeIdentity)) (horigin : origin ≠ "")
    (hkey : (run.wallet n).core.session.secret = some key)
    (ha : (run.wallet n).core.approvals = some a) (hc : (run.wallet n).core.connections = some c) :
    ∃ asked, run.PutsAt n asked ∧ run.Course n origin changeIdentity a c (n + 1) asked := by
  have hunlocked : (run.wallet n).core.session.isUnlocked = true := by
    rw [Session.isUnlocked, hkey]
    rfl
  have hleads := leads_call hmove
  have hconnect : Wallet.perform (.connect origin changeIdentity) (run.wallet n) =
      (Wallet.seekApproval origin changeIdentity).mapError .ofConnect (run.wallet n) :=
    Wallet.connect_unlocked horigin hunlocked ha hc changeIdentity
  rw [hconnect] at hleads
  -- Asking leaves the wallet as it is.
  have hbegun (happart : (run.wallet n).Apart (run.wallet (n + 1))) :
      run.Stands n (n + 1) a c [] [] :=
    ⟨.of_apart happart, happart.approvals.trans ha, happart.connections.trans hc⟩
  have happroved := Wallet.isApproved_of_get? ha origin
  -- A stranger is asked to be approved, a known page is led on to the choice of an identity.
  rcases hget : a.get? origin with _ | p
  · rw [hget] at happroved
    rw [Op.mapError, Wallet.seekApproval_unknown happroved] at hleads
    rcases Leads.asks (.approval origin changeIdentity) hleads rfl with
      ⟨hputs, happart, hpends | ⟨cause, hopens, hends⟩⟩
    · exact ⟨_, hputs, .seeking hget hpends (hbegun happart)⟩
    · have hnone := ((run.queue_sound n).blank (Nat.le_refl _)).2
      exact ⟨_, hputs, .denied hget (Nat.lt_succ_self n) hends
        (.unaccepted (.unseen hnone hopens)) (hbegun happart).of_untouched⟩
  · rw [hget] at happroved
    rw [Op.mapError, Wallet.seekApproval_known horigin happroved] at hleads
    rcases Leads.chooses hleads rfl hc (fun _ hopen => hopen) with
      ⟨more, tried, hputs, happart, hchoosing⟩
    exact ⟨_, hputs, .granted (Nat.lt_succ_self n) (.known (by rw [hget]; rfl)) hchoosing
      (hbegun happart).of_untouched⟩

/-- One stage of a connect request. -/
theorem Course.stage {key : String} (horigin : origin ≠ "")
    (hkey : (run.wallet n).core.session.secret = some key) (hquiet : (run.move t).Quiet n)
    (hprompt : ¬ run.FailsLate t n) (h : run.Course n origin changeIdentity a c t asked)
    (hput : run.HasPut n t asked) : ∃ asked', run.HasPut n (t + 1) asked' ∧
      run.Course n origin changeIdentity a c (t + 1) asked' := by
  by_cases hgoes : ∃ on, run.GoesOn t n on
  · rcases hgoes with ⟨on, hgoes⟩
    -- A request that has ended is not gone on with, which leaves the two places where it waits.
    have hover {u : Nat} {outcome : Outcome} (hut : u < t) (hends : run.Ends u n outcome) : False :=
      idle_of_ends hends hut on hgoes.waits
    have hsecret {a' c' tried written} (h : run.Stands n t a' c' tried written) :
        (run.wallet t).core.session.secret = some key := by rw [h.touches.session, hkey]
    cases h with
    | seeking habsent hpends hstands =>
        rcases seeks_on horigin (hsecret hstands) hstands habsent hpends hgoes hprompt with
          ⟨more, hputs, hafter⟩
        exact ⟨_, .goneOn hput hgoes hputs, hafter⟩
    | denied habsent hut hends hwhy hstands => exact (hover hut hends).elim
    | granted hjt hgranted hchoosing hstands =>
        cases hchoosing with
        | kept hchange hget hends => exact (hover hjt hends).elim
        | failed hneeds hut hends hwhy => exact (hover hut hends).elim
        | chosen hneeds hku hut haccepted h hchosen hkey hroom hends =>
            exact (hover hut hends).elim
        | pending hneeds hpends =>
            rcases chooses_on horigin (hsecret hstands) hstands.connections hneeds hpends hgoes
              hprompt with ⟨hputs, ha, c', tried, written, hc, htouches, hchoosing⟩
            have hafter := hstands.trans htouches (ha.trans hstands.approvals) hc
            rw [List.append_nil] at hafter
            refine ⟨_, .goneOn hput hgoes hputs, ?_⟩
            rw [List.append_nil]
            exact .granted (Nat.lt_succ_of_lt hjt) hgranted hchoosing hafter
  · have hrests : ∀ on, ¬ run.GoesOn t n on := fun on h => hgoes ⟨on, h⟩
    exact ⟨asked, .rested hput hrests, h.rests hquiet hrests⟩

section Whole

variable (hmove : run.move n = .call (.connect origin changeIdentity))
  (ha : (run.wallet n).core.approvals = some a) (hc : (run.wallet n).core.connections = some c)

include hmove ha hc

/-- A request without an origin is over at once. -/
theorem connect_refused (horigin : origin = "") (hnt : n < t)
    (hquiet : ∀ u, n < u → u < t → (run.move u).Quiet n) :
    run.Ends n n (.error (.ofConnect .originMissing)) ∧ run.wallet (n + 1) = run.wallet n ∧
      run.HasPut n t [] ∧ run.Stands n t a c [] [] := by
  have hrun : Wallet.startConnect origin changeIdentity (run.wallet n) =
      (.error .originMissing, run.wallet n) := by
    rw [Wallet.startConnect, if_pos horigin]
    rfl
  rcases Leads.fails (x := Wallet.startConnect origin changeIdentity) (leads_call hmove) hrun with
    ⟨hwallet, hends⟩
  refine ⟨hends, hwallet, ?_⟩
  -- Once the call is over nothing goes on for it, so the wallet stays where it was.
  induction hnt with
  | refl =>
      have happart : (run.wallet n).Apart (run.wallet (n + 1)) := by
        rw [hwallet]
        exact ⟨rfl, rfl, rfl, rfl, rfl⟩
      refine ⟨.called ?_, .of_apart happart, happart.approvals.trans ha,
        happart.connections.trans hc⟩
      rw [PutsAt, queue, hwallet]
      rfl
  | @step t hnt ih =>
      have hrests : ∀ on, ¬ run.GoesOn t n on := fun on hgoes =>
        idle_of_ends hends hnt on hgoes.waits
      rcases ih (fun u hnu hut => hquiet u hnu (Nat.lt_succ_of_lt hut)) with ⟨hput, hstands⟩
      exact ⟨.rested hput hrests, hstands.rests (hquiet t hnt (Nat.lt_succ_self t)) hrests⟩

/-- While nothing else goes on, a connect request takes its course. -/
theorem course {key : String} (horigin : origin ≠ "")
    (hkey : (run.wallet n).core.session.secret = some key) (hnt : n < t)
    (hquiet : ∀ u, n < u → u < t → (run.move u).Quiet n)
    (hprompt : ∀ u, n < u → u < t → ¬ run.FailsLate u n) :
    ∃ asked, run.HasPut n t asked ∧ run.Course n origin changeIdentity a c t asked := by
  induction hnt with
  | refl =>
      rcases connect_begins hmove horigin hkey ha hc with ⟨asked, hputs, hbegun⟩
      exact ⟨asked, .called hputs, hbegun⟩
  | @step t hnt ih =>
      rcases ih (fun u hnu hut => hquiet u hnu (Nat.lt_succ_of_lt hut))
        (fun u hnu hut => hprompt u hnu (Nat.lt_succ_of_lt hut)) with ⟨asked, hput, hcourse⟩
      exact hcourse.stage horigin hkey (hquiet t hnt (Nat.lt_succ_self t))
        (hprompt t hnt (Nat.lt_succ_self t)) hput

end Whole

/-- A connect request that has answered has connected its origin. -/
theorem Course.connected {answer : Answer}
    (h : run.Course n origin changeIdentity a c (u + 1) asked)
    (hends : run.Ends u n (.ok answer)) : ∃ connection, answer = .connection (some connection) ∧
      connection.origin = origin ∧ (run.wallet (u + 1)).connection? origin = some connection := by
  have hidle {j : Nat} {errand : Errand} (hpends : run.Pends n j (u + 1) errand) : False := by
    rcases hpends.waits with ⟨on, _, hwaits, _⟩
    exact idle_of_ends hends (Nat.lt_succ_self u) on hwaits
  have hfailed {k : Nat} {e : Error} (hfails : run.Ends k n (.error e)) : False := by
    cases (ends_once hends hfails).2
  -- Of all places there are two in which the request has ended with an answer.
  cases h with
  | seeking _ hpends _ => exact (hidle hpends).elim
  | denied _ _ hfails _ _ => exact (hfailed hfails).elim
  | granted _ _ hchoosing hstands =>
      have hconnection := Wallet.connection?_of_get? hstands.connections origin
      cases hchoosing with
      | pending _ hpends => exact (hidle hpends).elim
      | failed _ _ hfails _ => exact (hfailed hfails).elim
      | kept _ hget hanswers =>
          rw [hget] at hconnection
          rcases Except.ok.inj (ends_once hends hanswers).2
          exact ⟨_, rfl, rfl, hconnection⟩
      | chosen _ _ _ _ _ _ _ _ hanswers =>
          rw [OriginMap.get?_insert_self] at hconnection
          rcases Except.ok.inj (ends_once hends hanswers).2
          exact ⟨_, rfl, rfl, hconnection⟩

/-- What becomes of a connect request that is made with the session unlocked and both registries
loaded, while nothing else goes on and no window fails to come after its question was answered. -/
theorem connects_alone (hmove : run.move n = .call (.connect origin changeIdentity))
    (hunlocked : (run.wallet n).core.session.isUnlocked = true)
    (ha : (run.wallet n).core.approvals = some a) (hc : (run.wallet n).core.connections = some c)
    (hnt : n < t) (hquiet : ∀ u, n < u → u < t → (run.move u).Quiet n)
    (hprompt : ∀ u, n < u → u < t → ¬ run.FailsLate u n) :
    run.ConnectsAlone n t origin changeIdentity a c := by
  rcases Option.isSome_iff_exists.1 hunlocked with ⟨key, hkey⟩
  exact {
    refused := fun horigin => connect_refused hmove ha hc horigin hnt hquiet
    course := fun horigin => run.course hmove ha hc horigin hkey hnt hquiet hprompt
    connected := fun v answer hvt hends => by
      by_cases horigin : origin = ""
      · -- Without an origin there is no answer.
        have hrefused := (connect_refused hmove ha hc horigin hnt hquiet).1
        cases (ends_once hends hrefused).2
      · rcases run.course hmove ha hc horigin hkey (Nat.lt_succ_of_le (le_of_ends hends))
          (fun u hnu huv => hquiet u hnu (Nat.lt_of_lt_of_le huv hvt))
          (fun u hnu huv => hprompt u hnu (Nat.lt_of_lt_of_le huv hvt)) with ⟨asked, _, hcourse⟩
        exact hcourse.connected hends }

/-! ## Two requests -/

/-- An origin that nobody knows connects, and the user accepts what is asked. There may be no room
for approvals. -/
def stranger (full : Bool) : Run where
  move
    | 0 => .host (.insertIdentity
        { commitment := "111", name := "Account", serialized := "secret" })
    | 1 => .call (.setupPassword "password")
    | 2 => .host (.setQuota "keeper.approvals" (if full then some 0 else none))
    | 3 => .call (.connect "https://a.test" false)
    | 4 => .call (.finalize { id := 0, status := .accept, data := none })
    | 6 => .call (.finalize
        { id := 1, status := .accept, data := some (.obj [("commitment", .str "111")]) })
    | _ => .goOn 3

theorem stranger_begins (full : Bool) :
    ((stranger full).wallet 3).core.session.isUnlocked = true ∧
    ((stranger full).wallet 3).core.approvals = some .empty ∧
    ((stranger full).wallet 3).core.connections = some .empty := by
  rw [wallet, system_adopts_add (t := 1) (d := 1) rfl (by decide) rfl rfl rfl]
  exact ⟨rfl, rfl, rfl⟩

theorem stranger_quiet (full : Bool) (u : Nat) (h : 3 < u) :
    ((stranger full).move u).Quiet 3 := by
  rcases u with _ | _ | _ | _ | _ | _ | _ | u
  · exact absurd h (by decide)
  · exact absurd h (by decide)
  · exact absurd h (by decide)
  · exact absurd h (by decide)
  · exact .decision _
  · exact .goOn
  · exact .decision _
  · exact .goOn

theorem stranger_prompt (full : Bool) (d : Nat) (hd : d < if full then 4 else 6) :
    ¬ (stranger full).FailsLate (1 + 1 + d) 3 := by
  refine not_failsLate ?_ 3
  rw [wallet, system_adopts_add (t := 1) rfl (by decide) rfl rfl rfl]
  revert full d
  decide +kernel

/-- Where there is room, both questions are put and the origin is connected. -/
theorem connects_alone_stranger :
    ((stranger false).wallet 3).core.session.isUnlocked = true ∧
    (stranger false).ConnectsAlone 3 8 "https://a.test" false .empty .empty := by
  rcases stranger_begins false with ⟨hunlocked, ha, hc⟩
  refine ⟨hunlocked, connects_alone rfl hunlocked ha hc (by decide)
    (fun u hu _ => stranger_quiet false u hu) fun u hu hut => ?_⟩
  rcases Nat.exists_eq_add_of_le (Nat.le_of_lt (Nat.lt_of_succ_lt hu)) with ⟨d, rfl⟩
  exact stranger_prompt false d (by simp only [Bool.false_eq_true, if_false]; omega)

/-- Before the request goes on its question has been accepted, and there is no room. -/
theorem stranger_accepted : (stranger true).AcceptedWith 4 ((stranger true).channel 3) .null ∧
    (∃ on, (stranger true).GoesOn 5 3 on) ∧
    ((stranger true).wallet 5).approvalShelf.slot.quota = some 0 := by
  -- The question in the queue is the one that was put, so it is the one that is answered.
  have hfound : (((stranger true).queue 4).find? 0).map (·.channel) =
      some ((stranger true).channel 3) := by
    rw [channel, queue, queue, wallet, wallet,
      system_adopts_add (t := 1) (d := 2) rfl (by decide) rfl rfl rfl,
      system_adopts_add (t := 1) (d := 1) rfl (by decide) rfl rfl rfl]
    decide +kernel
  have hready : (((stranger true).system 5).waiting? 3).map
      (·.isReady ((stranger true).wallet 5)) = some true := by
    rw [wallet, system_adopts_add (t := 1) (d := 3) rfl (by decide) rfl rfl rfl]
    decide +kernel
  have hfull : ((stranger true).wallet 5).approvalShelf.slot.quota = some 0 := by
    rw [wallet, system_adopts_add (t := 1) (d := 3) rfl (by decide) rfl rfl rfl]
    decide +kernel
  refine ⟨?_, ?_, hfull⟩
  · have hmove : (stranger true).move 4 =
        .call (.finalize { id := 0, status := .accept, data := none }) := rfl
    rcases finalize_cases hmove with ⟨entry, hfind, hdecides, _⟩ | ⟨hnone, _⟩
    · rw [hfind] at hfound
      rw [← Option.some.inj hfound]
      exact ⟨_, hdecides, rfl, rfl⟩
    · rw [hnone] at hfound
      cases hfound
  · rcases Option.map_eq_some_iff.1 hready with ⟨on, hwaits, hover⟩
    exact ⟨on, rfl, hwaits, hover⟩

/-- If there is no room for the approval, the request ends there although it was accepted. So it is
not true that the user is asked for an identity whenever an origin without a connection was
accepted. -/
theorem approvalUnstored_unasked : ¬ ∀ (run : Run) (n t k u : Nat) (on : Waiting) (origin : String)
    (changeIdentity : Bool) (a : OriginMap HostPermission) (c : OriginMap ConnectedIdentity)
    (data : Json) (p : HostPermission),
    run.move n = .call (.connect origin changeIdentity) →
    (run.wallet n).core.session.isUnlocked = true → (run.wallet n).core.approvals = some a →
    (run.wallet n).core.connections = some c → (∀ v, n < v → v < t → (run.move v).Quiet n) →
    (∀ v, n < v → v < t → ¬ run.FailsLate v n) → a.get? origin = none →
    run.AcceptedWith k (run.channel n) data → Wallet.decodeData {} data = .ok p → k < u → u < t →
    run.GoesOn u n on → Needs changeIdentity origin c →
    run.HasPut n t [approveQuestion origin, choiceQuestion origin] := by
  intro hall
  rcases stranger_begins true with ⟨hunlocked, ha, hc⟩
  rcases stranger_accepted with ⟨haccepted, ⟨on, hgoes⟩, hfull⟩
  have hquiet (v : Nat) (hv : 3 < v) (_ : v < 6) : ((stranger true).move v).Quiet 3 :=
    stranger_quiet true v hv
  have hprompt (v : Nat) (hv : 3 < v) (hvt : v < 6) : ¬ (stranger true).FailsLate v 3 := by
    rcases Nat.exists_eq_add_of_le (Nat.le_of_lt (Nat.lt_of_succ_lt hv)) with ⟨d, rfl⟩
    exact stranger_prompt true d (by simp only [if_true]; omega)
  have hput := hall (stranger true) 3 6 4 5 on "https://a.test" false .empty .empty .null {} rfl
    hunlocked ha hc hquiet hprompt rfl haccepted rfl (by decide) (by decide) hgoes (.inr rfl)
  rcases Option.isSome_iff_exists.1 hunlocked with ⟨key, hkey⟩
  rcases (stranger true).course rfl ha hc (by decide) hkey (by decide) hquiet hprompt with
    ⟨asked, hput', hcourse⟩
  have hlength := hput.length_unique hput'
  cases hcourse with
  | seeking => cases hlength
  | denied => cases hlength
  | @granted j _ _ _ _ _ _ _ hjt hgranted =>
      cases hgranted with
      | known hknown => cases hknown
      | given _ hgoes' _ _ _ _ hroom =>
          -- The request goes on in this one stage, and then there is no room.
          have hj : j = 5 := by
            have hmove := hgoes'.move
            have hnj := lt_of_waits hgoes'.waits
            rcases Nat.lt_or_ge j 5 with hlt | hge
            · rcases Nat.le_antisymm (Nat.le_of_lt_succ hlt) hnj
              cases hmove
            · exact Nat.le_antisymm (Nat.le_of_lt_succ hjt) hge
          rw [hj] at hroom
          exact Shelf.not_hasRoom _ _ _ hfull hroom

end Run

end WalletTrust

import WalletTrust.Proofs.Answers

/-!
# Uses of an Identity Need Consent

What stands behind every use of an identity.

An identity is used when its serialized form reaches a prover or an isolated context in a job, and
when its commitment is told to a page. A use belongs to the call in a part of which it happens. If
that is the first part, the call is a proof request of an origin that skips the confirmation. If it
is a later part, the call has put a question, and the user has accepted it before that part.

A call keeps what it will use in its errand from the moment at which it puts the question. So what
was shown is what is used, whatever becomes of the connections and approvals in the meantime.

The one call that uses an identity without either is the one that hands over a finished job. It is
for whoever has prepared the job, and stands outside of these statements.

An acceptance is good for one use. That is shown by following the channel: it belongs to one
question of one call, the call looks at its answer once, and it ends with the part in which it has
used it.

## Main definitions

* `Run.UsesAt`: A stage uses an identity.
* `Run.Agrees`: The user accepts a question.
* `Run.Consented`: What stands behind a use.
* `Run.ConsentGiven`: Every use is consented to, and an acceptance is good for one.

## Theorems

* `Run.use_cases`: Where a use comes from.
* `Run.agreed_of_answer`: An acceptance on a channel is one of the question that was put on it.
* `Run.consented_of_use`: What stands behind a use, in the call that it belongs to.
* `Run.consent_given`: What holds of every run.
* `Run.asks_of_use`, `Run.agreedBefore_of_use`: A use after a wait follows an acceptance of the
  question that the call has put.
* `Run.ends_of_use`: A call in a later part of which an identity is used has ended with that part.
* `Run.channel_inj`: Calls have channels of their own.
-/

namespace WalletTrust

namespace Run

variable {run : Run} {t u k n m : Nat} {use : Use} {q : Question}

/-- A stage uses an identity. -/
def UsesAt (run : Run) (t : Nat) (use : Use) : Prop :=
  (run.wallet (t + 1)).uses = (run.wallet t).uses ++ [use]

/-- The user accepts a question of some kind that was shown with a payload. -/
def Agrees (run : Run) (k c : Nat) (kind : RequestKind) (payload : Json) : Prop :=
  ∃ request entry, run.Decides k c request ∧ request.status = .accept ∧
    (run.queue k).find? request.id = some entry ∧ entry.channel = c ∧ entry.kind = kind ∧
    entry.payload = payload

/-- The user accepts the question that a call has put, after the call and before a stage. -/
def AgreedBefore (run : Run) (t n : Nat) (kind : RequestKind) (payload : Json) : Prop :=
  (∃ on, run.GoesOn t n on) ∧ ∃ k, n < k ∧ k < t ∧ run.Agrees k (run.channel n) kind payload

/-- What stands behind a use in a part of a call. A job was assembled by the call, and the origin
skipped the confirmation then or the user has accepted the job as it is without the identity. A
commitment was that of the connection of the origin when the call was made, and the user has
accepted to reveal it under the name that it had then. -/
def Consented (run : Run) (t n : Nat) : Use → Prop
  | .job job => ∃ request, run.move n = .call (.generate request job.origin) ∧
      (run.wallet n).assembled? request job.origin = some job ∧
      ((n = t ∧ (run.wallet n).canSkipApprove job.origin = true) ∨
        run.AgreedBefore t n job.kind.requestKind job.withoutIdentity.preparedJson)
  | .reveal origin commitment => run.move n = .call (.reveal origin) ∧
      ∃ name, (run.wallet n).connection? origin = some { origin, commitment, name } ∧
        run.AgreedBefore t n .revealCommitment
          (.obj [("origin", toJson origin), ("name", toJson name)])

/-- What there is to say about the uses in a run. -/
structure ConsentGiven (run : Run) : Prop where
  /-- A stage leaves the uses as they are or adds one. -/
  staged : ∀ t, (run.wallet (t + 1)).uses = (run.wallet t).uses ∨ ∃ use, run.UsesAt t use
  /-- A use is consented to, unless it is that of a finished job that was handed over. -/
  agreed : ∀ t use, run.UsesAt t use →
    (∃ job, run.move t = .call (.dispatch job) ∧ use = .job job) ∨ ∃ n, run.Consented t n use
  /-- A question accounts for one use at most. -/
  once : ∀ t u n m use other on on', run.UsesAt t use → run.UsesAt u other →
    run.GoesOn t n on → run.GoesOn u m on' → run.channel n = run.channel m → t = u ∧ use = other
  /-- A question that leaves the queue without being accepted accounts for no use. -/
  refused : ∀ n k, run.InQueue k (run.channel n) → ¬ run.InQueue (k + 1) (run.channel n) →
    (∀ kind payload, ¬ run.Agrees k (run.channel n) kind payload) →
    ∀ t on use, run.GoesOn t n on → ¬ run.UsesAt t use

/-! ## Where uses come from -/

/-- A job that was assembled is one of the request, for its origin. -/
theorem origin_of_assembled {w : Wallet} {request : ProofRequest} {origin : String} {job : ProofJob}
    (h : w.assembled? request origin = some job) : job.origin = origin := by
  have hyields : Op.Yields (fun job => job.origin = origin) (Wallet.assemble request origin) := by
    refine .ite ?_ ?_
    · exact .fail _
    · refine .bind fun _ => ?_
      refine .bind fun _ => ?_
      refine .bind fun _ => ?_
      refine .bind fun _ => ?_
      refine .bind fun w => ?_
      refine .bind fun _ => ?_
      refine .pure ?_
      cases request with
      | semaphore request => rfl
      | rln request => rfl
  exact hyields w job w (Wallet.assembled?_eq_some h)

/-- A use comes from a call that dispatches a job at once, or from going on after an acceptance. -/
theorem use_cases (h : run.UsesAt t use) :
    (∃ call job, run.move t = .call call ∧ (run.wallet t).dispatched? call = some job ∧
      use = .job job) ∨
    ∃ n on id channel errand data, run.GoesOn t n on ∧ on.asked? = some (id, channel, errand) ∧
      errand.use? = some use ∧ (run.queue t).answer? channel = some (.ok data) := by
  have hone {other : Use}
      (hother : (run.wallet (t + 1)).uses = (run.wallet t).uses ++ [other]) : other = use :=
    List.singleton_inj.1 (List.append_cancel_left (hother.symm.trans h))
  rcases run.uses_stage t with hnone | ⟨call, job, hmove, hdispatched, huses⟩ |
    ⟨n, on, id, channel, errand, other, data, hgoes, hasked, huse, hanswer, huses⟩
  · cases List.append_right_eq_self.1 (h.symm.trans hnone)
  · exact .inl ⟨call, job, hmove, hdispatched, (hone huses).symm⟩
  · rcases hone huses
    exact .inr ⟨n, on, id, channel, errand, data, hgoes, hasked, huse, hanswer⟩

/-- A use after a wait is for the errand of the question that the call has put. -/
theorem asks_of_use (hgoes : ∃ on, run.GoesOn t n on) (h : run.UsesAt t use) :
    ∃ q data, run.Asks n q ∧ q.errand.use? = some use ∧
      (run.queue t).answer? (run.channel n) = some (.ok data) := by
  rcases hgoes with ⟨on, hgoes⟩
  rcases use_cases h with ⟨call, job, hmove, _⟩ |
    ⟨n', on', id, channel, errand, data, hgoes', hasked, huse, hanswer⟩
  · cases hgoes.move.symm.trans hmove
  · rcases goesOn_unique hgoes hgoes' with ⟨rfl, rfl⟩
    rcases rooted hgoes.waits with ⟨_, _, _, hlinks⟩ | ⟨q, hasks, hsame⟩ | ⟨_, rfl⟩
    · -- A connect request has errands of its own, and they use no identity.
      have hfor := (Waiting.links_iff hasked).1 hlinks
      cases errand with
      | approval => cases huse
      | identityChoice => cases huse
      | _ => exact hfor.elim
    · have hown := Option.some.inj (hasked.symm.trans hsame)
      rcases Prod.mk.inj hown with ⟨_, hown⟩
      rcases Prod.mk.inj hown with ⟨rfl, rfl⟩
      exact ⟨q, data, hasks, huse, hanswer⟩
    · cases hasked

/-- A call in a later part of which an identity is used has ended with that part. -/
theorem ends_of_use {on : Waiting} (hgoes : run.GoesOn t n on) (h : run.UsesAt t use) :
    ∃ outcome, run.Ends t n outcome := by
  rcases asks_of_use ⟨on, hgoes⟩ h with ⟨q, data, hasks, _, hanswer⟩
  have hasked := asked_of_waits hasks hgoes.waits
  rcases hp : Wallet.resume on (run.wallet t) with ⟨result, v⟩
  -- It could wait on only for its answer, and that is there.
  rcases result with e | answer | next
  · exact ⟨_, ends_of_goesOn hgoes (by rw [hp]; rfl)⟩
  · exact ⟨_, ends_of_goesOn hgoes (by rw [hp]; rfl)⟩
  · rcases Wallet.resume_waiting hp with
      ⟨origin, hlinks, _⟩ | ⟨_, _, _, hsame, hnone, _⟩ | ⟨rfl, _⟩
    · rcases hasks with ⟨call, _, hq⟩
      exact absurd (Errand.connects_iff.2 ⟨origin, (Waiting.links_iff hasked).1 hlinks⟩)
        (Wallet.question_connects hq)
    · rcases Option.some.inj (hasked.symm.trans hsame)
      cases hanswer.symm.trans hnone
    · cases hasked

/-! ## Acceptances -/

/-- An acceptance on the channel of a call is one of the question that the call has put. -/
theorem agreed_of_answer {data : Json} (hasks : run.Asks n q) (hnt : n < t)
    (h : (run.queue t).answer? (run.channel n) = some (.ok data)) :
    ∃ k, n < k ∧ k < t ∧ run.Agrees k (run.channel n) q.kind q.payload := by
  rcases asks_stage hasks with ⟨hc, hnone, _⟩
  rcases answer_origin hc hnone hnt h with ⟨k, hnk, hkt, hin, hleaves⟩
  rcases hleaves.accepted with ⟨request, entry, hdecides, haccept, _, hfind, hentry⟩
  rcases entry_of_asks hasks hnk hentry
  exact ⟨k, hnk, hkt, request, _, hdecides, haccept, hfind, rfl, rfl, rfl⟩

/-- A use after a wait follows an acceptance of the question that the call has put. -/
theorem agreedBefore_of_use {on : Waiting} (hgoes : run.GoesOn t n on) (h : run.UsesAt t use) :
    ∃ q, run.Asks n q ∧ q.errand.use? = some use ∧ run.AgreedBefore t n q.kind q.payload := by
  rcases asks_of_use ⟨on, hgoes⟩ h with ⟨q, data, hasks, huse, hanswer⟩
  exact ⟨q, hasks, huse, ⟨on, hgoes⟩, agreed_of_answer hasks (lt_of_waits hgoes.waits) hanswer⟩

/-- A use after a wait is consented to. -/
theorem consented_of_goesOn {on : Waiting} (hgoes : run.GoesOn t n on) (h : run.UsesAt t use) :
    run.Consented t n use := by
  rcases agreedBefore_of_use hgoes h with ⟨q, ⟨call, hmove, hq⟩, huse, hagreed⟩
  -- Of the questions only those for a commitment and for a proof use an identity.
  cases call with
  | submit kind payload =>
      rcases Option.some.inj hq
      cases huse
  | ask kind payload =>
      rcases Option.some.inj hq
      cases huse
  | reveal origin =>
      rcases Option.map_eq_some_iff.1 hq with ⟨connection, hconnection, rfl⟩
      rcases Option.some.inj huse
      have horigin : connection.origin = origin := by
        rcases Option.map_eq_some_iff.1 hconnection with ⟨_, _, hof⟩
        rw [← hof]
        rfl
      refine ⟨hmove, connection.name, ?_, hagreed⟩
      rw [hconnection, ← horigin]
  | prepare request origin =>
      rcases Wallet.proofQuestion?_eq_some hq with ⟨_, job, _, rfl⟩
      cases huse
  | generate request origin =>
      rcases Wallet.proofQuestion?_eq_some hq with ⟨_, job, hjob, rfl⟩
      rcases Option.some.inj huse
      rcases origin_of_assembled hjob
      exact ⟨request, hmove, hjob, .inr hagreed⟩
  | _ => cases hq

/-- A use is that of a finished job that was handed over, or it is consented to in a part of the
call that it belongs to. -/
theorem consented_of_use (h : run.UsesAt t use) :
    (∃ job, run.move t = .call (.dispatch job) ∧ use = .job job) ∨
    ∃ n, (n = t ∨ ∃ on, run.GoesOn t n on) ∧ run.Consented t n use := by
  -- It is used while the call is made, without a question, or when the answer is there.
  rcases use_cases h with ⟨call, job, hmove, hdispatched, rfl⟩ | ⟨n, on, _, _, _, _, hgoes, _⟩
  · cases call with
    | generate request origin =>
        rw [Wallet.dispatched?] at hdispatched
        split at hdispatched
        · next hskip =>
          rcases origin_of_assembled hdispatched
          exact .inr ⟨t, .inl rfl, request, hmove, hdispatched, .inl ⟨rfl, hskip⟩⟩
        · cases hdispatched
    | dispatch job' =>
        rcases Option.some.inj hdispatched
        exact .inl ⟨job, hmove, rfl⟩
    | _ => cases hdispatched
  · exact .inr ⟨n, .inr ⟨on, hgoes⟩, consented_of_goesOn hgoes h⟩

/-! ## The whole run -/

/-- Calls have channels of their own. -/
theorem channel_inj {q' : Question} (hasks : run.Asks n q) (hasks' : run.Asks m q')
    (h : run.channel n = run.channel m) : n = m := by
  have hnot {a b : Nat} {p : Question} (ha : run.Asks a p) (hsame : run.channel a = run.channel b) :
      ¬ a < b := fun hab => by
    -- The counter of channels has passed that of the earlier call.
    have hlt := Nat.lt_of_lt_of_le (asks_stage ha).1 (run.nextChannel_mono hab)
    exact absurd hsame (Nat.ne_of_lt hlt)
  rcases Nat.lt_trichotomy n m with hlt | hsame | hlt
  · exact absurd hlt (hnot hasks h)
  · exact hsame
  · exact absurd hlt (hnot hasks' h.symm)

/-- Every use is consented to, and no acceptance is good for two. -/
theorem consent_given (run : Run) : run.ConsentGiven where
  staged := fun t => by
    rcases run.uses_stage t with hnone | ⟨_, _, _, _, huses⟩ |
      ⟨_, _, _, _, _, _, _, _, _, _, _, huses⟩
    · exact .inl hnone
    · exact .inr ⟨_, huses⟩
    · exact .inr ⟨_, huses⟩
  agreed := fun t use h => by
    rcases consented_of_use h with hraw | ⟨n, _, hconsented⟩
    · exact .inl hraw
    · exact .inr ⟨n, hconsented⟩
  once := fun t u n m use other on on' h h' hgoes hgoes' hsame => by
    rcases agreedBefore_of_use hgoes h with ⟨q, hasks, _⟩
    rcases agreedBefore_of_use hgoes' h' with ⟨q', hasks', _⟩
    rcases channel_inj hasks hasks' hsame
    -- Both uses end the same call, so they are in the same stage.
    rcases ends_of_use hgoes h with ⟨_, hends⟩
    rcases ends_of_use hgoes' h' with ⟨_, hends'⟩
    rcases (ends_once hends hends').1
    exact ⟨rfl, List.singleton_inj.1 (List.append_cancel_left (h.symm.trans h'))⟩
  refused := fun n k hin hout hnever t on use hgoes h => by
    rcases agreedBefore_of_use hgoes h with ⟨q, _, _, _, k', _, _, hagrees⟩
    have hagrees' := hagrees
    rcases hagrees with ⟨request, _, hdecides, _⟩
    rcases left_once hin hout hdecides.inQueue (hdecides.answered (Nat.lt_succ_self k')).1
    exact hnever _ _ hagrees'

end Run

end WalletTrust

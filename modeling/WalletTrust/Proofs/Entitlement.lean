import WalletTrust.Proofs.Adopting
import WalletTrust.Proofs.Consent

/-!
# Uses of an Identity and the Trust Behind Them

Whether the trust that a use of an identity rests on is still there when the identity is used.

An origin is entitled to an identity while the session is unlocked and the origin is connected to
it. Whoever puts a question that may lead to a use was entitled when it put it. The user may take
any time to answer, and in the meantime the session may be locked, or the origin disconnected or
connected to another identity. The answer is not checked against that. What was captured with the
question is used, and the trust in it may be stale by then.

`Run.Lapsed` says when it is: something has withdrawn the trust since the question was put, and
nothing has restored it. `Run.entitled_unless_lapsed` says that nothing else makes a use stale, and
the run `lockedMeanwhile` shows that a lock does.

Both directions come from one fact about stages. A stage that spares an origin and its identity
leaves the origin entitled if it was, and which stages spare whom is known from `Routine`. So
wherever the trust is gone at the end, there was a last stage after which it was gone for good, and
that stage has withdrawn it.

## Main definitions

* `Run.Concerns`: The origin and the commitment that a use is about.
* `Run.Lapsed`: The trust in an origin was withdrawn and not restored.

## Theorems

* `Run.entitled_of_connection`: A connected origin is entitled.
* `Run.entitled_iff`: Who was entitled still is unless that has lapsed.
* `Run.entitled_unless_lapsed`: A use is stale exactly if the trust behind it has lapsed.
* `Run.lockedMeanwhile_stale`: A commitment is revealed while the session is locked.
* `Run.entitled_of_consented`: A use that was consented to is for an origin that was entitled when
  the call was made.
* `Run.identity_of_assembled`, `Run.connection_of_identity`: The identity of a job is that of the
  connection.
* `Run.entitled_unless_lapsed_lockedMeanwhile`: What makes it stale is that the trust has lapsed.
-/

namespace WalletTrust

/-- The origin and the commitment that a use tells. -/
def Use.told? : Use → Option (String × String)
  | .reveal origin commitment => some (origin, commitment)
  | .job _ => none

namespace Run

variable {run : Run} {n i t : Nat} {o c : String} {use : Use}

/-- A use by call `n` is about an origin and the identity with a commitment. A job carries the
serialized form that the identity had when the call was made. -/
def Concerns (run : Run) (n : Nat) (o c : String) : Use → Prop
  | .job job => o = job.origin ∧ ∃ identity,
      (run.wallet n).host.identities.lookup c = .ok (some identity) ∧
      job.identity = some identity.serialized
  | .reveal origin commitment => o = origin ∧ c = commitment

/-- Between two stages, something has withdrawn the trust in an origin, and nothing after it has
restored that. -/
def Lapsed (run : Run) (n i : Nat) (o c : String) : Prop :=
  ∃ k, n ≤ k ∧ k < i ∧ (run.wallet k).Entitled o c ∧ ¬ run.Spares k o c ∧
    ∀ m, k < m → m ≤ i → ¬ (run.wallet m).Entitled o c

/-! ## Entitlement over time -/

/-- A connected origin is entitled to the identity that it is connected to. -/
theorem entitled_of_connection {connection : Connection}
    (h : (run.wallet n).connection? o = some connection) :
    (run.wallet n).Entitled o connection.commitment := by
  refine ⟨run.guarded n ?_, by rw [h]; rfl⟩
  cases hloaded : (run.wallet n).core.connections with
  | some map => rfl
  | none =>
      rw [Wallet.connection?, hloaded] at h
      cases h

/-- Who was entitled still is, unless that has lapsed. -/
theorem entitled_iff (hni : n ≤ i) (h : (run.wallet n).Entitled o c) :
    (run.wallet i).Entitled o c ↔ ¬ run.Lapsed n i o c := by
  constructor
  · rintro hnow ⟨k, _, hki, _, _, hnever⟩
    exact hnever i hki (Nat.le_refl i) hnow
  · intro hkept
    -- The last loss is looked for, going back from the stage in question.
    induction hni with
    | refl => exact h
    | @step i hni ih =>
        by_cases hnow : (run.wallet (i + 1)).Entitled o c
        · exact hnow
        · refine (hkept ?_).elim
          by_cases hbefore : (run.wallet i).Entitled o c
          · -- The trust was lost in the last stage, so that stage has withdrawn it.
            refine ⟨i, hni, Nat.lt_succ_self i, hbefore, fun hspares => ?_, fun m him hmi => ?_⟩
            · exact hnow ((run.keeps_stage i).entitled o c hspares hbefore)
            · rwa [Nat.le_antisymm hmi him]
          · -- It was lost earlier, and the last stage has not restored it.
            have hlapsed : run.Lapsed n i o c := by
              by_contra hnot
              exact hbefore (ih hnot)
            rcases hlapsed with ⟨k, hnk, hki, hthen, hwithdraws, hnever⟩
            refine ⟨k, hnk, Nat.lt_succ_of_lt hki, hthen, hwithdraws, fun m hkm hmi => ?_⟩
            rcases Nat.lt_or_eq_of_le hmi with hlt | rfl
            · exact hnever m hkm (Nat.le_of_lt_succ hlt)
            · exact hnow

/-! ## Uses -/

theorem identity_job (request : ProofRequest) (source : MerkleSource) (identity : Option String)
    (artifacts : ArtifactPaths) (origin : String) :
    (request.job source identity artifacts origin).identity = identity := by
  cases request with
  | semaphore request => rfl
  | rln request => rfl

/-- The identity of an origin is the one that its connection names. -/
theorem connection_of_identity {w v : Wallet} {origin : String} {identity : Identity}
    (h : Wallet.connectedIdentity origin w = (.ok (some identity), v)) :
    ∃ connection, w.connection? origin = some connection ∧
      w.host.identities.lookup connection.commitment = .ok (some identity) := by
  rw [Wallet.connectedIdentity, Op.bind_ok (x := Op.get) rfl] at h
  rcases hconnection : w.connection? origin with _ | connection
  · rw [hconnection] at h
    cases congrArg Prod.fst h
  · rw [hconnection] at h
    exact ⟨connection, rfl, congrArg Prod.fst h⟩

/-- A job that was assembled carries the identity that its origin is connected to. -/
theorem identity_of_assembled {w : Wallet} {request : ProofRequest} {origin : String}
    {job : ProofJob} (h : w.assembled? request origin = some job) :
    ∃ connection identity, w.connection? origin = some connection ∧
      w.host.identities.lookup connection.commitment = .ok (some identity) ∧
      job.identity = some identity.serialized := by
  have hassemble := Wallet.assembled?_eq_some h
  rw [Wallet.assemble] at hassemble
  split at hassemble
  · cases hassemble
  · rcases Op.bind_cases hassemble with ⟨found, t, hfound, hrest⟩
    cases found with
    | none => cases hrest
    | some identity =>
        rcases connection_of_identity hfound with ⟨connection, hconnection, hlookup⟩
        rw [Op.ofOption, Op.bind_ok (Op.pure_apply identity t)] at hrest
        refine ⟨connection, identity, hconnection, hlookup, ?_⟩
        -- Nothing else that is checked goes into the identity of the job.
        refine Op.Yields.bind (P := fun job => job.identity = some identity.serialized)
          (fun _ => ?_) t job w hrest
        refine .bind fun _ => ?_
        refine .bind fun _ => ?_
        refine .bind fun _ => ?_
        exact .pure (identity_job _ _ _ _ _)

/-- A use that was consented to is for an origin that was entitled when the call was made. -/
theorem entitled_of_consented (h : run.Consented t n use) :
    ∃ o c, run.Concerns n o c use ∧ (run.wallet n).Entitled o c := by
  cases use with
  | job job =>
      rcases h with ⟨request, _, hassembled, _⟩
      rcases identity_of_assembled hassembled with
        ⟨connection, identity, hconnection, hlookup, hidentity⟩
      exact ⟨job.origin, connection.commitment, ⟨rfl, identity, hlookup, hidentity⟩,
        entitled_of_connection hconnection⟩
  | reveal origin commitment =>
      rcases h with ⟨_, name, hconnection, _⟩
      exact ⟨origin, commitment, ⟨rfl, rfl⟩, entitled_of_connection hconnection⟩

/-- A use is that of a finished job that was handed over, or its origin was entitled when the call
was made and still is, unless that has lapsed. -/
theorem entitled_unless_lapsed (h : run.UsesAt i use) :
    (∃ job, run.move i = .call (.dispatch job) ∧ use = .job job) ∨
    ∃ n o c, (n = i ∨ ∃ on, run.GoesOn i n on) ∧ run.Concerns n o c use ∧
      (run.wallet n).Entitled o c ∧
      ((run.wallet i).Entitled o c ↔ ¬ run.Lapsed n i o c) := by
  rcases consented_of_use h with hraw | ⟨n, hpart, hconsented⟩
  · exact .inl hraw
  · rcases entitled_of_consented hconsented with ⟨o, c, hconcerns, hentitled⟩
    have hni : n ≤ i := by
      rcases hpart with rfl | ⟨on, hgoes⟩
      · exact Nat.le_refl n
      · exact Nat.le_of_lt (lt_of_waits hgoes.waits)
    exact .inr ⟨n, o, c, hpart, hconcerns, hentitled, entitled_iff hni hentitled⟩

/-! ## A lock in the meantime -/

/-- An origin is connected and asks for the commitment. The session is locked, then the user
accepts, and the request goes on. -/
def lockedMeanwhile : Run where
  move
    | 0 => .host (.insertIdentity
        { commitment := "111", name := "Account", serialized := "secret" })
    | 1 => .call (.setupPassword "password")
    | 2 => .call (.connectIdentity "111" "https://a.test")
    | 3 => .call (.reveal "https://a.test")
    | 4 => .call .logout
    | 5 => .call (.finalize { id := 0, status := .accept })
    | n => .goOn (n - 3)

/-- The system once the password is set up, without trying it on its verifier. -/
def adopted : System :=
  (System.run 1 (Wallet.finish .flag (Wallet.adopt "password")) (lockedMeanwhile.system 1)).2

/-- Nothing that the run does after that looks into a sealed text, so it can be computed. -/
theorem lockedMeanwhile_after (d : Nat) :
    lockedMeanwhile.wallet (2 + d) = (lockedMeanwhile.after 2 adopted d).wallet :=
  congrArg System.wallet (system_adopts_add rfl (by decide) (by decide +kernel) (by decide +kernel)
    (by decide +kernel) d)

theorem lockedMeanwhile_locked : (lockedMeanwhile.wallet 6).core.session.isUnlocked = false := by
  rw [lockedMeanwhile_after 4]
  decide +kernel

theorem lockedMeanwhile_usesAt : lockedMeanwhile.UsesAt 6 (.reveal "https://a.test" "111") := by
  have hbefore : (lockedMeanwhile.after 2 adopted 4).wallet.uses.map Use.told? = [] := by
    decide +kernel
  have hafter : (lockedMeanwhile.after 2 adopted 5).wallet.uses.map Use.told? =
      [some ("https://a.test", "111")] := by decide +kernel
  -- Uses as such cannot be compared, so they are compared by what they tell.
  rw [UsesAt, lockedMeanwhile_after 5, lockedMeanwhile_after 4, List.map_eq_nil_iff.1 hbefore]
  rcases List.map_eq_singleton_iff.1 hafter with ⟨use, huses, htold⟩
  cases use with
  | job job => cases htold
  | reveal origin commitment =>
      rcases Option.some.inj htold
      exact huses

/-- The commitment is revealed while the session is locked. -/
theorem lockedMeanwhile_stale :
    lockedMeanwhile.UsesAt 6 (.reveal "https://a.test" "111") ∧
      ¬ (lockedMeanwhile.wallet 6).Entitled "https://a.test" "111" := by
  refine ⟨lockedMeanwhile_usesAt, fun hentitled => ?_⟩
  cases lockedMeanwhile_locked.symm.trans hentitled.1

/-- What makes it stale is that the trust has lapsed. -/
theorem entitled_unless_lapsed_lockedMeanwhile :
    lockedMeanwhile.UsesAt 6 (.reveal "https://a.test" "111") ∧
      ∃ n, lockedMeanwhile.Lapsed n 6 "https://a.test" "111" := by
  refine ⟨lockedMeanwhile_usesAt, ?_⟩
  rcases entitled_unless_lapsed lockedMeanwhile_usesAt with
    ⟨_, _, hjob⟩ | ⟨n, o, c, _, ⟨rfl, rfl⟩, _, hiff⟩
  · cases hjob
  · refine ⟨n, Classical.not_not.1 fun hkept => ?_⟩
    cases lockedMeanwhile_locked.symm.trans (hiff.2 hkept).1

end Run

end WalletTrust

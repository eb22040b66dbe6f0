import WalletTrust.Request.Queue
import Mathlib.Data.List.Nodup

/-!
# Questions in a Queue

What each change of the queue does on one channel.

The queue is changed in six ways: a question joins it, a window is held or let go, a question is
settled, all are rejected, and all are dropped. The asker of a question does not see the queue. It
sees its channel: whether its question still waits there and what was answered on it. So every
change is described channel by channel, by `waiter?` and `answer?`.

The descriptions need the queue to be in order. `RequestQueue.Sound` says what that is. A question
is looked up by its number, which is a word, and answered on its channel, which is counted without
bound; being sound ties the two together, and it is what makes the answer of a question its own.

Order is a structure with one field for each thing that has to be so, and each change has one proof
that it keeps all of them. Most changes take questions out and answer some of them, which is
`Sound.shrink`; the others leave the questions as they are.

## Main definitions

* `RequestQueue.waiter?`: The question that waits on a channel.
* `RequestQueue.Sound`: The channels ascend, and each is answered at most once.
* `RequestQueue.rejectAll`: Every question is rejected, as when the window is closed.
* `RequestQueue.KeptAt`, `RequestQueue.LeftWith`: What can become of a channel.
* `RequestQueue.Ordinary`: A change that rejects at most.

## Theorems

* `RequestQueue.Sound.enqueue`, `RequestQueue.Sound.settle`, `RequestQueue.Sound.rejectAll`,
  `RequestQueue.Sound.dropAll`: A queue stays in order.
* `RequestQueue.settle_at`, `RequestQueue.rejectAll_at`, `RequestQueue.dropAll_at`: What a change
  does on each channel.
* `RequestQueue.Sound.shrink`: Some questions leave the queue, and some of those that left are
  answered.
* `RequestQueue.enqueue_new`, `RequestQueue.enqueue_at`: A question that joins waits on a channel of
  its own, and changes no other.
* `RequestQueue.Sound.waiter?_of_mem`, `RequestQueue.Sound.answer?_of_waiter`: Who is in the queue
  waits, and who waits has no answer.
* `RequestQueue.KeptAt.trans`, `RequestQueue.LeftWith.trans`, `RequestQueue.Ordinary.trans`: One
  change after the other.
-/

namespace WalletTrust

namespace RequestQueue

variable {q r : RequestQueue} {e : QueuedRequest} {c : Nat}

/-- The question that waits on a channel. -/
def waiter? (q : RequestQueue) (channel : Nat) : Option QueuedRequest :=
  q.pending.find? fun e => e.channel = channel

/-- The channels on which answers were given. -/
def answered (q : RequestQueue) : List Nat :=
  q.answers.map (·.1)

/-- The channels ascend in the queue, numbers are channels as words, and a channel is answered at
most once and only when its question has left the queue. -/
structure Sound (q : RequestQueue) : Prop where
  ascending : q.pending.Pairwise fun a b => a.channel < b.channel
  below : ∀ e ∈ q.pending, e.channel < q.nextChannel
  numbered : ∀ e ∈ q.pending, e.id = UInt64.ofNat e.channel
  next : q.nonce = UInt64.ofNat q.nextChannel
  once : q.answered.Nodup
  issued : ∀ c ∈ q.answered, c < q.nextChannel
  unanswered : ∀ e ∈ q.pending, e.channel ∉ q.answered

/-- Reject every question and let go of the window. -/
def rejectAll (q : RequestQueue) : RequestQueue :=
  let dropped : RequestQueue := { q.letGo with pending := [] }
  dropped.answerAll q.pending (.error .userRejected)

/-- A channel is as it was. -/
def KeptAt (c : Nat) (q r : RequestQueue) : Prop :=
  r.waiter? c = q.waiter? c ∧ r.answer? c = q.answer? c

/-- The question on a channel left the queue; `outcome` is what was answered on the channel. -/
def LeftWith (outcome : Option (Except Error Json)) (c : Nat) (q r : RequestQueue) : Prop :=
  (q.waiter? c).isSome ∧ r.waiter? c = none ∧ r.answer? c = outcome

/-! ## Looking at a channel -/

/-- Who waits on a channel is in the queue. -/
theorem mem_of_waiter (h : q.waiter? c = some e) : e ∈ q.pending ∧ e.channel = c :=
  ⟨List.mem_of_find?_eq_some h, by simpa only [decide_eq_true_eq] using List.find?_some h⟩

theorem waiter?_eq_none : q.waiter? c = none ↔ ∀ e ∈ q.pending, e.channel ≠ c := by
  simp only [waiter?, List.find?_eq_none, decide_eq_true_eq, ne_eq]

/-- Who is found by a number has that number. -/
theorem mem_of_find? {id : UInt64} (h : q.find? id = some e) : e ∈ q.pending ∧ e.id = id :=
  ⟨List.mem_of_find?_eq_some h, by simpa only [decide_eq_true_eq] using List.find?_some h⟩

/-- A channel on which nothing was answered has no answer. -/
theorem answer?_eq_none : q.answer? c = none ↔ c ∉ q.answered := by
  simp only [answer?, answered, Option.map_eq_none_iff, List.find?_eq_none, decide_eq_true_eq,
    List.mem_map, not_exists, not_and]

/-- The first answer on a channel counts. -/
theorem answer?_of_append {more : List (Nat × Except Error Json)}
    (h : r.answers = q.answers ++ more) (c : Nat) :
    r.answer? c = (q.answer? c).or ((more.find? fun a => a.1 = c).map (·.2)) := by
  rw [answer?, answer?, h, List.find?_append, Option.map_or]

/-- Answering all of some questions alike gives each of them that answer, if it has had none. -/
theorem answer?_answerAll (entries : List QueuedRequest) (outcome : Except Error Json) (c : Nat) :
    (q.answerAll entries outcome).answer? c =
      (q.answer? c).or ((entries.find? fun e => e.channel = c).map fun _ => outcome) := by
  rw [answer?_of_append (q := q) rfl, List.find?_map, Option.map_map]
  rfl

/-- An answer on one channel is an answer on no other. -/
theorem answer?_answer (channel : Nat) (outcome : Except Error Json) (c : Nat) :
    (q.answer channel outcome).answer? c =
      (q.answer? c).or (if channel = c then some outcome else none) := by
  rw [answer?_of_append (q := q) rfl, List.find?_singleton]
  by_cases h : channel = c
  · simp only [h, decide_true, if_true, Option.map_some]
  · simp only [h, decide_false, Bool.false_eq_true, if_false, Option.map_none]

namespace Sound

/-- No two questions share a channel. -/
theorem nodup_channels (h : q.Sound) : (q.pending.map (·.channel)).Nodup :=
  List.pairwise_map.2 (h.ascending.imp Nat.ne_of_lt)

/-- The question in the queue with a channel is the one that waits on it. -/
theorem waiter?_of_mem (h : q.Sound) (he : e ∈ q.pending) : q.waiter? e.channel = some e := by
  rcases hf : q.waiter? e.channel with _ | f
  · exact absurd rfl (waiter?_eq_none.1 hf e he)
  · rcases mem_of_waiter hf with ⟨hmem, hsame⟩
    rw [List.inj_on_of_nodup_map h.nodup_channels hmem he hsame]

/-- Who waits has no answer. -/
theorem answer?_of_waiter (h : q.Sound) (he : q.waiter? c = some e) : q.answer? c = none := by
  rcases mem_of_waiter he with ⟨hmem, rfl⟩
  exact answer?_eq_none.2 (h.unanswered e hmem)

/-- A channel that was not given out yet holds nothing and was not answered. -/
theorem blank (h : q.Sound) (hc : q.nextChannel ≤ c) : q.waiter? c = none ∧ q.answer? c = none := by
  refine ⟨waiter?_eq_none.2 fun e he hsame => ?_, answer?_eq_none.2 fun hmem => ?_⟩
  · exact absurd (h.below e he) (by omega)
  · exact absurd (h.issued c hmem) (by omega)

/-! ## Staying in order -/

/-- A queue without questions is in order. -/
theorem empty : Sound {} where
  ascending := List.Pairwise.nil
  below := fun _ h => absurd h List.not_mem_nil
  numbered := fun _ h => absurd h List.not_mem_nil
  next := rfl
  once := List.nodup_nil
  issued := fun _ h => absurd h List.not_mem_nil
  unanswered := fun _ h => absurd h List.not_mem_nil

/-- A queue whose window alone has changed. -/
theorem of_same (h : q.Sound) (hnonce : r.nonce = q.nonce) (hnext : r.nextChannel = q.nextChannel)
    (hpending : r.pending = q.pending) (hanswers : r.answers = q.answers) : r.Sound := by
  have hanswered : r.answered = q.answered := by rw [answered, answered, hanswers]
  exact {
    ascending := hpending ▸ h.ascending
    below := by rw [hpending, hnext]; exact h.below
    numbered := hpending ▸ h.numbered
    next := by rw [hnonce, hnext]; exact h.next
    once := hanswered ▸ h.once
    issued := by rw [hanswered, hnext]; exact h.issued
    unanswered := by rw [hpending, hanswered]; exact h.unanswered }

/-- A question that is put gets a number and a channel that nobody has. -/
theorem enqueue (h : q.Sound) (kind : RequestKind) (payload : Json) :
    (q.enqueue kind payload).Sound where
  ascending := by
    refine List.pairwise_append.2 ⟨h.ascending, List.pairwise_singleton _ _, fun a ha b hb => ?_⟩
    rw [List.mem_singleton.1 hb]
    exact h.below a ha
  below := fun e he => by
    rcases List.mem_append.1 he with he | he
    · exact Nat.lt_succ_of_lt (h.below e he)
    · rw [List.mem_singleton.1 he]
      exact Nat.lt_succ_self _
  numbered := fun e he => by
    rcases List.mem_append.1 he with he | he
    · exact h.numbered e he
    · rw [List.mem_singleton.1 he]
      exact h.next
  next := by
    -- Words wrap around, and so does the number of a channel as a word.
    change q.nonce + 1 = UInt64.ofNat (q.nextChannel + 1)
    rw [h.next, UInt64.ofNat_add]
    rfl
  once := h.once
  issued := fun c hc => Nat.lt_succ_of_lt (h.issued c hc)
  unanswered := fun e he => by
    rcases List.mem_append.1 he with he | he
    · exact h.unanswered e he
    · rw [List.mem_singleton.1 he]
      exact fun hc => absurd (h.issued _ hc) (Nat.lt_irrefl _)

/-- Some questions leave the queue, and some of those that left are answered. -/
theorem shrink (h : q.Sound) {more : List (Nat × Except Error Json)}
    (hnonce : r.nonce = q.nonce) (hnext : r.nextChannel = q.nextChannel)
    (hpending : r.pending.Sublist q.pending) (hanswers : r.answers = q.answers ++ more)
    (hleft : ∀ a ∈ more, ∃ e ∈ q.pending, e.channel = a.1 ∧ ∀ f ∈ r.pending, f.channel ≠ a.1)
    (honce : (more.map (·.1)).Nodup) : r.Sound := by
  -- Questions leave the queue and are answered in one step, so the two lists move in opposite ways.
  have hanswered : r.answered = q.answered ++ more.map (·.1) := by
    rw [answered, answered, hanswers, List.map_append]
  refine {
    ascending := h.ascending.sublist hpending
    below := fun e he => by rw [hnext]; exact h.below e (hpending.mem he)
    numbered := fun e he => h.numbered e (hpending.mem he)
    next := by rw [hnonce, hnext]; exact h.next
    once := ?_
    issued := ?_
    unanswered := ?_ }
  · -- No channel was answered before: its question was still in the queue.
    rw [hanswered]
    refine List.nodup_append.2 ⟨h.once, honce, fun a ha b hb hab => ?_⟩
    rcases List.mem_map.1 hb with ⟨x, hx, rfl⟩
    rcases hleft x hx with ⟨e, he, hsame, _⟩
    exact h.unanswered e he (by rw [hsame, ← hab]; exact ha)
  · intro c hc
    rw [hanswered] at hc
    rw [hnext]
    rcases List.mem_append.1 hc with hc | hc
    · exact h.issued c hc
    · rcases List.mem_map.1 hc with ⟨x, hx, rfl⟩
      rcases hleft x hx with ⟨e, he, hsame, _⟩
      exact hsame ▸ h.below e he
  · intro e he hc
    rw [hanswered] at hc
    rcases List.mem_append.1 hc with hc | hc
    · exact h.unanswered e (hpending.mem he) hc
    · rcases List.mem_map.1 hc with ⟨x, hx, hsame⟩
      rcases hleft x hx with ⟨_, _, _, hgone⟩
      exact hgone e he hsame.symm

end Sound

/-! ## Settling one question -/

/-- The question that is settled leaves, and the others stay as they are. -/
theorem settle_pending {id : UInt64} (found : q.find? id = some e)
    (outcome : Except Error Json) : ∃ before after, q.pending = before ++ e :: after ∧
      (q.settle e outcome).pending = before ++ after := by
  rcases mem_of_find? found with ⟨_, rfl⟩
  rcases List.find?_eq_some_iff_append.1 found with ⟨hid, before, after, hsplit, hbefore⟩
  refine ⟨before, after, hsplit, ?_⟩
  have hrest : (q.settle e outcome).pending = (q.dequeue e.id).pending := by
    rw [settle]
    split
    · rfl
    · rfl
  rw [hrest, dequeue, hsplit]
  have hpast : ∀ f ∈ before, ¬ decide (f.id = e.id) = true := fun f hf => by
    simpa only [Bool.not_eq_true', Bool.not_eq_true] using hbefore f hf
  rw [List.eraseP_append_right _ hpast,
    List.eraseP_cons_of_pos (p := fun f : QueuedRequest => decide (f.id = e.id)) hid]

/-- Settling a question adds its answer to the others. -/
theorem settle_answers (e : QueuedRequest) (outcome : Except Error Json) :
    (q.settle e outcome).answers = q.answers ++ [(e.channel, outcome)] := by
  rw [settle]
  split
  · rfl
  · rfl

/-- It does not touch the counters, so no number comes a second time. -/
theorem settle_counters (e : QueuedRequest) (outcome : Except Error Json) :
    (q.settle e outcome).nonce = q.nonce ∧ (q.settle e outcome).nextChannel = q.nextChannel := by
  rw [settle]
  split
  · exact ⟨rfl, rfl⟩
  · exact ⟨rfl, rfl⟩

/-- The channel of a question that is settled leaves the queue with it. -/
theorem settle_gone {id : UInt64} (h : q.Sound) (found : q.find? id = some e)
    (outcome : Except Error Json) : ∀ f ∈ (q.settle e outcome).pending, f.channel ≠ e.channel := by
  rcases settle_pending found outcome with ⟨before, after, hsplit, hrest⟩
  have hasc := h.ascending
  rw [hsplit] at hasc
  -- Channels ascend, so those before and after are smaller and greater.
  rcases List.pairwise_append.1 hasc with ⟨_, hafter, hcross⟩
  intro f hf
  rw [hrest] at hf
  rcases List.mem_append.1 hf with hf | hf
  · exact Nat.ne_of_lt (hcross f hf e List.mem_cons_self)
  · exact Nat.ne_of_gt ((List.pairwise_cons.1 hafter).1 f hf)

/-- A question that is settled leaves a queue in order. -/
theorem Sound.settle {id : UInt64} (h : q.Sound) (found : q.find? id = some e)
    (outcome : Except Error Json) : (q.settle e outcome).Sound := by
  rcases settle_counters (q := q) e outcome with ⟨hnonce, hnext⟩
  rcases settle_pending found outcome with ⟨before, after, hsplit, hrest⟩
  refine h.shrink hnonce hnext ?_ (settle_answers e outcome) ?_ (List.nodup_singleton _)
  · rw [hrest, hsplit]
    exact (List.sublist_cons_self e after).append_left before
  · intro a ha
    rw [List.mem_singleton.1 ha]
    exact ⟨e, (mem_of_find? found).1, rfl, settle_gone h found outcome⟩

/-- Settling a question answers its channel and leaves the others alone. -/
theorem settle_at {id : UInt64} (h : q.Sound) (found : q.find? id = some e)
    (outcome : Except Error Json) (c : Nat) :
    (c = e.channel ∧ q.waiter? c = some e ∧ LeftWith (some outcome) c q (q.settle e outcome)) ∨
    (c ≠ e.channel ∧ KeptAt c q (q.settle e outcome)) := by
  have hanswer : (q.settle e outcome).answer? c =
      (q.answer? c).or (if e.channel = c then some outcome else none) := by
    rw [← answer?_answer]
    rw [answer?, answer?, settle_answers]
    rfl
  -- The channel that is answered leaves the queue, and of the others nothing changes.
  by_cases hc : c = e.channel
  · subst hc
    have hin := h.waiter?_of_mem (mem_of_find? found).1
    refine .inl ⟨rfl, hin, ?_, waiter?_eq_none.2 (settle_gone h found outcome), ?_⟩
    · rw [hin]
      rfl
    · rw [hanswer, h.answer?_of_waiter hin, if_pos rfl]
      rfl
  · refine .inr ⟨hc, ?_, ?_⟩
    · rcases settle_pending found outcome with ⟨before, after, hsplit, hrest⟩
      have hskip : decide (e.channel = c) = false := decide_eq_false (Ne.symm hc)
      simp only [waiter?, hrest, hsplit, List.find?_append, List.find?_cons, hskip]
    · rw [hanswer, if_neg (Ne.symm hc), Option.or_none]

/-! ## Emptying the queue -/

/-- Answering some questions of a queue that is emptied. -/
theorem Sound.emptied (h : q.Sound) {entries : List QueuedRequest}
    (hsub : entries.Sublist q.pending) (outcome : Except Error Json) (hnonce : r.nonce = q.nonce)
    (hnext : r.nextChannel = q.nextChannel) (hpending : r.pending = [])
    (hanswers : r.answers = (q.answerAll entries outcome).answers) : r.Sound := by
  refine h.shrink hnonce hnext ?_ hanswers ?_ ?_
  · rw [hpending]
    exact List.nil_sublist _
  · intro a ha
    rcases List.mem_map.1 ha with ⟨e, he, rfl⟩
    exact ⟨e, hsub.mem he, rfl, fun f hf => absurd (hpending ▸ hf) List.not_mem_nil⟩
  · rw [List.map_map]
    exact h.nodup_channels.sublist (hsub.map _)

/-- So do all of them when they are rejected. -/
theorem Sound.rejectAll (h : q.Sound) : q.rejectAll.Sound :=
  h.emptied (List.Sublist.refl _) (.error .userRejected) rfl rfl rfl rfl

theorem Sound.dropAll (h : q.Sound) (id : UInt64) (failure : Error) :
    (q.dropAll id failure).Sound :=
  h.emptied List.filter_sublist (.error failure) rfl rfl rfl rfl

/-- Rejecting every question rejects each that waits and leaves the other channels alone. -/
theorem rejectAll_at (h : q.Sound) (c : Nat) :
    LeftWith (some (.error .userRejected)) c q q.rejectAll ∨
      (q.waiter? c = none ∧ KeptAt c q q.rejectAll) := by
  have hanswer : q.rejectAll.answer? c =
      (q.answer? c).or ((q.waiter? c).map fun _ => .error .userRejected) :=
    answer?_answerAll q.pending _ c
  -- Nobody else waits on the channel, so the answer is that of whoever does.
  rcases he : q.waiter? c with _ | e
  · refine .inr ⟨rfl, he.symm, ?_⟩
    rw [hanswer, he, Option.map_none, Option.or_none]
  · refine .inl ⟨by rw [he]; rfl, rfl, ?_⟩
    rw [hanswer, he, h.answer?_of_waiter he]
    rfl

/-- Whoever waits on a channel is found there among all questions but that of a number, unless it is
the one of that number. -/
theorem Sound.waiter?_others (h : q.Sound) (id : UInt64) (c : Nat) :
    ((q.pending.filter fun e => e.id ≠ id).find? fun e => e.channel = c) =
      (q.waiter? c).filter fun e => e.id ≠ id := by
  rcases he : q.waiter? c with _ | e
  · exact List.find?_eq_none.2 fun f hf => List.find?_eq_none.1 he f (List.mem_filter.1 hf).1
  · rcases mem_of_waiter he with ⟨hmem, rfl⟩
    -- No other question has the channel, so it is this one or none.
    have honly : ∀ f ∈ q.pending, f.channel = e.channel → f = e := fun f hf hsame =>
      List.inj_on_of_nodup_map h.nodup_channels hf hmem hsame
    rw [Option.filter_some]
    by_cases hid : e.id = id
    · have hdropped : ¬ decide (e.id ≠ id) = true := fun hother => of_decide_eq_true hother hid
      rw [if_neg hdropped]
      refine List.find?_eq_none.2 fun f hf hsame => ?_
      rcases List.mem_filter.1 hf with ⟨hf, hother⟩
      rw [honly f hf (of_decide_eq_true hsame)] at hother
      exact of_decide_eq_true hother hid
    · rw [if_pos (decide_eq_true hid)]
      have hkept : e ∈ q.pending.filter fun f => f.id ≠ id :=
        List.mem_filter.2 ⟨hmem, decide_eq_true hid⟩
      rcases hf : (q.pending.filter fun f => f.id ≠ id).find? fun f => f.channel = e.channel with
        _ | f
      · exact absurd (decide_eq_true rfl) (List.find?_eq_none.1 hf e hkept)
      · have hfound := (List.mem_filter.1 (List.mem_of_find?_eq_some hf)).1
        have hsame : f.channel = e.channel := by
          simpa only [decide_eq_true_eq] using List.find?_some hf
        rw [hf, honly f hfound hsame]

/-- Dropping every question fails each that waits, except that whoever goes by the number of the
window's asker is not answered, and leaves the other channels alone. -/
theorem dropAll_at (h : q.Sound) (id : UInt64) (failure : Error) (c : Nat) :
    (∃ e, q.waiter? c = some e ∧
      LeftWith (if e.id = id then none else some (.error failure)) c q (q.dropAll id failure)) ∨
      (q.waiter? c = none ∧ KeptAt c q (q.dropAll id failure)) := by
  have hanswer : (q.dropAll id failure).answer? c = (q.answer? c).or
      (((q.waiter? c).filter fun e => e.id ≠ id).map fun _ => .error failure) := by
    rw [← h.waiter?_others id c]
    exact answer?_answerAll _ _ c
  rcases he : q.waiter? c with _ | e
  · refine .inr ⟨rfl, he.symm, ?_⟩
    rw [hanswer, he, Option.filter_none, Option.map_none, Option.or_none]
  · refine .inl ⟨e, rfl, by rw [he]; rfl, rfl, ?_⟩
    rw [hanswer, he, h.answer?_of_waiter he, Option.none_or, Option.filter_some]
    -- The asker of the window learns of the failure from its call instead.
    by_cases hid : e.id = id
    · have hdropped : ¬ decide (e.id ≠ id) = true := fun hother => of_decide_eq_true hother hid
      rw [if_neg hdropped, if_pos hid, Option.map_none]
    · rw [if_pos (decide_eq_true hid), if_neg hid, Option.map_some]

/-! ## Joining the queue -/

/-- A question that joins changes no other channel. -/
theorem enqueue_at (kind : RequestKind) (payload : Json) (hc : c ≠ q.nextChannel) :
    KeptAt c q (q.enqueue kind payload) := by
  refine ⟨?_, rfl⟩
  have hnew : (decide (q.nextChannel = c)) = false := decide_eq_false (Ne.symm hc)
  simp only [waiter?, enqueue, List.find?_append, List.find?_singleton, hnew, Bool.false_eq_true,
    if_false, Option.or_none]

/-- A question that joins waits on a channel of its own. -/
theorem enqueue_new (h : q.Sound) (kind : RequestKind) (payload : Json) :
    (q.enqueue kind payload).waiter? q.nextChannel =
      some { id := q.nonce, kind, payload, channel := q.nextChannel } :=
  (h.enqueue kind payload).waiter?_of_mem
    (e := { id := q.nonce, kind, payload, channel := q.nextChannel })
    (List.mem_append_right _ (List.mem_singleton_self _))

/-! ## Changes that reject at most -/

/-- Who is kept twice is kept. -/
theorem KeptAt.trans {s : RequestQueue} (h : KeptAt c q r) (k : KeptAt c r s) : KeptAt c q s :=
  ⟨k.1.trans h.1, k.2.trans h.2⟩

/-- Who has left with an outcome stays away with it. -/
theorem LeftWith.trans {s : RequestQueue} {outcome : Option (Except Error Json)}
    (h : LeftWith outcome c q r) (k : KeptAt c r s) : LeftWith outcome c q s :=
  ⟨h.1, k.1.trans h.2.1, k.2.trans h.2.2⟩

/-- Who is kept at first may leave later. -/
theorem KeptAt.left {s : RequestQueue} {outcome : Option (Except Error Json)}
    (h : KeptAt c q r) (k : LeftWith outcome c r s) : LeftWith outcome c q s :=
  ⟨h.1 ▸ k.1, k.2.1, k.2.2⟩

/-- The queue stays in order, and a question that was in it stays there or is rejected. -/
structure Ordinary (q r : RequestQueue) : Prop where
  sound : q.Sound → r.Sound
  grows : q.nextChannel ≤ r.nextChannel
  passes : q.Sound → ∀ c < q.nextChannel,
    KeptAt c q r ∨ LeftWith (some (.error .userRejected)) c q r

namespace Ordinary

theorem refl (q : RequestQueue) : Ordinary q q where
  sound := id
  grows := Nat.le_refl _
  passes := fun _ _ _ => .inl ⟨rfl, rfl⟩

/-- One change after the other, if each keeps what was there or answers it. -/
theorem trans {s : RequestQueue} (h : Ordinary q r) (k : Ordinary r s) : Ordinary q s where
  sound := fun hq => k.sound (h.sound hq)
  grows := Nat.le_trans h.grows k.grows
  passes := fun hq c hc => by
    rcases h.passes hq c hc with hkept | hleft
    · exact (k.passes (h.sound hq) c (Nat.lt_of_lt_of_le hc h.grows)).imp hkept.trans hkept.left
    · -- A channel that was emptied cannot be emptied again.
      rcases k.passes (h.sound hq) c (Nat.lt_of_lt_of_le hc h.grows) with hkept | hagain
      · exact .inr (hleft.trans hkept)
      · exact absurd hagain.1 (by rw [hleft.2.1]; exact Bool.false_ne_true)

/-- A queue whose window alone has changed. -/
theorem of_same (hnonce : r.nonce = q.nonce) (hnext : r.nextChannel = q.nextChannel)
    (hpending : r.pending = q.pending) (hanswers : r.answers = q.answers) : Ordinary q r where
  sound := fun h => h.of_same hnonce hnext hpending hanswers
  grows := Nat.le_of_eq hnext.symm
  passes := fun _ c _ =>
    .inl ⟨by rw [waiter?, waiter?, hpending], by rw [answer?, answer?, hanswers]⟩

theorem hold (q : RequestQueue) (window listener : Nat) : Ordinary q (q.hold window listener) :=
  of_same rfl rfl rfl rfl

theorem enqueue (q : RequestQueue) (kind : RequestKind) (payload : Json) :
    Ordinary q (q.enqueue kind payload) where
  sound := fun h => h.enqueue kind payload
  grows := Nat.le_succ _
  passes := fun _ _ hc => .inl (enqueue_at kind payload (Nat.ne_of_lt hc))

/-- That all are rejected is in the ordinary way. -/
theorem rejectAll (q : RequestQueue) : Ordinary q q.rejectAll where
  sound := Sound.rejectAll
  grows := Nat.le_refl _
  passes := fun h c _ => (rejectAll_at h c).symm.imp And.right id

/-- A question for which no window could be opened leaves no trace on the other channels: there was
no other question in the queue. -/
theorem refused (hempty : q.pending = []) (kind : RequestKind) (payload : Json) (failure : Error) :
    Ordinary q ((q.enqueue kind payload).dropAll q.nonce failure) where
  sound := fun h => (h.enqueue kind payload).dropAll q.nonce failure
  grows := Nat.le_succ _
  passes := fun h c hc => by
    have hkept := enqueue_at kind payload (Nat.ne_of_lt hc)
    have hnone : q.waiter? c = none := by rw [waiter?, hempty, List.find?_nil]
    rcases dropAll_at (h.enqueue kind payload) q.nonce failure c with ⟨e, he, _⟩ | ⟨_, hdrop⟩
    · rw [hkept.1, hnone] at he
      cases he
    · exact .inl (hkept.trans hdrop)

end Ordinary

end RequestQueue

end WalletTrust

import WalletTrust.Op

/-!
# What Operations Leave Behind

Facts about every state that an operation can reach, whether it answers or fails.

A wallet has some fifty operations, and most statements about a run of them are about what one step
cannot do. `Within` says that an operation relates the state before it to the state after it. For a
relation that is reflexive and transitive this passes from the parts of an operation to the whole,
so it is checked once for each small operation and then follows for the large ones by reading off
how they are put together.

The outcome does not matter to `Within`. That suits the failures here: a failed operation keeps the
state it has reached, so it has to respect the relation as much as one that answers.

There are three properties of this kind. `Within` is about the state, `Yields` about the answers and
`Fails` about the causes of failures, and each has its laws for sequences, for choices and for
operations on a part of the state. The proofs that use them have the shape of the operation that
they are about, with one step for each of its parts.

Other statements need the run itself, of an operation from a given state. For these there are the
equations at the beginning, which say what a sequence comes to when its first part is known.

## Main definitions

* `Op.Within`: An operation relates the state before it to the state after it.
* `Op.Same`: The relation of states that agree in one respect.
* `Op.Yields`, `Op.Fails`: Whatever the operation answers, or fails with, has a property.

## Theorems

* `Op.Within.bind`, `Op.Within.ite`: Operations that are put together.
* `Op.Within.zoom`: An operation on a part of the state.
* `Op.Within.mono`: A weaker relation.
* `Op.bind_cases`: A sequence that answered did both of its parts.
* `Op.bind_pure_state`, `Op.mapError_state`: Naming the answer or the failure leaves the state
  alone.
* `Op.Within.after`: What follows an operation relates the state in between to the state after it.
* `Op.Yields.bind`: What an operation yields is up to its last part.
* `Op.Fails.bind`: Any part of an operation may be the one that fails.
-/

namespace WalletTrust

namespace Op

variable {σ τ α β γ : Type}

/-- Whatever becomes of the operation, it relates the state before it to the state after it. -/
def Within (R : σ → σ → Prop) (x : Op σ α) : Prop :=
  ∀ s, R s (x s).2

/-- The states agree in what `view` sees of them. -/
def Same (view : σ → γ) (s t : σ) : Prop :=
  view t = view s

instance (view : σ → γ) : Std.Refl (Same view) := ⟨fun _ => rfl⟩

instance (view : σ → γ) : Trans (Same view) (Same view) (Same view) :=
  ⟨fun h k => Eq.trans k h⟩

/-- What two operations do one after the other: the second begins where the first has ended, and
does not begin if the first has failed. -/
theorem bind_apply (x : Op σ α) (f : α → Op σ β) (s : σ) :
    (x >>= f) s = match x s with
      | (.ok a, t) => f a t
      | (.error e, t) => (.error e, t) := rfl

theorem bind_assoc (x : Op σ α) (f : α → Op σ β) (g : β → Op σ γ) :
    (x >>= f) >>= g = x >>= fun a => f a >>= g := by
  funext s
  rw [bind_apply, bind_apply, bind_apply]
  rcases x s with ⟨e | a, t⟩
  · rfl
  · rfl

/-- What follows an operation sees only what became of it. -/
theorem bind_congr {x y : Op σ α} {s t : σ} (h : x s = y t) (f : α → Op σ β) :
    (x >>= f) s = (y >>= f) t := by
  rw [bind_apply, bind_apply, h]

/-- What follows an operation that names its answer may be put before the naming. -/
theorem bind_answer {x : Op σ α} {y : Op σ β} {g : β → α} {s t : σ}
    (h : x s = (y >>= fun b => (pure (g b) : Op σ α)) t) (f : α → Op σ γ) :
    (x >>= f) s = (y >>= fun b => f (g b)) t := by
  rw [bind_congr h, bind_assoc]
  rfl

/-- A sequence that answered did both of its parts. -/
theorem bind_cases {x : Op σ α} {f : α → Op σ β} {s u : σ} {b : β}
    (h : (x >>= f) s = (.ok b, u)) : ∃ a t, x s = (.ok a, t) ∧ f a t = (.ok b, u) := by
  rw [bind_apply] at h
  split at h
  · next a t hx => exact ⟨a, t, hx, h⟩
  · exact absurd (congrArg Prod.fst h) (by simp only [reduceCtorEq, not_false_eq_true])

/-- An operation that leaves the state as it is counts by its outcome. -/
theorem bind_still {x : Op σ α} {s : σ} {outcome : Except Error α} (h : x s = (outcome, s))
    (f : α → Op σ β) : ((x >>= f) s).1 = outcome >>= fun a => (f a s).1 := by
  rw [bind_apply, h]
  cases outcome with
  | ok a => rfl
  | error e => rfl

theorem ofOption_apply (e : Error) (o : Option α) (s : σ) :
    (ofOption e o : Op σ α) s = (o.elim (.error e) .ok, s) := by
  cases o with
  | none => rfl
  | some a => rfl

/-- Naming the answer does not change what an operation leaves behind. -/
theorem bind_pure_state (x : Op σ α) (f : α → β) (s : σ) :
    ((x >>= fun a => (pure (f a) : Op σ β)) s).2 = (x s).2 := by
  rw [bind_apply]
  split
  · next hx => rw [hx, pure_apply]
  · next hx => rw [hx]

/-- An operation with its failures renamed answered only if it did so before. -/
theorem mapError_ok {f : Error → Error} {x : Op σ α} {s t : σ} {a : α}
    (h : x.mapError f s = (.ok a, t)) : x s = (.ok a, t) := by
  rw [mapError] at h
  split at h
  · next hx => rwa [hx]
  · exact absurd (congrArg Prod.fst h) (by simp only [reduceCtorEq, not_false_eq_true])

/-- Who does not fail does not notice that causes are renamed. -/
theorem mapError_of_ok {x : Op σ α} {s t : σ} {a : α} (h : x s = (.ok a, t)) (f : Error → Error) :
    x.mapError f s = (.ok a, t) := by
  rw [mapError, h]

/-- Who fails is told the new name of the cause. -/
theorem mapError_of_error {x : Op σ α} {s t : σ} {e : Error} (h : x s = (.error e, t))
    (f : Error → Error) : x.mapError f s = (.error (f e), t) := by
  rw [mapError, h]

/-- To rename a cause is to leave the state alone. -/
theorem mapError_state (f : Error → Error) (x : Op σ α) (s : σ) :
    (x.mapError f s).2 = (x s).2 := by
  rw [mapError]
  split
  · next hx => rw [hx]
  · next hx => rw [hx]

theorem mapError_id {f : Error → Error} (h : ∀ e, f e = e) (x : Op σ α) : x.mapError f = x := by
  funext s
  rw [mapError]
  split
  · next hx => exact hx.symm
  · next hx => rw [h, hx]

namespace Within

variable {R : σ → σ → Prop}

/-- What stays within a relation stays within every wider one. -/
theorem mono {S : σ → σ → Prop} {x : Op σ α} (h : ∀ s t, R s t → S s t) (hx : Within R x) :
    Within S x :=
  fun s => h _ _ (hx s)

theorem modify {f : σ → σ} (h : ∀ s, R s (f s)) : Within R (Op.modify f) := h

/-- That a failure is caught does not take back what was done before it. -/
theorem attempt {x : Op σ α} (hx : Within R x) : Within R x.attempt := hx

theorem ignore {x : Op σ α} (hx : Within R x) : Within R x.ignore := hx

theorem mapError {f : Error → Error} {x : Op σ α} (hx : Within R x) :
    Within R (x.mapError f) := by
  intro s
  rw [mapError_state]
  exact hx s

/-- An operation on a part stays within `R` if putting back what it made of the part does. -/
theorem zoom {Q : τ → τ → Prop} {part : σ → τ} {restore : τ → σ → σ} {x : Op τ α}
    (hx : Within Q x) (h : ∀ s t, Q (part s) t → R s (restore t s)) :
    Within R (x.zoom part restore) :=
  fun s => h s _ (hx (part s))

/-- An operation on a part stays within `R` if putting back anything does. -/
theorem zoom_any {part : σ → τ} {restore : τ → σ → σ} {x : Op τ α}
    (h : ∀ s t, R s (restore t s)) : Within R (x.zoom part restore) :=
  fun s => h s _

/-- A choice stays within a relation if each of its branches does. Each may use that it was
chosen. -/
theorem ite {c : Prop} [Decidable c] {x y : Op σ α} (hx : c → Within R x)
    (hy : ¬ c → Within R y) : Within R (if c then x else y) := by
  split
  · next h => exact hx h
  · next h => exact hy h

/-- An operation that looks at the state first. -/
theorem get_bind {f : σ → Op σ β} (h : ∀ s, R s (f s s).2) : Within R (Op.get >>= f) := h

section Reflexive

variable [Std.Refl R]

/-- An operation that does nothing stays within every reflexive relation. -/
theorem pure (a : α) : Within R (Pure.pure a : Op σ α) := fun s => Std.Refl.refl s

/-- So does one that only fails. -/
theorem fail (e : Error) : Within R (Op.fail e : Op σ α) := fun s => Std.Refl.refl s

theorem get : Within R (Op.get : Op σ σ) := fun s => Std.Refl.refl s

theorem gets (f : σ → α) : Within R (Op.gets f) := fun s => Std.Refl.refl s

theorem ofExcept (r : Except Error α) : Within R (Op.ofExcept r : Op σ α) :=
  fun s => Std.Refl.refl s

/-- What is yielded is what was there. -/
theorem ofOption (e : Error) (o : Option α) : Within R (Op.ofOption e o : Op σ α) := by
  cases o with
  | none => exact fail e
  | some a => exact pure a

end Reflexive

/-- Two operations that stay within a transitive relation do so one after the other, also if the
first fails and the second never begins. -/
theorem bind [Trans R R R] {x : Op σ α} {f : α → Op σ β} (hx : Within R x)
    (hf : ∀ a, Within R (f a)) : Within R (x >>= f) := by
  intro s
  have h := hx s
  rw [bind_apply]
  split
  · next a t hs => rw [hs] at h; exact Trans.trans h (hf a t)
  · next e t hs => rwa [hs] at h

/-- What follows an operation relates the state in between to the state after it. -/
theorem after [Std.Refl R] {x : Op σ α} {f : α → Op σ β} (hf : ∀ a, Within R (f a)) (s : σ) :
    R (x s).2 ((x >>= f) s).2 := by
  rw [bind_apply]
  split
  · next a t hx => rw [hx]; exact hf a t
  · next e t hx => rw [hx]; exact Std.Refl.refl t

end Within

/-- Whatever the operation answers has a property. -/
def Yields (P : α → Prop) (x : Op σ α) : Prop :=
  ∀ s a t, x s = (.ok a, t) → P a

namespace Yields

variable {P : β → Prop}

/-- What an operation yields is up to its last part. -/
theorem bind {x : Op σ α} {f : α → Op σ β} (hf : ∀ a, Yields P (f a)) : Yields P (x >>= f) := by
  intro s b t h
  rcases bind_cases h with ⟨a, u, _, hfa⟩
  exact hf a u b t hfa

theorem pure {b : β} (h : P b) : Yields P (Pure.pure b : Op σ β) := by
  intro s a t hs
  rw [pure_apply] at hs
  cases hs
  exact h

theorem fail (e : Error) : Yields P (Op.fail e : Op σ β) := by
  intro s a t h
  exact absurd (congrArg Prod.fst h) (by simp only [Op.fail, reduceCtorEq, not_false_eq_true])

/-- Renaming causes changes nothing about what is yielded, since a failure yields nothing. -/
theorem mapError {f : Error → Error} {x : Op σ β} (hx : Yields P x) : Yields P (x.mapError f) :=
  fun s b t h => hx s b t (mapError_ok h)

theorem ite {c : Prop} [Decidable c] {x y : Op σ β} (hx : Yields P x) (hy : Yields P y) :
    Yields P (if c then x else y) := by
  split
  · exact hx
  · exact hy

theorem ofOption {e : Error} (o : Option β) :
    Yields (fun b => o = some b) (Op.ofOption e o : Op σ β) := by
  intro s b t h
  cases o with
  | none => cases congrArg Prod.fst h
  | some a => rw [Except.ok.inj (congrArg Prod.fst h)]

theorem ofExcept (r : Except Error β) : Yields (fun b => r = .ok b) (Op.ofExcept r : Op σ β) :=
  fun _ _ _ h => congrArg Prod.fst h

end Yields

/-- Whatever the operation fails with has a property. -/
def Fails (P : Error → Prop) (x : Op σ α) : Prop :=
  ∀ s e, (x s).1 = .error e → P e

namespace Fails

variable {P : Error → Prop}

/-- Any part of an operation may be the one that fails. -/
theorem bind {x : Op σ α} {f : α → Op σ β} (hx : Fails P x) (hf : ∀ a, Fails P (f a)) :
    Fails P (x >>= f) := by
  intro s e h
  rcases hrun : x s with ⟨outcome, t⟩
  cases outcome with
  | ok a =>
      rw [bind_ok hrun] at h
      exact hf a t e h
  | error cause =>
      rw [bind_error hrun] at h
      rw [← Except.error.inj h]
      exact hx s cause (by rw [hrun])

/-- Who never fails has no cause for it. -/
theorem of_ok {x : Op σ α} (h : ∀ s, ∃ a, (x s).1 = .ok a) : Fails P x := by
  intro s e herror
  rcases h s with ⟨a, hok⟩
  cases hok.symm.trans herror

theorem pure (a : α) : Fails P (Pure.pure a : Op σ α) := of_ok fun _ => ⟨a, rfl⟩

theorem get : Fails P (Op.get : Op σ σ) := of_ok fun s => ⟨s, rfl⟩

theorem modify (f : σ → σ) : Fails P (Op.modify f) := of_ok fun _ => ⟨(), rfl⟩

theorem ite {c : Prop} [Decidable c] {x y : Op σ α} (hx : Fails P x) (hy : Fails P y) :
    Fails P (if c then x else y) := by
  split
  · exact hx
  · exact hy

theorem ofExcept {r : Except Error α} (h : ∀ e, r = .error e → P e) :
    Fails P (Op.ofExcept r : Op σ α) :=
  fun _ e herror => h e herror

theorem zoom {part : σ → τ} {restore : τ → σ → σ} {x : Op τ α} (hx : Fails P x) :
    Fails P (x.zoom part restore) :=
  fun s e herror => hx (part s) e herror

end Fails

/-- What follows an operation has to respect the relation for what the operation can answer only. -/
theorem Within.bind_of_yields {R : σ → σ → Prop} [Trans R R R] {P : α → Prop} {x : Op σ α}
    {f : α → Op σ β} (hx : Within R x) (hp : Yields P x) (hf : ∀ a, P a → Within R (f a)) :
    Within R (x >>= f) := by
  intro s
  have h := hx s
  rcases hs : x s with ⟨outcome, t⟩
  rw [hs] at h
  cases outcome with
  | ok a => rw [bind_ok hs]; exact Trans.trans h (hf a (hp s a t hs) t)
  | error e => rw [bind_error hs]; exact h

end Op

end WalletTrust

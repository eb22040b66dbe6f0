import WalletTrust.Error

/-!
# Operations

An operation reads and changes a state and either answers or fails.

When an operation fails, the state it has reached stays. That is the point of the type: a write that
succeeded before a later check failed is still there, and a statement about what a failed operation
leaves behind is a statement about the second component of a pair. So an operation is a plain
function from a state to an outcome and a state, and nothing is rolled back.

## Main definitions

* `Op`: Operations on a state.
* `Op.attempt`: Running an operation and looking at its outcome.
* `Op.zoom`: Running an operation on a part of the state.

## Theorems

* `Op.pure_apply`, `Op.bind_ok`, `Op.bind_error`: What a sequence of operations does to a state.
-/

namespace WalletTrust

/-- An operation on states `σ` that answers with an `α` or fails. -/
def Op (σ α : Type) : Type :=
  σ → Except Error α × σ

namespace Op

variable {σ τ α β : Type}

/-- Sequencing. A failure skips what follows and keeps the state. -/
def andThen (x : Op σ α) (f : α → Op σ β) : Op σ β := fun s =>
  match x s with
  | (.ok a, t) => f a t
  | (.error e, t) => (.error e, t)

instance : Monad (Op σ) where
  pure a := fun s => (.ok a, s)
  bind := andThen

theorem pure_apply (a : α) (s : σ) : (pure a : Op σ α) s = (.ok a, s) := rfl

theorem bind_ok {x : Op σ α} {s t : σ} {a : α} (h : x s = (.ok a, t)) (f : α → Op σ β) :
    (x >>= f) s = f a t := by
  simp only [bind, andThen, h]

theorem bind_error {x : Op σ α} {s t : σ} {e : Error} (h : x s = (.error e, t)) (f : α → Op σ β) :
    (x >>= f) s = (.error e, t) := by
  simp only [bind, andThen, h]

def fail (e : Error) : Op σ α := fun s => (.error e, s)

def get : Op σ σ := fun s => (.ok s, s)

/-- A value read off the current state. -/
def gets (f : σ → α) : Op σ α := fun s => (.ok (f s), s)

def modify (f : σ → σ) : Op σ Unit := fun s => (.ok (), f s)

/-- Draw a value out of the state. -/
def draw (f : σ → α × σ) : Op σ α := fun s =>
  let (a, t) := f s
  (.ok a, t)

/-- Answer with an outcome that was computed elsewhere. -/
def ofExcept (r : Except Error α) : Op σ α := fun s => (r, s)

/-- A value that may be missing, as an operation that fails with `e` where it is. -/
def ofOption (e : Error) : Option α → Op σ α
  | some a => pure a
  | none => fail e

/-- Run an operation and answer with its outcome; this never fails. -/
def attempt (x : Op σ α) : Op σ (Except Error α) := fun s =>
  let (r, t) := x s
  (.ok r, t)

/-- Run an operation and carry on whatever becomes of it. -/
def ignore (x : Op σ α) : Op σ Unit := fun s => (.ok (), (x s).2)

/-- Rename the cause of a failure. -/
def mapError (f : Error → Error) (x : Op σ α) : Op σ α := fun s =>
  match x s with
  | (.ok a, t) => (.ok a, t)
  | (.error e, t) => (.error (f e), t)

/-- Run an operation on a part of the state. -/
def zoom (part : σ → τ) (restore : τ → σ → σ) (x : Op τ α) : Op σ α := fun s =>
  let (r, t) := x (part s)
  (r, restore t s)

end Op

end WalletTrust

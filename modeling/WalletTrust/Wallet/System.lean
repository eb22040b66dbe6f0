import WalletTrust.Wallet.Call

/-!
# A Wallet at Work

A wallet together with the calls that wait.

Calls are numbered by whoever makes them. A call that has to wait is kept under its number with what
it waits for, and goes on when the wait is over. Between any two of its parts other calls may run.
Which of the calls that are ready goes on first is a choice; `System.settle` makes it by number and
keeps going until none is ready.

A restart ends a wallet and begins a new one over the same host. The calls that wait are lost with
the old one, except that whoever waits for the answer to a question, and knows its number, still
hears what became of it.

## Main definitions

* `System`: The wallet and the calls that wait.
* `System.start`, `System.resume`: The first part of a call, and the next.
* `System.settle`: Going on with every call that is ready.
* `System.cancel`, `System.restart`, `System.install`: Giving up one call, and beginning anew.
-/

namespace WalletTrust

/-- How a call ended. -/
abbrev Outcome := Except Error Answer

/-- A wallet and the calls that wait, by number. -/
structure System where
  wallet : Wallet := {}
  waiting : List (Nat × Waiting) := []
deriving Inhabited

namespace System

/-- The calls that wait, with one of them added or changed. -/
def put (n : Nat) (on : Waiting) : List (Nat × Waiting) → List (Nat × Waiting)
  | [] => [(n, on)]
  | (m, other) :: rest =>
    if n < m then (n, on) :: (m, other) :: rest
    else if n = m then (n, on) :: rest
    else (m, other) :: put n on rest

def waiting? (s : System) (n : Nat) : Option Waiting :=
  (s.waiting.find? fun t => t.1 = n).map (·.2)

/-- The system without a call that waited. -/
def forget (n : Nat) (s : System) : System :=
  { s with waiting := s.waiting.filter fun t => t.1 ≠ n }

/-- Run a part of call `n`. The outcome is none if the call waits then. -/
def run (n : Nat) (part : Op Wallet Progress) (s : System) : Option Outcome × System :=
  match part s.wallet with
  | (.ok (.waiting on), wallet) => (none, { wallet, waiting := put n on s.waiting })
  | (.ok (.finished answer), wallet) => (some (.ok answer), forget n { s with wallet })
  | (.error e, wallet) => (some (.error e), forget n { s with wallet })

def start (n : Nat) (call : Call) (s : System) : Option Outcome × System :=
  run n (Wallet.perform call) s

/-- Go on with a call whose wait is over. Nothing happens if there is none of that number, or if it
is not ready. -/
def resume (n : Nat) (s : System) : Option (Option Outcome × System) :=
  match s.waiting? n with
  | none => none
  | some on => if on.isReady s.wallet then some (run n (Wallet.resume on) s) else none

/-- The outcomes of calls, by number, in the order in which they ended. -/
abbrev Outcomes := List (Nat × Outcome)

/-- Look at some calls one after the other, and go on with each that is ready. The answer tells
which of them ended, and whether any was ready. -/
def pass : List Nat → System → Outcomes × Bool × System
  | [], s => ([], false, s)
  | n :: rest, s =>
    match s.resume n with
    | none => pass rest s
    | some (outcome, t) =>
      let (ended, _, u) := pass rest t
      (match outcome with
        | some o => (n, o) :: ended
        | none => ended,
        true, u)

/-- At most `fuel` passes over all calls that wait; the last one finds none ready. -/
def passes : Nat → System → Outcomes × System
  | 0, s => ([], s)
  | fuel + 1, s =>
    match pass (s.waiting.map (·.1)) s with
    | (ended, false, t) => (ended, t)
    | (ended, true, t) =>
      let (more, u) := passes fuel t
      (ended ++ more, u)

/-- The most parts that a call can have after its first: the window to unlock in, the session being
unlocked, and a window and an answer for each of two questions. -/
def mostParts : Nat := 6

/-- Go on with every call that is ready, until none is. Each pass but the last takes one of the
calls a part further, so the passes suffice. -/
def settle (s : System) : Outcomes × System :=
  passes (mostParts * s.waiting.length + 1) s

/-- Give up a call that waits. The answer tells whether there was one. -/
def cancel (n : Nat) (s : System) : Bool × System :=
  match s.waiting? n with
  | none => (false, s)
  | some on =>
    match on.ticket? with
    | none => (true, forget n s)
    | some ticket =>
      let desktop := s.wallet.host.desktop.abandonTicket ticket
      (true, forget n
        { s with wallet := { s.wallet with host := { s.wallet.host with desktop } } })

/-- What is left of a call when its wallet is gone. -/
def afterlife (w : Wallet) : Waiting → Option Waiting
  | .answer id channel (.asked true) =>
    let outcome := (w.core.queue.answer? channel).getD (.error (.internal "request broker dropped"))
    some (.lastWord id outcome)
  | .lastWord id outcome => some (.lastWord id outcome)
  | _ => none

/-- Begin a new wallet over the same host. -/
def restart (s : System) : System :=
  let desktop : Desktop := { s.wallet.host.desktop.retireListeners with held := [] }
  { wallet := { s.wallet with host := { s.wallet.host with desktop }, core := {} }
    waiting := s.waiting.filterMap fun t => (afterlife s.wallet t.2).map fun on => (t.1, on) }

/-- Begin a new wallet over the same host, with nothing stored. -/
def install (s : System) : System :=
  let t := s.restart
  { t with wallet := { t.wallet with host := { t.wallet.host with storage := {} } } }

end System

end WalletTrust

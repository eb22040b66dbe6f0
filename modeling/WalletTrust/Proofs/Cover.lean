import WalletTrust.Proofs.Veil

/-!
# Covers

Ways to cover a wallet, of which the veil is one.

A cover takes something away from every identity, from the record of the host and from the strategy.
It may take what it likes, as long as it leaves what is public: the commitments and the names, and
all events that have nothing to do with proofs. That much is enough for nearly every operation of a
wallet to do its work, since the others are neither read nor written by it. So what is said of
operations behind the veil is said of every cover, once.

The veil covers the secrets. Another cover leaves the identities as they are and takes away where
proofs are computed.

A cover is given by functions and by the laws that they have to keep, so it cannot be made without
the proofs that it leaves what is public. The laws are few because they are about the parts: what a
cover makes of a wallet, of its desktop and of its identity book is put together from what it makes
of identities and events.

## Main definitions

* `Cover`: What is taken from identities, events and strategies.
* `Cover.book`, `Cover.desktop`, `Cover.wallet`: What is left of the parts of a wallet.
* `Cover.secrets`: The veil, as a cover.

## Theorems

* `Cover.lookup_book`, `Cover.lookupSelected_book`, `Cover.insert_book`: Identities are found by
  what is public.
* `Cover.desktop_record`: Public events are recorded as before.
-/

namespace WalletTrust

/-- What is taken from the identities, the record and the strategy of a wallet. -/
structure Cover where
  identity : Identity → Identity
  event : HostEvent → Option HostEvent
  strategy : Strategy → Strategy
  publicPart (i : Identity) : (identity i).publicPart = i.publicPart
  event_public {e : HostEvent} (h : e.isPublic = true) : event e = some e

namespace Cover

variable (c : Cover)

theorem commitment (i : Identity) : (c.identity i).commitment = i.commitment :=
  congrArg PublicIdentity.commitment (c.publicPart i)

theorem name (i : Identity) : (c.identity i).name = i.name :=
  congrArg PublicIdentity.name (c.publicPart i)

def book (b : IdentityBook) : IdentityBook :=
  { b with identities := b.identities.map c.identity }

def desktop (d : Desktop) : Desktop :=
  { d with log := d.log.filterMap c.event }

def host (h : Host) : Host :=
  { h with
    desktop := c.desktop h.desktop
    identities := c.book h.identities
    strategy := c.strategy h.strategy }

def desk (d : Desk) : Desk :=
  { d with desktop := c.desktop d.desktop }

def lock (l : SessionLock) : SessionLock :=
  { l with desktop := c.desktop l.desktop }

def wallet (w : Wallet) : Wallet :=
  { w with host := c.host w.host }

/-- What comes from outside brings its identities covered. -/
def action : HostAction → HostAction
  | .insertIdentity identity => .insertIdentity (c.identity identity)
  | action => action

/-! ## Identities -/

theorem find?_book (b : IdentityBook) (commitment : String) :
    (c.book b).find? commitment = (b.find? commitment).map c.identity := by
  have htest : ((fun i : Identity => decide (i.commitment = commitment)) ∘ c.identity) =
      fun i => decide (i.commitment = commitment) :=
    funext fun i => by rw [Function.comp_apply, c.commitment]
  rw [IdentityBook.find?, IdentityBook.find?, book, List.find?_map, htest]

/-- Identities are found by what is public. -/
theorem lookup_book (b : IdentityBook) (commitment : String) :
    (c.book b).lookup commitment = (b.lookup commitment).map (·.map c.identity) := by
  rw [IdentityBook.lookup, IdentityBook.lookup, find?_book]
  cases b with
  | mk identities selected available =>
      cases available with
      | true => rfl
      | false => rfl

theorem lookupSelected_book (b : IdentityBook) :
    (c.book b).lookupSelected = b.lookupSelected.map (·.map c.identity) := by
  -- The selected commitment is not covered, and it finds the covered identity.
  have hfind : (c.book b).selected.bind (c.book b).find? =
      (b.selected.bind b.find?).map c.identity := by
    cases hselected : b.selected with
    | none =>
        have hnone : (c.book b).selected = none := hselected
        rw [hnone]
        rfl
    | some commitment =>
        have hsome : (c.book b).selected = some commitment := hselected
        rw [hsome]
        exact c.find?_book b commitment
  rw [IdentityBook.lookupSelected, IdentityBook.lookupSelected, hfind]
  cases b with
  | mk identities selected available =>
      cases available with
      | true => rfl
      | false => rfl

theorem insert_book (b : IdentityBook) (i : Identity) :
    c.book (b.insert i) = (c.book b).insert (c.identity i) := by
  have htest : ((fun j : Identity => decide (j.commitment ≠ (c.identity i).commitment)) ∘
      c.identity) = fun j => decide (j.commitment ≠ i.commitment) :=
    funext fun j => by rw [Function.comp_apply, c.commitment, c.commitment]
  simp only [IdentityBook.insert, book, List.map_cons, List.filter_map, htest]

/-! ## The record -/

variable {c}

/-- Public events are recorded as before. -/
theorem desktop_record {e : HostEvent} (h : e.isPublic = true) (d : Desktop) :
    (c.desktop d).record e = c.desktop (d.record e) := by
  simp only [Desktop.record, desktop, List.filterMap_append, List.filterMap_cons,
    c.event_public h, List.filterMap_nil]

/-! ## The veil -/

/-- The cover of all secrets. What it leaves of a wallet is what the veil leaves. -/
def secrets : Cover where
  identity := Identity.veil
  event := HostEvent.veil?
  strategy := Strategy.veil
  publicPart _ := rfl
  event_public := HostEvent.veil?_public

end Cover

end WalletTrust

/-!
# Association Lists in Order

Lists of pairs that ascend strictly by key.

Origins are texts, and the order on texts compares their characters by number. That is also the
order of their UTF-8 bytes, so a list in this order is the list that a file or a slot shows. The
functions here keep a list in order; `OriginMap` turns the order into a part of its type.

## Main definitions

* `Assoc.lookup`, `Assoc.insert`, `Assoc.erase`: The value of a key, and the list with a key set or
  removed.
-/

namespace WalletTrust

namespace Assoc

variable {α : Type}

def lookup (key : String) : List (String × α) → Option α
  | [] => none
  | (k, v) :: rest => if k = key then some v else lookup key rest

/-- The list with `key` set to `value`: put before the first greater key, or in place of its own. -/
def insert (key : String) (value : α) : List (String × α) → List (String × α)
  | [] => [(key, value)]
  | (k, v) :: rest =>
    if key < k then (key, value) :: (k, v) :: rest
    else if key = k then (key, value) :: rest
    else (k, v) :: insert key value rest

def erase (key : String) (entries : List (String × α)) : List (String × α) :=
  entries.filter fun e => e.1 ≠ key

end Assoc

end WalletTrust

import WalletTrust.Error
import WalletTrust.Json.Value

/-!
# Wire Formats

Types that travel as JSON, and the rules by which a value is taken for one.

A record travels as an object of its fields. It is also accepted as an array of its fields in the
order of their declaration, which is how compact senders write it. A name that is not a field is
ignored, a field that occurs twice is refused. A field may be missing only if it is optional or has
a default; in an array only defaults at the end may be missing.

An enumeration travels as a name, and is also accepted as an object with the name as its only member
and nothing in it. A tagged union travels as an object of a tag and a content, and is also accepted
as an array of the two, with the name alone as the tag.

The content of a union that travels as an object is held back until the tag is known. Inside it two
more spellings are accepted: an empty object counts as nothing, and in an array the tag may be the
number of its name.

Each type has one `Wire` instance, an encoder beside a decoder.

## Main definitions

* `Wire`: Types with an encoding and a decoding.
* `Fields`: Types whose fields can be merged into a larger record.
* `Json.record?`, `Json.openRecord?`: The fields of a record by name.
* `Record.required`, `Record.optional`, `Record.default`: What is found under a name.
* `Reading`: Whether a value was held back.
* `Json.variant?`, `Json.tagged?`: The name of an enumeration, and the tag and content of a union.
-/

namespace WalletTrust

/-- Types that travel as JSON. -/
class Wire (α : Type) where
  /-- The encoding of a value. -/
  toJson : α → Json
  /-- The value that a JSON value is taken for, if any. -/
  ofJson? : Json → Option α

export Wire (toJson)

/-- How a value comes to be read. -/
inductive Reading where
  /-- As it was sent. -/
  | direct
  /-- As part of a content that was held back until the tag beside it was known. -/
  | heldBack
deriving DecidableEq, Repr, Inhabited

/-- The fields that were given, by name. -/
abbrev Record := List (String × Json)

/-- Types whose fields can be merged into a larger record. -/
class Fields (α : Type) where
  /-- The names of the fields, in the order of their declaration. -/
  names : List String
  /-- The fields of a value. -/
  toRecord : α → Record
  /-- The value that the fields of a record make, whatever else the record holds. -/
  ofRecord? : Record → Option α

namespace Json

/-- Whether no name of `names` occurs twice among the members. -/
def distinctOn (names : List String) (members : List (String × Json)) : Bool :=
  names.all fun name => (members.filter fun m => m.1 = name).length ≤ 1

/-- The fields of a record that travels as an object only. -/
def openRecord? (names : List String) : Json → Option Record
  | .obj members => if distinctOn names members then some members else none
  | _ => none

/-- The fields of a record with the given names. In an array as many of them may be missing at the
end as `spare` says. -/
def record? (names : List String) (spare : Nat) : Json → Option Record
  | .arr items =>
    if items.length ≤ names.length ∧ names.length ≤ items.length + spare then
      some (names.zip items)
    else none
  | j => openRecord? names j

/-- The name of an enumeration's value. -/
def variant? (reading : Reading) : Json → Option String
  | .str name => some name
  | .obj [(name, .null)] => some name
  | .obj [(name, .obj [])] => if reading = .heldBack then some name else none
  | _ => none

/-- The name of a union's tag that stands first in an array. -/
def leadingTag? (reading : Reading) (names : List String) : Json → Option String
  | .str name => some name
  | .int (.ofNat n) => if reading = .heldBack then names[n]? else none
  | _ => none

/-- The tag of a union's value, and its content if there is one. With them comes the way in which
the content is read. `names` are the tags of the union in the order of their declaration. -/
def tagged? (reading : Reading) (tag content : String) (names : List String) :
    Json → Option (String × Reading × Option Json)
  | .arr [t, c] => (leadingTag? reading names t).map fun name => (name, reading, some c)
  | .obj members =>
    if distinctOn [tag, content] members then
      (Assoc.lookup tag members).bind fun t =>
        (variant? reading t).map fun name => (name, .heldBack, Assoc.lookup content members)
    else none
  | _ => none

/-- The items of an array, each decoded in the same way. -/
def itemsWith? {α : Type} (decode : Json → Option α) : List Json → Option (List α)
  | [] => some []
  | j :: rest =>
    match decode j, itemsWith? decode rest with
    | some a, some as => some (a :: as)
    | _, _ => none

/-- An array, each item of which is decoded in the same way. -/
def listWith? {α : Type} (decode : Json → Option α) : Json → Option (List α)
  | .arr items => itemsWith? decode items
  | _ => none

end Json

namespace Record

variable {α : Type}

/-- A field that has to be there, decoded in a given way. -/
def requiredWith (r : Record) (decode : Json → Option α) (name : String) : Option α :=
  (Assoc.lookup name r).bind decode

/-- A field that has to be there. -/
def required [Wire α] (r : Record) (name : String) : Option α :=
  r.requiredWith Wire.ofJson? name

/-- A field that may be missing or null. -/
def optional [Wire α] (r : Record) (name : String) : Option (Option α) :=
  match Assoc.lookup name r with
  | none => some none
  | some .null => some none
  | some j => (Wire.ofJson? j).map some

/-- A field that stands for `value` when it is missing. -/
def default [Wire α] (r : Record) (name : String) (value : α) : Option α :=
  match Assoc.lookup name r with
  | none => some value
  | some j => Wire.ofJson? j

/-- The member of an optional field: none when there is nothing to send. -/
def ofOption [Wire α] (name : String) : Option α → Record
  | none => []
  | some a => [(name, toJson a)]

end Record

instance : Wire Json where
  toJson j := j
  ofJson? j := some j

instance : Wire Bool where
  toJson b := .bool b
  ofJson?
    | .bool b => some b
    | _ => none

instance : Wire String where
  toJson s := .str s
  ofJson?
    | .str s => some s
    | _ => none

/-- A whole number that is not negative and below a limit. -/
def Json.below? (limit : Nat) : Json → Option Nat
  | .int (.ofNat n) => if n < limit then some n else none
  | _ => none

instance : Wire UInt8 where
  toJson n := .int n.toNat
  ofJson? j := (j.below? UInt8.size).map UInt8.ofNat

instance : Wire UInt32 where
  toJson n := .int n.toNat
  ofJson? j := (j.below? UInt32.size).map UInt32.ofNat

instance : Wire UInt64 where
  toJson n := .int n.toNat
  ofJson? j := (j.below? UInt64.size).map UInt64.ofNat

instance : Wire Int32 where
  toJson n := .int n.toInt
  ofJson?
    | .int n =>
      if Int32.minValue.toInt ≤ n ∧ n ≤ Int32.maxValue.toInt then some (Int32.ofInt n) else none
    | _ => none

instance {α : Type} [Wire α] : Wire (List α) where
  toJson as := .arr (as.map toJson)
  ofJson? := Json.listWith? Wire.ofJson?

/-- A value that may be null. -/
instance {α : Type} [Wire α] : Wire (Option α) where
  toJson
    | none => .null
    | some a => toJson a
  ofJson?
    | .null => some none
    | j => (Wire.ofJson? j).map some

/-- A record of fields that travels as an object or an array. `spare` fields at the end may be
missing from an array. -/
@[reducible] def Wire.ofFields (α : Type) [Fields α] (spare : Nat) : Wire α where
  toJson a := .obj (Fields.toRecord a)
  ofJson? j := (j.record? (Fields.names α) spare).bind Fields.ofRecord?

/-- A record of fields that travels as an object only. -/
@[reducible] def Wire.ofOpenFields (α : Type) [Fields α] : Wire α where
  toJson a := .obj (Fields.toRecord a)
  ofJson? j := (j.openRecord? (Fields.names α)).bind Fields.ofRecord?

/-- A pair travels as an array of two. -/
instance {α β : Type} [Wire α] [Wire β] : Wire (α × β) where
  toJson p := .arr [toJson p.1, toJson p.2]
  ofJson?
    | .arr [a, b] =>
      match Wire.ofJson? a, Wire.ofJson? b with
      | some x, some y => some (x, y)
      | _, _ => none
    | _ => none

/-- Decode a value that a caller sent. A value of another shape is a failure of serialization. -/
def Wire.decode {α : Type} [Wire α] (j : Json) : Except Error α :=
  match Wire.ofJson? j with
  | some a => .ok a
  | none => .error (.serialization "the value does not have the expected shape")

instance : Wire ErrorKind where
  toJson
    | .validation => .str "validation"
    | .authentication => .str "authentication"
    | .state => .str "state"
    | .userRejection => .str "user_rejection"
    | .platform => .str "platform"
    | .transport => .str "transport"
    | .storage => .str "storage"
    | .crypto => .str "crypto"
    | .internal => .str "internal"
  ofJson? j :=
    match j.variant? .direct with
    | some "validation" => some .validation
    | some "authentication" => some .authentication
    | some "state" => some .state
    | some "user_rejection" => some .userRejection
    | some "platform" => some .platform
    | some "transport" => some .transport
    | some "storage" => some .storage
    | some "crypto" => some .crypto
    | some "internal" => some .internal
    | _ => none

instance : Wire ErrorPayload where
  toJson p :=
    .obj [("code", toJson p.code), ("message", toJson p.message), ("kind", toJson p.kind)]
  ofJson? j := do
    let r ← j.record? ["code", "message", "kind"] 0
    return {
      code := ← r.required "code"
      message := ← r.required "message"
      kind := ← r.required "kind" }

end WalletTrust

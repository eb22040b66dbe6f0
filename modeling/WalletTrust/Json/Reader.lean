import WalletTrust.Json.Shortest
import WalletTrust.Text.Hex

/-!
# Reading JSON Text

A text is read as one value with nothing but blanks around it.

The grammar is JSON's own, without extensions: no comma before a closing bracket, no leading zeros,
no control characters in strings, and of blanks only the space, the tab and the two line ends.

Escapes of code units are collected first and paired afterwards. A string with a surrogate that has
no partner is well formed as a text and is read as `Json.unreadable`, and so is an object with such
a name, and a number that is too great. Whoever only skips the value does not care, and whoever
reads it finds nothing to read.

A number with a fraction or an exponent, or one that no machine word holds, is read in double
precision. Of its digits those count that fit into a machine word; the rest only tell how great the
number is.

Every value takes at least one character, so the length of a text bounds the number of steps and
serves as fuel.

## Main definitions

* `Json.readValue`: Reading one value off the front of a sequence of characters.
* `Json.read?`: Reading a text.
-/

namespace WalletTrust

namespace Json

def isSpace (c : Char) : Bool :=
  c = ' ' || c = '\t' || c = '\n' || c = '\r'

/-- What follows the blanks at the front. -/
def skipSpace (cs : List Char) : List Char :=
  cs.dropWhile isSpace

/-- The code point of an escape of one character. -/
def escape? (c : Char) : Option Nat :=
  if c = '"' then some 34
  else if c = '\\' then some 92
  else if c = '/' then some 47
  else if c = 'b' then some 8
  else if c = 'f' then some 12
  else if c = 'n' then some 10
  else if c = 'r' then some 13
  else if c = 't' then some 9
  else none

/-- The code unit of four digits. -/
def codeUnit? (a b c d : Char) : Option Nat := do
  let p ← Hex.value? a
  let q ← Hex.value? b
  let r ← Hex.value? c
  let s ← Hex.value? d
  return ((p * 16 + q) * 16 + r) * 16 + s

/-- The code points and code units of a string up to its closing quotation mark, and what follows
it. `units` holds those read so far, the last one first. -/
def readUnits (units : List Nat) : List Char → Option (List Nat × List Char)
  | [] => none
  | '"' :: rest => some (units.reverse, rest)
  | '\\' :: 'u' :: a :: b :: c :: d :: rest =>
    match codeUnit? a b c d with
    | some u => readUnits (u :: units) rest
    | none => none
  | '\\' :: e :: rest =>
    match escape? e with
    | some u => readUnits (u :: units) rest
    | none => none
  | c :: rest => if c = '\\' || c.toNat < 32 then none else readUnits (c.toNat :: units) rest

/-- The characters that code points and code units name. A high surrogate needs a low one after it,
and a low one needs a high one before it. -/
def pairUnits : List Nat → Option (List Char)
  | [] => some []
  | u :: rest =>
    if 0xD800 ≤ u ∧ u < 0xDC00 then
      match rest with
      | v :: rest' =>
        if 0xDC00 ≤ v ∧ v < 0xE000 then
          (pairUnits rest').map (Char.ofNat (0x10000 + (u - 0xD800) * 1024 + (v - 0xDC00)) :: ·)
        else none
      | [] => none
    else if 0xDC00 ≤ u ∧ u < 0xE000 then none
    else (pairUnits rest).map (Char.ofNat u :: ·)

/-- The text of a string that follows its opening quotation mark, if it names one, and what follows
the string. -/
def readString (cs : List Char) : Option (Option String × List Char) :=
  match readUnits [] cs with
  | some (units, rest) => some ((pairUnits units).map String.ofList, rest)
  | none => none

/-- A number with one more digit. -/
def appendDigit (n : Nat) (c : Char) : Nat :=
  10 * n + (c.toNat - 48)

/-- The number that a run of digits writes. -/
def digitsValue (cs : List Char) : Nat :=
  cs.foldl appendDigit 0

/-- The digits of the whole part. A zero stands alone. -/
def readWhole : List Char → Option (List Char × List Char)
  | '0' :: rest => some (['0'], rest)
  | cs =>
    match cs.takeWhile Char.isDigit with
    | [] => none
    | digits => some (digits, cs.dropWhile Char.isDigit)

/-- The digits of the fraction, if there is a point. -/
def readFraction : List Char → Option (Option (List Char) × List Char)
  | '.' :: rest =>
    match rest.takeWhile Char.isDigit with
    | [] => none
    | digits => some (some digits, rest.dropWhile Char.isDigit)
  | cs => some (none, cs)

/-- The digits of an exponent after its sign. -/
def readExponentDigits (negative : Bool) (cs : List Char) : Option (Option Int × List Char) :=
  match cs.takeWhile Char.isDigit with
  | [] => none
  | digits =>
    let n : Int := digitsValue digits
    some (some (if negative then -n else n), cs.dropWhile Char.isDigit)

/-- The exponent, if there is one. -/
def readExponent (cs : List Char) : Option (Option Int × List Char) :=
  let body (rest : List Char) :=
    match rest with
    | '+' :: rest' => readExponentDigits false rest'
    | '-' :: rest' => readExponentDigits true rest'
    | _ => readExponentDigits false rest
  match cs with
  | 'e' :: rest => body rest
  | 'E' :: rest => body rest
  | _ => some (none, cs)

/-- The digits of the whole part that a machine word holds after `n`, and the number of digits left
over. -/
def keepWhole (n : Nat) : List Char → Nat × Int
  | [] => (n, 0)
  | c :: rest =>
    if appendDigit n c < UInt64.size then keepWhole (appendDigit n c) rest
    else (n, Int.ofNat (c :: rest).length)

/-- The digits of the fraction that a machine word holds after `n`. Each one that is kept lowers the
power of ten by one. -/
def keepPlaces (n : Nat) (power : Int) : List Char → Nat × Int
  | [] => (n, power)
  | c :: rest =>
    if appendDigit n c < UInt64.size then keepPlaces (appendDigit n c) (power - 1) rest
    else (n, power)

/-- The number of double precision that a numeral names. -/
def realNumber (negative : Bool) (whole places : List Char) (exponent : Int) : Json :=
  let (n, left) := keepWhole 0 whole
  let (digits, power) := keepPlaces n left places
  match Binary.ofDecimal? digits (power + exponent) with
  | some x => .decimal (x.toDecimal negative)
  | none => .unreadable

/-- A whole number that a machine word holds, signed or not, is kept as one. Zero with a sign is
not: its sign would be lost. -/
def wholeNumber (negative : Bool) (digits : List Char) : Json :=
  let n := digitsValue digits
  if negative ∧ 0 < n ∧ n ≤ UInt64.size / 2 then .int (-(n : Int))
  else if ¬negative ∧ n < UInt64.size then .int n
  else realNumber negative digits [] 0

/-- A number, without its sign. -/
def readUnsigned (negative : Bool) (cs : List Char) : Option (Json × List Char) :=
  match readWhole cs with
  | none => none
  | some (whole, afterWhole) =>
    match readFraction afterWhole with
    | none => none
    | some (fraction, afterFraction) =>
      match readExponent afterFraction with
      | none => none
      | some (exponent, rest) =>
        match fraction, exponent with
        | none, none => some (wholeNumber negative whole, rest)
        | _, _ =>
          some (realNumber negative whole (fraction.getD []) (exponent.getD 0), rest)

def readNumber : List Char → Option (Json × List Char)
  | '-' :: rest => readUnsigned true rest
  | cs => readUnsigned false cs

/-- A string as a value. -/
def ofString? : Option String → Json
  | some s => .str s
  | none => .unreadable

/-- An object of the members read, if every name could be read. -/
def ofMembers? : Option (List (String × Json)) → Json
  | some members => .obj members
  | none => .unreadable

mutual

def readValue : Nat → List Char → Option (Json × List Char)
  | 0, _ => none
  | fuel + 1, cs =>
    match skipSpace cs with
    | 'n' :: 'u' :: 'l' :: 'l' :: rest => some (.null, rest)
    | 't' :: 'r' :: 'u' :: 'e' :: rest => some (.bool true, rest)
    | 'f' :: 'a' :: 'l' :: 's' :: 'e' :: rest => some (.bool false, rest)
    | '"' :: rest =>
      match readString rest with
      | some (s, rest') => some (ofString? s, rest')
      | none => none
    | '[' :: rest =>
      match skipSpace rest with
      | ']' :: rest' => some (.arr [], rest')
      | _ =>
        match readItems fuel rest with
        | some (items, rest') => some (.arr items, rest')
        | none => none
    | '\x7b' :: rest =>
      match skipSpace rest with
      | '\x7d' :: rest' => some (.obj [], rest')
      | _ =>
        match readMembers fuel rest with
        | some (members, rest') => some (ofMembers? members, rest')
        | none => none
    | cs' => readNumber cs'

/-- Read the items of an array up to its closing bracket. -/
def readItems : Nat → List Char → Option (List Json × List Char)
  | 0, _ => none
  | fuel + 1, cs =>
    match readValue fuel cs with
    | none => none
    | some (j, rest) =>
      match skipSpace rest with
      | ']' :: rest' => some ([j], rest')
      | ',' :: rest' =>
        match readItems fuel rest' with
        | some (items, rest'') => some (j :: items, rest'')
        | none => none
      | _ => none

/-- Read the members of an object up to its closing brace. A name that cannot be read makes the
whole object unreadable, but the text goes on. -/
def readMembers : Nat → List Char → Option (Option (List (String × Json)) × List Char)
  | 0, _ => none
  | fuel + 1, cs =>
    match skipSpace cs with
    | '"' :: rest =>
      match readString rest with
      | none => none
      | some (name, afterName) =>
        match skipSpace afterName with
        | ':' :: rest' =>
          match readValue fuel rest' with
          | none => none
          | some (j, afterValue) =>
            let extend (members : Option (List (String × Json))) :=
              match name, members with
              | some n, some ms => some ((n, j) :: ms)
              | _, _ => none
            match skipSpace afterValue with
            | '\x7d' :: rest'' => some (extend (some []), rest'')
            | ',' :: rest'' =>
              match readMembers fuel rest'' with
              | some (members, rest''') => some (extend members, rest''')
              | none => none
            | _ => none
        | _ => none
    | _ => none

end

/-- Read a text that holds one value and blanks around it. -/
def read? (s : String) : Option Json :=
  let cs := s.toList
  match readValue (cs.length + 1) cs with
  | some (j, rest) => if (skipSpace rest).isEmpty then some j else none
  | none => none

end Json

end WalletTrust

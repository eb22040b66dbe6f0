import WalletTrust.Json.Value
import WalletTrust.Text.Hex

/-!
# JSON Text

The compact text of a value: no blanks, members in the order they stand in.

Inside a string the quotation mark, the backslash and the control characters are escaped, and every
other character stands for itself. Five control characters have short escapes; the rest are written
as `\u` and four lower-case digits.

## Main definitions

* `Json.render`: The characters of a value.
* `Json.text`: The text of a value.
-/

namespace WalletTrust

namespace Json

def renderChar (c : Char) : List Char :=
  if c = '"' then ['\\', '"']
  else if c = '\\' then ['\\', '\\']
  else if c.toNat = 8 then ['\\', 'b']
  else if c.toNat = 9 then ['\\', 't']
  else if c.toNat = 10 then ['\\', 'n']
  else if c.toNat = 12 then ['\\', 'f']
  else if c.toNat = 13 then ['\\', 'r']
  else if c.toNat < 32 then
    ['\\', 'u', '0', '0', Hex.digit (c.toNat / 16), Hex.digit (c.toNat % 16)]
  else [c]

def renderString (s : String) : List Char :=
  '"' :: s.toList.flatMap renderChar ++ ['"']

def renderInt : Int → List Char
  | .ofNat n => Nat.toDigits 10 n
  | .negSucc n => '-' :: Nat.toDigits 10 (n + 1)

/-- A number as its digits and its exponent. -/
def renderDecimal (d : Decimal) : List Char :=
  (if d.negative then ['-'] else []) ++ Nat.toDigits 10 d.coefficient ++ 'e' :: renderInt d.exponent

mutual

def render : Json → List Char
  | .null => ['n', 'u', 'l', 'l']
  | .bool true => ['t', 'r', 'u', 'e']
  | .bool false => ['f', 'a', 'l', 's', 'e']
  | .int n => renderInt n
  | .decimal d => renderDecimal d
  | .str s => renderString s
  | .arr [] => ['[', ']']
  | .arr (j :: rest) => '[' :: (render j ++ renderItems rest)
  | .obj [] => ['\x7b', '\x7d']
  | .obj ((name, j) :: rest) =>
    '\x7b' :: (renderString name ++ ':' :: (render j ++ renderMembers rest))
  | .unreadable => ['n', 'u', 'l', 'l']

/-- The items after the first, and the closing bracket. -/
def renderItems : List Json → List Char
  | [] => [']']
  | j :: rest => ',' :: (render j ++ renderItems rest)

/-- The members after the first, and the closing brace. -/
def renderMembers : List (String × Json) → List Char
  | [] => ['\x7d']
  | (name, j) :: rest => ',' :: (renderString name ++ ':' :: (render j ++ renderMembers rest))

end

def text (j : Json) : String :=
  String.ofList j.render

end Json

end WalletTrust

import WalletTrust.Text.Shown

/-!
# Quoted Texts

A text between quotation marks, such that every character can be told.

The quotation mark, the backslash and the usual control characters have short escapes. Every other
character that is not shown is written by its number, in hexadecimal between braces.

## Main definitions

* `Quoted.escape`: One character.
* `Quoted.quote`: A text between quotation marks.
-/

namespace WalletTrust

namespace Quoted

/-- One character between quotation marks. -/
def escape (c : Char) : List Char :=
  if c = '"' then ['\\', '"']
  else if c = '\\' then ['\\', '\\']
  else if c.toNat = 0 then ['\\', '0']
  else if c.toNat = 9 then ['\\', 't']
  else if c.toNat = 10 then ['\\', 'n']
  else if c.toNat = 13 then ['\\', 'r']
  else if isShown c then [c]
  else ['\\', 'u', '\x7b'] ++ Nat.toDigits 16 c.toNat ++ ['\x7d']

def quote (s : String) : String :=
  String.ofList ('"' :: s.toList.flatMap escape ++ ['"'])

end Quoted

end WalletTrust

import Loadout.Character.Printable

/-!
# Quoted text

A text between double quotes, on one line. The quote and the backslash take a
backslash, four controls have a letter, and a character without a visible form of
its own is shown by its number between braces.

## Main definitions

* `quoted`: the quoted form of a text
-/

namespace Loadout.Text

/-- The number of a character between braces, in lower-case hexadecimal. -/
def numbered (c : Char) : List Char :=
  "\\u\x7b".toList ++ Nat.toDigits 16 c.toNat ++ "\x7d".toList

/-- How a character stands between quotes. -/
def quotedChar (c : Char) : List Char :=
  if c = '\x00' then ['\\', '0']
  else if c = '\t' then ['\\', 't']
  else if c = '\r' then ['\\', 'r']
  else if c = '\n' then ['\\', 'n']
  else if c = '"' then ['\\', '"']
  else if c = '\\' then ['\\', '\\']
  else if Character.isHidden c then numbered c
  else [c]

/-- The quoted form of a text. -/
def quoted (text : String) : String :=
  String.ofList ('"' :: text.toList.flatMap quotedChar ++ ['"'])

end Loadout.Text

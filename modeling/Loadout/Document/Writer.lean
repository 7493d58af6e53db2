import Loadout.Document.Basic

/-!
# Writing JSON texts

A document is written without blanks, the members of a record in their order. In a string
the quote, the backslash and the control characters are escaped, five of the controls by a
letter and the others by their number; every other character stands as it is.

How a number is spelled is left to the number type: the writer takes the spelling as a
parameter. Only finite numbers have one, the others are written as null.

## Main definitions

* `Document.escape`: how a character stands in a string
* `Document.write`: the characters of a document
* `Document.toJson`: the JSON text of a document
-/

namespace Loadout.Document

variable {ν : Type}

/-- How a character stands between quotes. -/
def escape (c : Char) : List Char :=
  if c = '"' then ['\\', '"']
  else if c = '\\' then ['\\', '\\']
  else if c = '\x08' then ['\\', 'b']
  else if c = '\x0c' then ['\\', 'f']
  else if c = '\n' then ['\\', 'n']
  else if c = '\r' then ['\\', 'r']
  else if c = '\t' then ['\\', 't']
  else if c.toNat < 32 then
    ['\\', 'u', '0', '0', Nat.digitChar (c.toNat / 16), Nat.digitChar (c.toNat % 16)]
  else [c]

/-- A text between quotes. -/
def writeText (s : String) : List Char :=
  '"' :: (s.toList.flatMap escape ++ ['"'])

/-- A whole number in decimal digits. -/
def writeInt (n : Int) : List Char :=
  if n < 0 then '-' :: Nat.toDigits 10 n.natAbs else Nat.toDigits 10 n.natAbs

section

variable [Scalar ν] (numeral : ν → String)

mutual

/-- The characters of a document. What has no content is written as null. -/
def write : Document ν → List Char
  | null => "null".toList
  | bool b => if b then "true".toList else "false".toList
  | int n => writeInt n
  | float x => if Scalar.isFinite x then (numeral x).toList else "null".toList
  | text s => writeText s
  | list items => '[' :: writeItems items
  | record members => '{' :: writeMembers members
  | unreadable => "null".toList

/-- The items of a list, commas between them, and the bracket that closes it. -/
def writeItems : List (Document ν) → List Char
  | [] => [']']
  | [item] => write item ++ [']']
  | item :: next :: rest => write item ++ ',' :: writeItems (next :: rest)

/-- The members of a record, commas between them, and the brace that closes it. -/
def writeMembers : List (String × Document ν) → List Char
  | [] => ['}']
  | [(key, value)] => writeText key ++ ':' :: write value ++ ['}']
  | (key, value) :: next :: rest =>
    writeText key ++ ':' :: write value ++ ',' :: writeMembers (next :: rest)

end

/-- The JSON text of a document. -/
def toJson (d : Document ν) : String :=
  String.ofList (d.write numeral)

end

end Loadout.Document

import Loadout.Character.Case
import Loadout.Character.Digit
import Loadout.Text.Pieces

/-!
# Case of whole texts

Lowercasing maps each character by itself, except that a capital sigma takes its
final form at the end of a word: where a cased letter comes before it and none
after it, characters without a bearing on case being passed over. Pascal case
drops everything but letters and number characters and raises the first character
of each word.

## Main definitions

* `lowercase`: lower case of a text
* `pascalCase`: the words of a text as one capitalised name
-/

namespace Loadout.Text

open Character

/-- Whether the first character that bears on case has one. -/
def meetsCased (cs : List Char) : Bool :=
  match cs.dropWhile isCaseIgnorable with
  | [] => false
  | c :: _ => isCased c

/-- Lower case of the text `cs`, which follows the characters `before`, nearest first. -/
def lowercaseAfter (before : List Char) : List Char → List Char
  | [] => []
  | c :: rest =>
    let mapped :=
      if c = 'Σ' then
        if meetsCased before && !meetsCased rest then ['ς'] else ['σ']
      else
        lower c
    mapped ++ lowercaseAfter (c :: before) rest

/-- Lower case of a text. -/
def lowercase (cs : List Char) : List Char :=
  lowercaseAfter [] cs

/-- A word with its first character raised. -/
def capitalize : List Char → List Char
  | [] => []
  | c :: rest => upper c ++ rest

/-- The alphanumeric words of a text, each with its first character raised, without anything
between them. -/
def pascalCase (cs : List Char) : List Char :=
  ((pieces (!isAlphanumeric ·) cs).map capitalize).flatten

end Loadout.Text

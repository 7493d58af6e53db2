import Loadout.Text.Case

/-!
# Names from templates

A template is a text with placeholders between braces. Placeholders are filled one
after the other, each at all its places.

## Main definitions

* `replaceAll`: every occurrence of a text replaced, from the left
* `placeholder`: a name between braces
* `fill`: a template with its placeholders filled
-/

namespace Loadout.Text

/-- Replaces the occurrences of `old` from the left, after dropping `skip` characters that an
occurrence still covers. -/
def replaceFrom (old new : List Char) : Nat → List Char → List Char
  | _, [] => []
  | skip + 1, _ :: rest => replaceFrom old new skip rest
  | 0, c :: rest =>
    if old.isPrefixOf (c :: rest) then
      new ++ replaceFrom old new (old.length - 1) rest
    else
      c :: replaceFrom old new 0 rest

/-- The text with every occurrence of `old`, which is not empty, replaced. -/
def replaceAll (old new text : List Char) : List Char :=
  replaceFrom old new 0 text

/-- Whether `part` occurs in a text. -/
def occurs (part : List Char) : List Char → Bool
  | [] => part.isEmpty
  | c :: rest => part.isPrefixOf (c :: rest) || occurs part rest

/-- A name between braces. -/
def placeholder (name : List Char) : List Char :=
  '\x7b' :: name ++ ['\x7d']

/-- A template with its placeholders filled: the stat first, then each group by its words as one
capitalised name. Nothing comes of a template that needs a stat when there is none. -/
def fill (template : String) (stat : Option String) (groups : List (String × List Char)) :
    Option String :=
  let base :=
    if occurs (placeholder "stat".toList) template.toList then
      stat.map fun s => replaceAll (placeholder "stat".toList) s.toList template.toList
    else
      some template.toList
  base.map fun text => String.ofList (groups.foldl (fun text group =>
    replaceAll (placeholder group.1.toList) (pascalCase group.2) text) text)

end Loadout.Text

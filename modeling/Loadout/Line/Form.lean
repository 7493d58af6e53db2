import Loadout.Fault
import Loadout.Line.Tables
import Loadout.Number.Decimal
import Loadout.Pattern.Compiled
import Loadout.Text.Pieces

/-!
# Forms

A form is a pattern for whole lines. The `#` signs of its text stand for numbers and
become named groups, numbered from the left. A match yields the numbers that can be
read, the words that name the stat, and every other named group that took part.

## Main definitions

* `Form`: a form row with its pattern
* `FormRow.produced?`, `FormRow.templates`: the kind of a form's modifiers and their names
* `Form.ofRow?`: compiles the pattern of a row
* `FormMatch`: what a match yields
* `Form.match?`: the first match in a line
-/

namespace Loadout

/-- The text of the group that the `i`-th `#` of a pattern stands for. -/
def numberGroupName (i : Nat) : String :=
  "n" ++ toString i

/-- Whether a group is named like the groups of numbers. -/
def isNumberGroup (name : String) : Bool :=
  match name.toList with
  | 'n' :: digits => !digits.isEmpty && digits.all Character.isAsciiDigit
  | _ => false

/-- The pattern text of a number, as a named group. -/
def numberGroup (i : Nat) : List Char :=
  ("(?P<" ++ numberGroupName i ++ ">[+-]?\\d+(?:\\.\\d+)?)").toList

/-- The pieces of a pattern text with a number group between neighbours. -/
def expandNumbers (i : Nat) : List (List Char) → List Char
  | [] => []
  | [piece] => piece
  | piece :: more => piece ++ numberGroup i ++ expandNumbers (i + 1) more

/-- The template of a form without outputs: the stat itself. -/
def statTemplate : String :=
  "\x7bstat\x7d"

namespace FormRow

variable {ν : Type}

/-- The kind of the modifiers that a form produces, if it produces any. -/
def produced? (row : FormRow ν) : Option Kind :=
  row.kind.filter fun _ => !row.displayOnly

/-- The names of a form's modifiers before they are filled. -/
def templates (row : FormRow ν) : List String :=
  if row.outputs.isEmpty then [statTemplate] else row.outputs

/-- The pattern text of a form, with a group in the place of each `#`. -/
def expanded (row : FormRow ν) : String :=
  String.ofList (expandNumbers 0 (Text.pieces (· == '#') row.pattern.toList))

end FormRow

/-- A form row with its pattern. -/
structure Form (ν : Type) where
  row : FormRow ν
  pattern : CompiledPattern
  /-- How many `#` signs the pattern text has. -/
  numbers : Nat

namespace Form

variable {ν : Type}

/-- Compiles the pattern of a row, which must say its kind unless it produces nothing. -/
def ofRow? (compile : PatternCompiler) (row : FormRow ν) : Except Fault (Form ν) :=
  if row.kind.isNone && !row.displayOnly then
    .error (.withoutKind row.id)
  else
    match compile row.expanded with
    | .ok pattern =>
      .ok { row, pattern, numbers := (Text.pieces (· == '#') row.pattern.toList).length - 1 }
    | .error reason => .error (.invalidPattern row.pattern reason)

end Form

/-- What the match of a form yields. -/
structure FormMatch (ν : Type) where
  /-- The numbers that can be read, in order. -/
  values : List ν
  /-- The words that name the stat. -/
  stat : Option (List Char)
  /-- The other named groups that took part, in order. -/
  groups : List (String × List Char)

namespace Form

variable {ν : Type} [Scalar ν]

/-- What a match of the form's pattern yields. -/
def yield (f : Form ν) (m : Match) : FormMatch ν :=
  let slots := f.pattern.namedSlots
  let captured (name : String) : Option (List Char) := (slots.lookup name).bind m.group?
  { values := (List.range f.numbers).filterMap fun i =>
      (captured (numberGroupName i)).bind readNumber?
    stat := captured "stat"
    groups := (slots.filter fun slot => slot.1 != "stat" && !isNumberGroup slot.1).filterMap
      fun slot => (m.group? slot.2).map (slot.1, ·) }

/-- What the first match in a line yields. -/
def match? (f : Form ν) (line : List Char) : Option (FormMatch ν) :=
  (f.pattern.find? line).map f.yield

end Form

end Loadout

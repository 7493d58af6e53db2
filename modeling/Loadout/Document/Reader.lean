import Loadout.Document.Basic
import Loadout.Number.Hexadecimal

/-!
# Reading JSON texts

The grammar of JSON, read from the left without going back: blanks are space, tab
and line ends, a string holds no control characters, a number has no leading zero. A
whole number of at most 64 bits stays whole; a larger one, a negative zero and any
number with a fraction or an exponent is rounded to a scalar once.

Each step of the reader consumes a character or hands over to one that does, so a
budget of two steps a character is never used up.

## Main definitions

* `Document.ofJson?`: the document that a text spells
-/

namespace Loadout.Document

variable {ν : Type}

/-- A text without the blanks that JSON allows between tokens in front. -/
def skipBlanks (cs : List Char) : List Char :=
  cs.dropWhile fun c => c == ' ' || c == '\n' || c == '\t' || c == '\r'

/-- The character of a one-letter escape. -/
def escaped? : Char → Option Char
  | '"' => some '"'
  | '\\' => some '\\'
  | '/' => some '/'
  | 'b' => some '\x08'
  | 'f' => some '\x0c'
  | 'n' => some '\n'
  | 'r' => some '\r'
  | 't' => some '\t'
  | _ => none

/-- One unit of a string: a code point or a surrogate given by an escape, or a character as it
stands. -/
inductive StringUnit where
  | char (c : Char)
  | high (n : Nat)
  | low (n : Nat)

/-- The unit that an escape with four digits gives. -/
def StringUnit.ofEscape (n : Nat) : StringUnit :=
  if 0xD800 ≤ n && n < 0xDC00 then .high n
  else if 0xDC00 ≤ n && n < 0xE000 then .low n
  else .char (Char.ofNat n)

/-- The units of a string after its opening quote, in reverse, and what follows the closing
quote. -/
def stringUnits? (units : List StringUnit) : List Char → Option (List StringUnit × List Char)
  | [] => none
  | '"' :: rest => some (units, rest)
  | '\\' :: 'u' :: a :: b :: c :: d :: rest =>
    match Hexadecimal.read? [a, b, c, d] with
    | some n => stringUnits? (.ofEscape n :: units) rest
    | none => none
  | '\\' :: c :: rest =>
    match escaped? c with
    | some c => stringUnits? (.char c :: units) rest
    | none => none
  | c :: rest => if c.toNat < 32 then none else stringUnits? (.char c :: units) rest

/-- The text of string units given in reverse, before `tail`, if every surrogate has its
partner. -/
def textOfUnits? : List StringUnit → List Char → Option (List Char)
  | [], tail => some tail
  | .char c :: rest, tail => textOfUnits? rest (c :: tail)
  | .low l :: .high h :: rest, tail =>
    textOfUnits? rest (Char.ofNat (0x10000 + (h - 0xD800) * 1024 + (l - 0xDC00)) :: tail)
  | _, _ => none

/-- A string after its opening quote: its text, if it has one, and what follows. -/
def string? (cs : List Char) : Option (Option String × List Char) := do
  let (units, rest) ← stringUnits? [] cs
  return ((textOfUnits? units []).map String.ofList, rest)

/-- The digits in front of a text, and what follows. -/
def digits (cs : List Char) : List Char × List Char :=
  (cs.takeWhile Char.isDigit, cs.dropWhile Char.isDigit)

/-- The number that ASCII digits spell. -/
def ofDigits (ds : List Char) : Nat :=
  ds.foldl (fun n c => 10 * n + (c.toNat - 48)) 0

/-- The power of ten after an exponent mark, and what follows. -/
def exponent? (cs : List Char) : Option (Int × List Char) :=
  let (negative, cs) := match cs with
    | '-' :: rest => (true, rest)
    | '+' :: rest => (false, rest)
    | _ => (false, cs)
  let (ds, rest) := digits cs
  if ds.isEmpty then none
  else some (if negative then -(ofDigits ds : Int) else ofDigits ds, rest)

/-- The fraction digits of a number, if it has a point, and what follows. -/
def fraction? : List Char → Option (Option (List Char) × List Char)
  | '.' :: rest =>
    let (ds, rest) := digits rest
    if ds.isEmpty then none else some (some ds, rest)
  | cs => some (none, cs)

/-- The exponent of a number, if it has one, and what follows. -/
def exponentPart? : List Char → Option (Option Int × List Char)
  | 'e' :: rest => (exponent? rest).map fun (e, rest) => (some e, rest)
  | 'E' :: rest => (exponent? rest).map fun (e, rest) => (some e, rest)
  | cs => some (none, cs)

/-- A scalar of a document, unreadable when it exceeds every finite number. -/
def ofScalar [Scalar ν] (x : ν) : Document ν :=
  if Scalar.isFinite x then float x else unreadable

/-- The number that a numeral spells. -/
def ofNumeral [Scalar ν] (negative : Bool) (whole : List Char) (fraction : Option (List Char))
    (exponent : Option Int) : Document ν :=
  match fraction, exponent with
  | none, none =>
    let n : Int := if negative then -(ofDigits whole : Int) else ofDigits whole
    if -Int.pow 2 63 ≤ n && n < Int.pow 2 64 && !(negative && n == 0) then int n
    else ofScalar (Scalar.ofDecimal negative (ofDigits whole) 0)
  | _, _ =>
    let ds := fraction.getD []
    ofScalar (Scalar.ofDecimal negative (ofDigits (whole ++ ds))
      (exponent.getD 0 - (ds.length : Int)))

/-- A number after its sign, and what follows. -/
def unsigned? [Scalar ν] (negative : Bool) (cs : List Char) :
    Option (Document ν × List Char) := do
  let (whole, cs) := digits cs
  guard (whole = ['0'] || (whole ≠ [] && whole.head? ≠ some '0'))
  let (fraction, cs) ← fraction? cs
  let (exponent, cs) ← exponentPart? cs
  return (ofNumeral negative whole fraction exponent, cs)

/-- A number, and what follows. -/
def number? [Scalar ν] : List Char → Option (Document ν × List Char)
  | '-' :: rest => unsigned? true rest
  | cs => unsigned? false cs

/-- A record of members given in reverse; a key without a text makes it unreadable. -/
def ofMembers (members : List (Option String × Document ν)) : Document ν :=
  match members.mapM fun member => member.1.map (·, member.2) with
  | some known => record known.reverse
  | none => unreadable

mutual

/-- A value, and what follows. -/
def value? [Scalar ν] : Nat → List Char → Option (Document ν × List Char)
  | 0, _ => none
  | fuel + 1, cs =>
    match skipBlanks cs with
    | 'n' :: 'u' :: 'l' :: 'l' :: rest => some (null, rest)
    | 't' :: 'r' :: 'u' :: 'e' :: rest => some (bool true, rest)
    | 'f' :: 'a' :: 'l' :: 's' :: 'e' :: rest => some (bool false, rest)
    | '"' :: rest => do
      let (s, rest) ← string? rest
      return (match s with | some s => text s | none => unreadable, rest)
    | '[' :: rest =>
      match skipBlanks rest with
      | ']' :: rest => some (list [], rest)
      | _ => items? fuel [] rest
    | '{' :: rest =>
      match skipBlanks rest with
      | '}' :: rest => some (record [], rest)
      | _ => members? fuel [] rest
    | rest => number? rest

/-- The items of a list from one on, after those given in reverse, and what follows. -/
def items? [Scalar ν] : Nat → List (Document ν) → List Char → Option (Document ν × List Char)
  | 0, _, _ => none
  | fuel + 1, items, cs => do
    let (item, rest) ← value? fuel cs
    match skipBlanks rest with
    | ',' :: rest => items? fuel (item :: items) rest
    | ']' :: rest => some (list (item :: items).reverse, rest)
    | _ => none

/-- The members of a record from one on, after those given in reverse, and what follows. -/
def members? [Scalar ν] : Nat → List (Option String × Document ν) → List Char →
    Option (Document ν × List Char)
  | 0, _, _ => none
  | fuel + 1, members, cs =>
    match skipBlanks cs with
    | '"' :: rest => do
      let (key, rest) ← string? rest
      match skipBlanks rest with
      | ':' :: rest => do
        let (value, rest) ← value? fuel rest
        match skipBlanks rest with
        | ',' :: rest => members? fuel ((key, value) :: members) rest
        | '}' :: rest => some (ofMembers ((key, value) :: members), rest)
        | _ => none
      | _ => none
    | _ => none

end

/-- The document that a JSON text spells, if the whole text is one value. -/
def ofJson? [Scalar ν] (json : String) : Option (Document ν) := do
  let cs := json.toList
  let (d, rest) ← value? (2 * cs.length + 2) cs
  guard (skipBlanks rest = [])
  return d

end Loadout.Document

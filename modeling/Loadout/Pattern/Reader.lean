import Loadout.Number.Hexadecimal
import Loadout.Pattern.Compiled

/-!
# Reading patterns

Patterns are written in the usual notation: literals, escapes, classes in brackets
with their set operations, groups, alternatives, and greedy, lazy and counted
repetition. There is no looking around and no reference to an earlier group. Flags hold
from where they are set to the end of the group they are set in. This is the part of the
notation that tables use; a fuller compiler also knows other classes and flags.

Reading either gives the pattern with the names of its groups, or the first fault from
the left. Every step consumes a character or hands over to one that does, at most three
times, which is what the budget counts.

## Main definitions

* `PatternFault`: why a text is no pattern
* `NamedPattern`: a pattern and the names of its groups
* `NamedPattern.read`: reads a pattern
* `NamedPattern.compile`: the compiler for patterns that are read
-/

namespace Loadout

/-- Why a text is no pattern. -/
inductive PatternFault where
  | unclosedGroup
  | unopenedGroup
  | unclosedClass
  | unclosedCount
  | nothingToRepeat
  | badCount
  | reversedCount
  | lookAround
  | backReference
  | badEscape
  | endsInEscape
  | badCodePoint
  | unknownClass
  | reversedRange
  | badRangeEnd
  | badFlag
  | badGroupName
  | duplicateGroupName
  deriving DecidableEq, Repr

/-- A pattern with the names of its groups. Group `n` is the `n`-th to open; group 0 does not
count. -/
structure NamedPattern where
  pattern : Pattern
  names : List (Option String)

namespace PatternReader

/-- The flags that change how a pattern is read. -/
structure Flags where
  ignoreCase : Bool := false
  multiLine : Bool := false
  dotMatchesNewline : Bool := false
  swapGreed : Bool := false
  verbose : Bool := false

/-- What remains to be read, the flags in force and the names of the groups so far, latest first. -/
structure State where
  rest : List Char
  flags : Flags
  names : List (Option String)

/-- A step of reading. -/
abbrev Read := StateT State (Except PatternFault)

/-- Drops blanks where the pattern is verbose. -/
def skipBlanks : Read Unit :=
  modify fun s =>
    if s.flags.verbose then { s with rest := s.rest.dropWhile Character.isBlank } else s

/-- What remains. -/
def rest : Read (List Char) :=
  return (← get).rest

/-- Goes on with what remains after something was read. -/
def goOn (rest : List Char) : Read Unit :=
  modify fun s => { s with rest }

/-- Whether case is ignored. -/
def ignoresCase : Read Bool :=
  return (← get).flags.ignoreCase

/-- A set as the flags in force take it. -/
def fold (s : CharSet) : Read CharSet :=
  return if ← ignoresCase then s.caseless else s

/-! ### Escapes -/

/-- What an escape stands for. -/
inductive Escape where
  | literal (c : Char)
  | set (s : CharSet)
  | anchor (a : Anchor)

/-- Whether a backslash takes a character's special meaning away. -/
def isEscapable (c : Char) : Bool :=
  c.toNat < 128 && !Character.isAsciiLetter c && !Character.isAsciiDigit c && c != '<' && c != '>'

/-- The character of a number, if it has one. -/
def codePoint? (n : Nat) : Option Char :=
  if n < 0xD800 || (0xE000 ≤ n && n < 0x110000) then some (Char.ofNat n) else none

/-- A character given by its number: a fixed count of digits, or any count in braces. -/
def readCodePoint (count : Nat) : Read Escape := do
  let cs ← rest
  let (ds, after) ← match cs with
    | '\x7b' :: inner =>
      match inner.dropWhile (· != '\x7d') with
      | _ :: after => pure (inner.takeWhile (· != '\x7d'), after)
      | [] => throw .badCodePoint
    | _ => if cs.length < count then throw .badCodePoint else pure (cs.take count, cs.drop count)
  match (Hexadecimal.read? ds).bind codePoint? with
  | some c =>
    goOn after
    return .literal c
  | none => throw .badCodePoint

/-- A class by its name, letters of either case being the same and separators not counting. -/
def classNamed? (name : List Char) : Option CharSet :=
  let plain := (name.filter fun c => !(c == '_' || c == '-' || c == ' ')).map fun c =>
    if 65 ≤ c.toNat && c.toNat ≤ 90 then Char.ofNat (c.toNat + 32) else c
  match String.ofList plain with
  | "greek" | "grek" => some (.named .greek)
  | "alphabetic" | "alpha" => some (.named .letter)
  | "whitespace" | "wspace" | "space" => some (.named .blank)
  | "nd" | "decimalnumber" | "digit" => some (.named .digit)
  | "n" | "number" => some (.named .number)
  | "any" => some (.compl .none)
  | "ascii" => some (.range '\x00' '\x7f')
  | _ => none

/-- A class with a name, after `\p`. -/
def readNamedClass : Read CharSet := do
  let (name, after) ← match ← rest with
    | '\x7b' :: inner =>
      match inner.dropWhile (· != '\x7d') with
      | _ :: after => pure (inner.takeWhile (· != '\x7d'), after)
      | [] => throw .unknownClass
    | c :: after => pure ([c], after)
    | [] => throw .unknownClass
  match classNamed? name with
  | some s =>
    goOn after
    fold s
  | none => throw .unknownClass

/-- The boundaries that are named in braces after `\b`. -/
def namedBoundaries : List (List Char × Anchor) :=
  [("start".toList, .wordStart), ("end".toList, .wordEnd), ("start-half".toList, .wordStartHalf),
    ("end-half".toList, .wordEndHalf)]

/-- The boundary after `\b`. Braces with something else than a name are a count. -/
def readBoundary : Read Escape := do
  match ← rest with
  | '\x7b' :: inner =>
    let name := inner.takeWhile fun c => Character.isAsciiLetter c || c == '-'
    match inner.dropWhile fun c => Character.isAsciiLetter c || c == '-' with
    | '\x7d' :: after =>
      if name.isEmpty then
        return .anchor .boundary
      else
        match namedBoundaries.lookup name with
        | some a =>
          goOn after
          return .anchor a
        | none => throw .badEscape
    | _ => if name.isEmpty then return .anchor .boundary else throw .badEscape
  | _ => return .anchor .boundary

/-- What stands after a backslash. -/
def readEscape : Read Escape := do
  match ← rest with
  | [] => throw .endsInEscape
  | c :: after =>
    goOn after
    match c with
    | 'x' => readCodePoint 2
    | 'u' => readCodePoint 4
    | 'U' => readCodePoint 8
    | 'p' => return .set (← readNamedClass)
    | 'P' => return .set (← readNamedClass).compl
    | 'd' => return .set (.named .digit)
    | 'D' => return .set (.compl (.named .digit))
    | 's' => return .set (.named .blank)
    | 'S' => return .set (.compl (.named .blank))
    | 'w' => return .set (.named .word)
    | 'W' => return .set (.compl (.named .word))
    | 'a' => return .literal '\x07'
    | 'f' => return .literal '\x0c'
    | 't' => return .literal '\t'
    | 'n' => return .literal '\n'
    | 'r' => return .literal '\r'
    | 'v' => return .literal '\x0b'
    | 'A' => return .anchor .textStart
    | 'z' => return .anchor .textEnd
    | 'b' => readBoundary
    | 'B' => return .anchor .notBoundary
    | '<' => return .anchor .wordStart
    | '>' => return .anchor .wordEnd
    | c =>
      if Character.isAsciiDigit c then throw .backReference
      else if isEscapable c then return .literal c
      else throw .badEscape

/-! ### Classes in brackets -/

/-- The ASCII classes that may be named within brackets. -/
def asciiClass? (name : List Char) : Option CharSet :=
  let digit : CharSet := .range '0' '9'
  let lower : CharSet := .range 'a' 'z'
  let upper : CharSet := .range 'A' 'Z'
  let alpha := lower.union upper
  match String.ofList name with
  | "alnum" => some (alpha.union digit)
  | "alpha" => some alpha
  | "ascii" => some (.range '\x00' '\x7f')
  | "blank" => some (.ofText "\t ")
  | "cntrl" => some ((CharSet.range '\x00' '\x1f').union (.one '\x7f'))
  | "digit" => some digit
  | "graph" => some (.range '!' '~')
  | "lower" => some lower
  | "print" => some (.range ' ' '~')
  | "punct" => some ((CharSet.range '!' '~').diff (alpha.union digit))
  | "space" => some (.ofText "\t\n\x0b\x0c\r ")
  | "upper" => some upper
  | "word" => some ((alpha.union digit).union (.one '_'))
  | "xdigit" => some (((CharSet.range 'a' 'f').union (.range 'A' 'F')).union digit)
  | _ => none

/-- An ASCII class within brackets, after its opening bracket and colon, and what follows. -/
def asciiClassAfter? (cs : List Char) : Option (CharSet × List Char) :=
  let (negated, cs) := match cs with
    | '^' :: inner => (true, inner)
    | _ => (false, cs)
  match cs.dropWhile (· != ':') with
  | ':' :: ']' :: after =>
    (asciiClass? (cs.takeWhile (· != ':'))).map fun s =>
      (if negated then s.compl else s, after)
  | _ => none

/-- The operations on sets within brackets. -/
inductive SetOperation where
  | inter
  | diff
  | symmDiff

/-- The operation applied to two sets. -/
def SetOperation.apply : SetOperation → CharSet → CharSet → CharSet
  | inter => .inter
  | diff => .diff
  | symmDiff => .symmDiff

/-- The sets within brackets so far: what an operation waits with, and the union being read. -/
structure Brackets where
  waiting : Option (CharSet × SetOperation) := none
  current : CharSet := .none

/-- Everything within the brackets so far. -/
def Brackets.total (b : Brackets) : Read CharSet := do
  match b.waiting with
  | some (s, op) => return op.apply (← fold s) (← fold b.current)
  | none => return b.current

/-- One character or class within brackets. -/
def readBracketItem : Read Escape := do
  match ← rest with
  | '\\' :: after =>
    goOn after
    readEscape
  | c :: after =>
    goOn after
    return .literal c
  | [] => throw .unclosedClass

/-- An item that is no end of a range, as a set. -/
def Escape.toSet : Escape → Read CharSet
  | literal c => return .one c
  | set s => return s
  | anchor _ => throw .badEscape

/-- An item or a range. A hyphen before the closing bracket or another hyphen makes no range. -/
def readBracketRange : Read CharSet := do
  let low ← readBracketItem
  skipBlanks
  match ← rest with
  | [] => throw .unclosedClass
  | '-' :: after =>
    let next := if (← get).flags.verbose then after.dropWhile Character.isBlank else after
    match next with
    | ']' :: _ => low.toSet
    | '-' :: _ => low.toSet
    | [] => throw .unclosedClass
    | _ =>
      goOn next
      let high ← readBracketItem
      match low, high with
      | .literal a, .literal b =>
        if a.toNat ≤ b.toNat then return .range a b else throw .reversedRange
      | _, _ => throw .badRangeEnd
  | _ => low.toSet

/-- The opening of a class after its bracket: whether it is negated, and the hyphens and the
closing bracket that stand for themselves. -/
def readBracketOpening : Read (Bool × CharSet) := do
  skipBlanks
  let negated ← match ← rest with
    | '^' :: after => do
      goOn after
      pure true
    | _ => pure false
  skipBlanks
  let cs ← rest
  let after := cs.dropWhile (· == '-')
  if after.length < cs.length then
    goOn after
    skipBlanks
    return (negated, .one '-')
  match cs with
  | ']' :: after =>
    goOn after
    return (negated, .one ']')
  | _ => return (negated, .none)

mutual

/-- A class after its opening bracket. -/
def readClass : Nat → Read CharSet
  | 0 => throw .unclosedClass
  | budget + 1 => do
    let (negated, opening) ← readBracketOpening
    let s ← readBrackets budget { current := opening }
    let s ← fold s
    return if negated then s.compl else s

/-- The rest of a class up to its closing bracket. -/
def readBrackets : Nat → Brackets → Read CharSet
  | 0, _ => throw .unclosedClass
  | budget + 1, b => do
    skipBlanks
    match ← rest with
    | [] => throw .unclosedClass
    | ']' :: after =>
      goOn after
      b.total
    | '[' :: after =>
      match after with
      | ':' :: inner =>
        match asciiClassAfter? inner with
        | some (s, after) =>
          goOn after
          readBrackets budget { b with current := b.current.union (← fold s) }
        | none =>
          goOn after
          let s ← readClass budget
          readBrackets budget { b with current := b.current.union s }
      | _ =>
        goOn after
        let s ← readClass budget
        readBrackets budget { b with current := b.current.union s }
    | '&' :: '&' :: after =>
      goOn after
      readBrackets budget { waiting := some (← b.total, .inter) }
    | '-' :: '-' :: after =>
      goOn after
      readBrackets budget { waiting := some (← b.total, .diff) }
    | '~' :: '~' :: after =>
      goOn after
      readBrackets budget { waiting := some (← b.total, .symmDiff) }
    | _ =>
      let s ← readBracketRange
      readBrackets budget { b with current := b.current.union s }

end

/-! ### Repetition -/

/-- A decimal number, with blanks around it, and what follows. -/
def countAfter? (cs : List Char) : Option (Nat × List Char) :=
  let cs := cs.dropWhile Character.isBlank
  let ds := cs.takeWhile Character.isAsciiDigit
  let n := ds.foldl (fun n c => 10 * n + (c.toNat - 48)) 0
  if ds.isEmpty || Nat.pow 2 32 ≤ n then none
  else some (n, (cs.dropWhile Character.isAsciiDigit).dropWhile Character.isBlank)

/-- The bounds of a counted repetition, after its opening brace. -/
def readCount : Read (Nat × Option Nat) := do
  let cs ← rest
  if cs.isEmpty then throw .unclosedCount
  match countAfter? cs with
  | none => throw .badCount
  | some (least, after) =>
    match after with
    | '\x7d' :: after =>
      goOn after
      return (least, some least)
    | ',' :: after =>
      match after.dropWhile Character.isBlank with
      | '\x7d' :: after =>
        goOn after
        return (least, none)
      | [] => throw .unclosedCount
      | _ =>
        match countAfter? after with
        | some (most, '\x7d' :: after) =>
          goOn after
          if most < least then throw .reversedCount
          return (least, some most)
        | some _ => throw .unclosedCount
        | none => throw .badCount
    | _ => throw .unclosedCount

/-- Whether a repetition whose operator was just read prefers more rounds. -/
def readGreed : Read Bool := do
  let swap := (← get).flags.swapGreed
  match ← rest with
  | '?' :: after =>
    goOn after
    return swap
  | _ => return !swap

/-- The repetitions of a pattern that was just read. -/
def readRepetitions : Nat → Pattern → Read Pattern
  | 0, p => return p
  | budget + 1, p => do
    skipBlanks
    match ← rest with
    | '*' :: after =>
      goOn after
      readRepetitions budget (.repeated p 0 none (← readGreed))
    | '+' :: after =>
      goOn after
      readRepetitions budget (.repeated p 1 none (← readGreed))
    | '?' :: after =>
      goOn after
      readRepetitions budget (.repeated p 0 (some 1) (← readGreed))
    | '\x7b' :: after =>
      goOn after
      let (least, most) ← readCount
      readRepetitions budget (.repeated p least most (← readGreed))
    | _ => return p

/-! ### Groups -/

/-- Whether a character may stand in a group's name. -/
def isNameChar (first : Bool) (c : Char) : Bool :=
  if first then c == '_' || Character.isAlphabetic c
  else c == '_' || c == '.' || c == '[' || c == ']' || Character.isAlphanumeric c

/-- Whether a text can name a group. -/
def isGroupName : List Char → Bool
  | [] => false
  | c :: cs => isNameChar true c && cs.all (isNameChar false)

/-- The name of a group up to its closing angle. -/
def readGroupName : Read String := do
  let cs ← rest
  let name := cs.takeWhile (· != '>')
  match cs.dropWhile (· != '>') with
  | _ :: after =>
    if !isGroupName name then throw .badGroupName
    let name := String.ofList name
    if (← get).names.contains (some name) then throw .duplicateGroupName
    goOn after
    return name
  | [] => throw .badGroupName

/-- The flags with one of them switched. -/
def Flags.switch? (f : Flags) (c : Char) (on : Bool) : Option Flags :=
  match c with
  | 'i' => some { f with ignoreCase := on }
  | 'm' => some { f with multiLine := on }
  | 's' => some { f with dotMatchesNewline := on }
  | 'U' => some { f with swapGreed := on }
  | 'x' => some { f with verbose := on }
  | 'u' => if on then some f else none
  | _ => none

/-- Flags after an opening parenthesis and question mark: each letter once, those after a hyphen
switched off. Gives the flags and whether any letter was read, up to the colon or parenthesis. -/
def flagsAfter? (on : Bool) (seen : List Char) (f : Flags) :
    List Char → Option (Flags × Bool × List Char)
  | [] => none
  | c :: rest =>
    if c == ':' || c == ')' then
      if seen.head? == some '-' then none else some (f, !seen.isEmpty, c :: rest)
    else if seen.contains c then none
    else if c == '-' then flagsAfter? false (c :: seen) f rest
    else
      match f.switch? c on with
      | some f => flagsAfter? on (c :: seen) f rest
      | none => none

/-- What an opening parenthesis opens. -/
inductive Opening where
  | capturing (name : Option String)
  | plain (flags : Flags)
  /-- Not a group: flags for the rest of the group around it. -/
  | directive (flags : Flags)

/-- What follows an opening parenthesis. -/
def readOpening : Read Opening := do
  match ← rest with
  | '?' :: '=' :: _ => throw .lookAround
  | '?' :: '!' :: _ => throw .lookAround
  | '?' :: '<' :: '=' :: _ => throw .lookAround
  | '?' :: '<' :: '!' :: _ => throw .lookAround
  | '?' :: 'P' :: '<' :: after =>
    goOn after
    return .capturing (some (← readGroupName))
  | '?' :: '<' :: after =>
    goOn after
    return .capturing (some (← readGroupName))
  | '?' :: [] => throw .unclosedGroup
  | '?' :: after =>
    match flagsAfter? true [] (← get).flags after with
    | some (flags, _, ':' :: after) =>
      goOn after
      return .plain flags
    | some (flags, any, _ :: after) =>
      if !any then throw .nothingToRepeat
      goOn after
      return .directive flags
    | _ => throw .badFlag
  | _ => return .capturing none

/-- The set that a dot stands for. -/
def dot (f : Flags) : CharSet :=
  if f.dotMatchesNewline then .compl .none else .compl (.one '\n')

mutual

/-- Alternatives up to a closing parenthesis or the end. -/
def readAlternatives : Nat → Read Pattern
  | 0 => throw .unclosedGroup
  | budget + 1 => do
    let left ← readSequence budget
    match ← rest with
    | '|' :: after =>
      goOn after
      return .alt left (← readAlternatives budget)
    | _ => return left

/-- A sequence up to a bar, a closing parenthesis or the end. -/
def readSequence : Nat → Read Pattern
  | 0 => throw .unclosedGroup
  | budget + 1 => do
    skipBlanks
    match ← rest with
    | [] => return .empty
    | ')' :: _ => return .empty
    | '|' :: _ => return .empty
    | _ =>
      match ← readAtom budget with
      | none =>
        skipBlanks
        match ← rest with
        | '*' :: _ | '+' :: _ | '?' :: _ | '\x7b' :: _ => throw .nothingToRepeat
        | _ => readSequence budget
      | some atom =>
        let first ← readRepetitions budget atom
        match ← readSequence budget with
        | .empty => return first
        | second => return .seq first second

/-- A single pattern, or nothing for a setting of flags. -/
def readAtom : Nat → Read (Option Pattern)
  | 0 => throw .unclosedGroup
  | budget + 1 => do
    let flags := (← get).flags
    match ← rest with
    | [] => throw .nothingToRepeat
    | c :: after =>
      goOn after
      match c with
      | '(' =>
        match ← readOpening with
        | .directive flags =>
          modify fun s => { s with flags }
          return none
        | .plain inner =>
          modify fun s => { s with flags := inner }
          return some (← readGroup budget flags)
        | .capturing name =>
          modify fun s => { s with names := name :: s.names }
          let slot := (← get).names.length
          return some (.group slot (← readGroup budget flags))
      | '[' => return some (.char (← readClass budget))
      | '\\' =>
        match ← readEscape with
        | .literal c => return some (.char (← fold (.one c)))
        | .set s => return some (.char s)
        | .anchor a => return some (.anchor a)
      | '.' => return some (.char (dot flags))
      | '^' => return some (.anchor (if flags.multiLine then .lineStart else .textStart))
      | '$' => return some (.anchor (if flags.multiLine then .lineEnd else .textEnd))
      | '*' | '+' | '?' | '\x7b' => throw .nothingToRepeat
      | c => return some (.char (← fold (.one c)))

/-- The inside of a group and its closing parenthesis, after which the flags from before hold. -/
def readGroup : Nat → Flags → Read Pattern
  | 0, _ => throw .unclosedGroup
  | budget + 1, outer => do
    let p ← readAlternatives budget
    match ← rest with
    | ')' :: after =>
      modify fun s => { s with rest := after, flags := outer }
      return p
    | _ => throw .unclosedGroup

end

end PatternReader

namespace NamedPattern

open PatternReader in
/-- Reads a pattern. -/
def read (text : String) : Except PatternFault NamedPattern := do
  let cs := text.toList
  let (p, s) ← (readAlternatives (4 * cs.length + 4)).run ⟨cs, {}, []⟩
  if s.rest.isEmpty then
    return ⟨p, s.names.reverse⟩
  else
    throw .unopenedGroup

/-- A pattern that was read, to search with. -/
def compiled (p : NamedPattern) : CompiledPattern :=
  ⟨p.names, p.pattern.find?⟩

/-- The compiler for patterns that are read. -/
def compile : PatternCompiler := fun text =>
  match read text with
  | .ok p => .ok p.compiled
  | .error _ => .error "syntax"

theorem compile_eq_ok_iff {text : String} {q : CompiledPattern} :
    compile text = .ok q ↔ ∃ p, read text = .ok p ∧ p.compiled = q := by
  unfold compile
  cases read text <;> simp

end NamedPattern

end Loadout

import Loadout.Pattern.CharSet

/-!
# Patterns and how they match

A pattern matches at a place of a text and leads to a later place. Among several ways
to match the first in preference order counts: the left alternative before the right
one, another round of a repetition before leaving it, or the other way round where the
repetition is lazy. The search tries the places of a text from the left.

Matching hands each place that a pattern leads to over to a continuation, and takes
the first that the continuation accepts. Only unbounded repetition could go on without
end. There the first round may consume nothing, and then the repetition is left; a
later round that consumes nothing is refused. So the rounds are counted off by the
characters that remain.

## Main definitions

* `Pattern`: the patterns
* `Place`: a position in a text, with what the groups have captured so far
* `Pattern.run`: the first way to match that a continuation accepts
* `Pattern.find?`: the leftmost match in a text
* `Match`: a match with the text before and after it
-/

namespace Loadout

/-- A condition on a place that consumes nothing. -/
inductive Anchor where
  | textStart
  | textEnd
  | lineStart
  | lineEnd
  | boundary
  | notBoundary
  | wordStart
  | wordEnd
  | wordStartHalf
  | wordEndHalf
  deriving DecidableEq, Repr

/-- What a text is matched against. -/
inductive Pattern where
  | empty
  | char (s : CharSet)
  | anchor (a : Anchor)
  /-- Captures what the pattern matches under a number. -/
  | group (slot : Nat) (p : Pattern)
  | seq (p q : Pattern)
  | alt (p q : Pattern)
  | repeated (p : Pattern) (least : Nat) (most : Option Nat) (greedy : Bool)
  deriving DecidableEq, Repr

/-- A position in a text, with what the groups have captured so far, latest first. -/
structure Place where
  /-- The text before the position, nearest character first. -/
  before : List Char
  rest : List Char
  captures : List (Nat × List Char)
  deriving DecidableEq, Repr

namespace Place

/-- The start of a text. -/
def start (text : List Char) : Place :=
  ⟨[], text, []⟩

/-- Whether the character before the position continues a word. -/
def wordBefore (p : Place) : Bool :=
  p.before.head?.any Character.isWord

/-- Whether the character after the position continues a word. -/
def wordAfter (p : Place) : Bool :=
  p.rest.head?.any Character.isWord

/-- The text between an earlier place and this one. -/
def since (p earlier : Place) : List Char :=
  earlier.rest.take (earlier.rest.length - p.rest.length)

/-- The place with the text since an earlier place captured under a number. -/
def capture (p : Place) (slot : Nat) (earlier : Place) : Place :=
  { p with captures := (slot, p.since earlier) :: p.captures }

end Place

/-- Whether an anchor holds at a place. -/
def Anchor.holds (a : Anchor) (p : Place) : Bool :=
  match a with
  | textStart => p.before.isEmpty
  | textEnd => p.rest.isEmpty
  | lineStart => p.before.head?.all (· == '\n')
  | lineEnd => p.rest.head?.all (· == '\n')
  | boundary => p.wordBefore != p.wordAfter
  | notBoundary => p.wordBefore == p.wordAfter
  | wordStart => !p.wordBefore && p.wordAfter
  | wordEnd => p.wordBefore && !p.wordAfter
  | wordStartHalf => !p.wordBefore
  | wordEndHalf => !p.wordAfter

namespace Pattern

/-- What to do with a place that a pattern leads to. -/
abbrev Continuation := Place → Option Place

/-- A way to match: the first place that a continuation accepts. -/
abbrev Step := Continuation → Continuation

/-- The first of two ways, or the second first. -/
def prefer (firstWay : Bool) (a b : Unit → Option Place) : Option Place :=
  if firstWay then (a ()).or (b ()) else (b ()).or (a ())

/-- A number of rounds. -/
def exactly (step : Step) : Nat → Step
  | 0, k => k
  | n + 1, k => step (exactly step n k)

/-- At most a number of rounds. -/
def upTo (step : Step) (greedy : Bool) (k : Continuation) : Nat → Continuation
  | 0, p => k p
  | n + 1, p => prefer greedy (fun _ => step (upTo step greedy k n) p) fun _ => k p

/-- Further rounds after one that consumed something. Each consumes, so `n` remaining characters
allow at most `n` of them. -/
def furtherRounds (step : Step) (greedy : Bool) (k : Continuation) : Nat → Continuation
  | 0, p => k p
  | n + 1, p =>
    prefer greedy
      (fun _ => step
        (fun q =>
          if q.rest.length < p.rest.length then furtherRounds step greedy k n q else none) p)
      fun _ => k p

/-- One round or more. A first round that consumes nothing is the only one. -/
def oneOrMore (step : Step) (greedy : Bool) (k : Continuation) : Continuation := fun p =>
  step
    (fun q =>
      if q.rest.length < p.rest.length then furtherRounds step greedy k q.rest.length q else k q) p

/-- At least a number of rounds. -/
def atLeast (step : Step) (greedy : Bool) : Nat → Step
  | 0, k => fun p => prefer greedy (fun _ => oneOrMore step greedy k p) fun _ => k p
  | n + 1, k => exactly step n (oneOrMore step greedy k)

/-- The first place to which the pattern leads and which the continuation accepts. -/
def run : Pattern → Step
  | empty, k => k
  | char s, k => fun p =>
    match p.rest with
    | c :: rest => if s.contains c then k { p with before := c :: p.before, rest } else none
    | [] => none
  | anchor a, k => fun p => if a.holds p then k p else none
  | group slot body, k => fun p => run body (fun q => k (q.capture slot p)) p
  | seq first second, k => run first (run second k)
  | alt left right, k => fun p => prefer true (fun _ => run left k p) fun _ => run right k p
  | repeated body least most greedy, k =>
    match most with
    | some most => exactly (run body) least (upTo (run body) greedy k (most - least))
    | none => atLeast (run body) greedy least k

/-- A pattern for each of several in turn. -/
def sequence (ps : List Pattern) : Pattern :=
  ps.foldr seq empty

/-- A pattern for a text as it stands. -/
def literal (text : List Char) : Pattern :=
  sequence (text.map fun c => char (.one c))

end Pattern

/-- A match: the text before it, nearest character first, the text itself, the text after it and
what the groups captured, latest first. -/
structure Match where
  before : List Char
  text : List Char
  after : List Char
  captures : List (Nat × List Char)

namespace Match

/-- What a group captured, if it took part. -/
def group? (m : Match) (slot : Nat) : Option (List Char) :=
  m.captures.lookup slot

/-- The text with something else in the place of the match. -/
def replace (m : Match) (text : List Char) : List Char :=
  m.before.reverse ++ text ++ m.after

end Match

namespace Pattern

/-- The match that starts at a place. -/
def matchAt? (p : Pattern) (place : Place) : Option Match :=
  (p.run some place).map fun q => ⟨place.before, q.since place, q.rest, q.captures⟩

/-- The leftmost match in the text `rest`, which follows the characters `before`. -/
def findAfter? (p : Pattern) (before : List Char) (rest : List Char) : Option Match :=
  match p.matchAt? ⟨before, rest, []⟩ with
  | some m => some m
  | none =>
    match rest with
    | [] => none
    | c :: rest => p.findAfter? (c :: before) rest

/-- The leftmost match in a text. -/
def find? (p : Pattern) (text : List Char) : Option Match :=
  p.findAfter? [] text

end Pattern

end Loadout

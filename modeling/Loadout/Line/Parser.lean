import Loadout.Line.Grammar

/-!
# A parser that remembers lines

Many inputs repeat the same lines. A parser keeps the interpretation of each line in
normal form that it has read and drops all of them when there are too many. Only what
does not depend on the place of a line is kept. A line without an outcome has no answer, and
neither has a block with such a line.

## Main definitions

* `Parser`: a grammar with remembered lines
* `Parser.parse?`, `Parser.parseLines?`
-/

namespace Loadout

/-- A grammar with remembered lines. -/
structure Parser (ν : Type) where
  grammar : Grammar ν
  memo : Std.HashMap String (Interpretation ν)

namespace Parser

variable {ν : Type}

/-- How many lines are remembered before all are dropped. -/
def capacity : Nat :=
  8192

/-- A parser that remembers nothing yet. -/
def ofGrammar (grammar : Grammar ν) : Parser ν :=
  { grammar, memo := ∅ }

/-- A parser for tables, or their first fault. -/
def ofTables? [Scalar ν] (compile : PatternCompiler) (t : ParserTables ν) :
    Except Fault (Parser ν) :=
  (Grammar.ofTables? compile t).map ofGrammar

/-- Forgets every remembered line. -/
def clearMemo (p : Parser ν) : Parser ν :=
  { p with memo := ∅ }

/-- Remembers the interpretation of a line. -/
def remember (p : Parser ν) (line : String) (i : Interpretation ν) : Parser ν :=
  let memo := if capacity ≤ p.memo.size then ∅ else p.memo
  { p with memo := memo.insert line i }

variable [Scalar ν]

/-- The interpretation of a line in normal form, remembered or new. -/
def interpret? (p : Parser ν) (line : String) : Option (Interpretation ν × Parser ν) :=
  match p.memo[line]? with
  | some i => some (i, p)
  | none => (p.grammar.interpret? line).map fun i => (i, p.remember line i)

/-- The outcome of a line at a place. -/
def parse? (p : Parser ν) (text : String) (ctx : LineContext) : Option (Outcome ν × Parser ν) :=
  let line := Text.normal text
  if line = "" then
    some (.unsupported "empty modifier text", p)
  else
    (p.interpret? line).map fun (i, p) => (i.outcome.stamp ctx i.isLocal, p)

/-- The outcomes of several lines in turn. -/
def parseEach? (p : Parser ν) (ctx : LineContext) :
    List String → Option (List (Outcome ν) × Parser ν)
  | [] => some ([], p)
  | line :: rest => do
    let (outcome, p) ← p.parse? line ctx
    let (outcomes, p) ← p.parseEach? ctx rest
    return (outcome :: outcomes, p)

/-- The outcomes of the nonblank lines of a block. -/
def parseLines? (p : Parser ν) (text : String) (ctx : LineContext) :
    Option (List (Outcome ν) × Parser ν) :=
  p.parseEach? ctx (Text.nonblankLines text)

end Parser

end Loadout

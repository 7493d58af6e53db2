import Loadout.Proofs.Line.Memory
import Loadout.Proofs.Text.Lines

/-!
# Blocks of lines

A block is read line by line, and the parser that one line leaves behind reads the next. So two
blocks with a line feed between them are read as the first and then, by the parser that it leaves
behind, the second. What a parser remembers cannot be seen in its answers, and the blanks that are
trimmed off a line cannot be seen in its normal form. Hence the answers to a block are those of a
new parser to each line of it as it is written. A line that is read without end takes the whole
block with it.

## Main results

* `Parser.parseLines?_append_feed`: a block is read as its parts in turn
* `Parser.parseLines_homomorphic`: the answers to a block are those to its lines
-/

namespace Loadout

variable {ν : Type} [Scalar ν]

theorem Grammar.parse?_trim (g : Grammar ν) (line : List Char) (ctx : LineContext) :
    g.parse? (String.ofList (Text.trim line)) ctx = g.parse? (String.ofList line) ctx := by
  simp only [parse?, parseBy?, Text.normal_trim]

namespace Parser

/-- Lines are read in turn, each by the parser that those before it leave behind. -/
theorem parseEach?_append (p : Parser ν) (ctx : LineContext) (first second : List String) :
    p.parseEach? ctx (first ++ second) = do
      let (outcomes, p) ← p.parseEach? ctx first
      let (more, p) ← p.parseEach? ctx second
      return (outcomes ++ more, p) := by
  induction first generalizing p with
  | nil => simp [parseEach?]
  | cons line first ih => simp [parseEach?, ih, Option.bind_assoc]

/-- A block is read as its parts in turn, whatever the parser remembers. -/
theorem parseLines?_append_feed (p : Parser ν) (ctx : LineContext) (a b : String) :
    p.parseLines? (a ++ "\n" ++ b) ctx = do
      let (outcomes, p) ← p.parseLines? a ctx
      let (more, p) ← p.parseLines? b ctx
      return (outcomes ++ more, p) := by
  simp only [parseLines?, Text.nonblankLines_append, parseEach?_append]

/-- The lines of a block that are not blank, as they are written. -/
def writtenLines (text : String) : List String :=
  ((Text.lines text.toList).filter (!Text.isBlankLine ·)).map String.ofList

theorem mapM_nonblankLines (g : Grammar ν) (text : String) (ctx : LineContext) :
    ((Text.nonblankLines text).mapM fun line => g.parse? line ctx) =
      (writtenLines text).mapM fun line => g.parse? line ctx := by
  rw [Text.nonblankLines_eq, writtenLines, List.mapM_map, List.mapM_map]
  simp only [Function.comp_def, g.parse?_trim]

theorem Faithful.parseLines? {g : Grammar ν} {p : Parser ν} (h : p.Faithful g) (text : String)
    (ctx : LineContext) :
    Gives g (p.parseLines? text ctx) ((writtenLines text).mapM fun line => g.parse? line ctx) := by
  rw [← mapM_nonblankLines]
  exact h.parseEach? ctx (Text.nonblankLines text)

/-- Reading a block of two parts with a line feed between them is reading the parts in turn, also
for the parser that is left. For a parser that came out of any requests, the answers to the block
are those to its parts, and its answers to a block are, in order, those of a new parser to each
line that is not blank, alone and as it is written. There are none exactly when the reading of such
a line cuts flags and there is an empty flag phrase. -/
theorem parseLines_homomorphic (g : Grammar ν) {requests : List Request}
    {answers : List (List (Outcome ν))} {p : Parser ν}
    (hp : (ofGrammar g).serveAll? requests = some (answers, p)) (ctx : LineContext) :
    (∀ (q : Parser ν) (a b : String), q.parseLines? (a ++ "\n" ++ b) ctx = do
      let (outcomes, q) ← q.parseLines? a ctx
      let (more, q) ← q.parseLines? b ctx
      return (outcomes ++ more, q)) ∧
    (∀ a b : String, (p.parseLines? (a ++ "\n" ++ b) ctx).map Prod.fst = do
      let outcomes ← (p.parseLines? a ctx).map Prod.fst
      let more ← (p.parseLines? b ctx).map Prod.fst
      return outcomes ++ more) ∧
    ∀ text : String,
      (p.parseLines? text ctx).map Prod.fst =
        (writtenLines text).mapM (fun line => ((ofGrammar g).parse? line ctx).map Prod.fst) ∧
      (p.parseLines? text ctx = none ↔ (∃ line ∈ writtenLines text,
        Text.normal line ≠ "" ∧ g.ReachesFlags (Text.normal line)) ∧
          ∃ phrase ∈ g.flags.phrases, phrase.text = "") := by
  have hnew := faithful_ofGrammar g
  have hp : p.Faithful g := (hnew.serveAll? requests).after _ hp
  have hanswers (text : String) := (hp.parseLines? text ctx).answer
  refine ⟨fun q => q.parseLines?_append_feed ctx, fun a b => ?_, fun text => ⟨?_, ?_⟩⟩
  · rw [hanswers, hanswers, hanswers, ← mapM_nonblankLines, ← mapM_nonblankLines,
      ← mapM_nonblankLines, Text.nonblankLines_append, List.mapM_append]
  · rw [hanswers]
    simp only [(hnew.parse? _ ctx).answer]
  · rw [← Option.map_eq_none_iff (f := Prod.fst), hanswers, mapM_eq_none_iff]
    simp only [Grammar.parse?_eq_none_iff]
    constructor
    · rintro ⟨line, hline, hwords, hreaches, hempty⟩
      exact ⟨⟨line, hline, hwords, hreaches⟩, hempty⟩
    · rintro ⟨⟨line, hline, hwords, hreaches⟩, hempty⟩
      exact ⟨line, hline, hwords, hreaches, hempty⟩

/-- After a line and a block were read, a block of two lines is read as its lines. -/
theorem parseLines_homomorphic_cold :
    ∃ g, Grammar.ofTables? NamedPattern.compile Grammar.coldAdds = .ok g ∧
      ∃ answers p, (ofGrammar g).serveAll? [.line "Adds 3 to 7 Cold Damage" {},
          .block "Adds 1 to 2 Cold Damage\n\nRage" {}] = some (answers, p) ∧
        (p.parseLines? ("Rage" ++ "\n" ++ "Adds 1 to 2 Cold Damage") {}).map Prod.fst = do
          let outcomes ← (p.parseLines? "Rage" {}).map Prod.fst
          let more ← (p.parseLines? "Adds 1 to 2 Cold Damage" {}).map Prod.fst
          return outcomes ++ more := by
  obtain ⟨g, hg⟩ := exists_eq_ok_of_toBool
    (x := Grammar.ofTables? NamedPattern.compile Grammar.coldAdds) (by decide +kernel)
  have hempty : ¬ ∃ p ∈ g.flags.phrases, p.text = "" := by
    rw [Grammar.exists_empty_flag_iff hg]
    rintro ⟨row, hrow, -⟩
    cases hrow
  obtain ⟨⟨answers, p⟩, hp⟩ := Option.ne_none_iff_exists'.1
    ((faithful_ofGrammar g).serveAll?_ne_none hempty [.line "Adds 3 to 7 Cold Damage" {},
      .block "Adds 1 to 2 Cold Damage\n\nRage" {}])
  exact ⟨g, hg, answers, p, hp, (parseLines_homomorphic g hp {}).2.1 _ _⟩

/-- A block has no answers when one of its lines is read without end, whatever the others are. -/
theorem parseLines?_dotted :
    ∃ g, Grammar.ofTables? NamedPattern.compile Grammar.dotted = .ok g ∧
      (ofGrammar g).parseLines? "Has Life" {} = none := by
  obtain ⟨g, hg, -, hnone⟩ := Grammar.exists_parse?_dotted_eq_none
  refine ⟨g, hg, ?_⟩
  rw [← Option.map_eq_none_iff (f := Prod.fst),
    ((faithful_ofGrammar g).parseLines? "Has Life" {}).answer, mapM_eq_none_iff]
  exact ⟨"Has Life", by decide +kernel, hnone⟩

/-- A line feed at the end of a block begins no line, and a carriage return belongs to its line
unless a line feed follows. -/
example : Text.lines "+5\r\n\n7 \rlife\r\n".toList =
    ["+5".toList, [], "7 \rlife".toList] := by decide

end Parser

end Loadout

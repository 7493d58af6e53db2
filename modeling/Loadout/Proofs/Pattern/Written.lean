import Mathlib.Tactic.FinCases
import Loadout.Line.Known
import Loadout.Pattern.Reader

/-!
# Phrases and known lines as written patterns

The pattern of a phrase is built piece by piece. It can also be written down: each character that
has a meaning in patterns is put after a backslash, a number is a group of its own, and a letter
or number character at an end gets the sign of a word boundary. The reader takes such a text apart
into what it was put together from, one atom after the other. No atom begins with a repetition
sign, a bar or a closing parenthesis, so nothing that is written can run into what stands before
it, whichever characters the phrase has.

What the reader builds and what is built by hand differ in empty patterns at the end of a sequence
and in the way the set of the two signs is put together. Neither changes how a pattern matches.

## Main definitions

* `Pattern.escape`: a text as it is written in a pattern
* `Phrase.written`, `writtenLine`: the patterns of phrases and of known lines, written down
* `PatternReader.Spells`: a text is read atom by atom

## Main results

* `PatternReader.Spells.read`: such a text is read, and matches as its atoms in turn
* `Phrase.read_written`: every phrase is written as a pattern that matches as the one built for it
* `read_writtenLine`: so is every known line
-/

namespace Loadout

/-! ### Writing patterns down -/

namespace Pattern

/-- Whether a character is put after a backslash where it stands for itself. -/
def isMeta (c : Char) : Bool :=
  ['\\', '.', '+', '*', '?', '(', ')', '|', '[', ']', '\x7b', '\x7d', '^', '$', '#', '&', '-',
    '~'].contains c

/-- A character as it is written in a pattern where it stands for itself. -/
def escapeChar (c : Char) : List Char :=
  if isMeta c then ['\\', c] else [c]

/-- A text as it is written in a pattern. -/
def escape (text : List Char) : List Char :=
  text.flatMap escapeChar

end Pattern

/-- The pattern of a number, written as a group. -/
def writtenNumeral : List Char :=
  ['(', '[', '+', '-', ']', '?', '\\', 'd', '+', '(', '?', ':', '\\', '.', '\\', 'd', '+', ')', '?',
    ')']

/-- Literal texts with a number between neighbours, written as a pattern. -/
def writtenNumerals : List (List Char) → List Char
  | [] => []
  | [piece] => Pattern.escape piece
  | piece :: more => Pattern.escape piece ++ writtenNumeral ++ writtenNumerals more

/-- The edge of a phrase, written as a pattern. -/
def Phrase.writtenEdge (c : Option Char) : List Char :=
  if c.any Character.isAlphanumeric then ['\\', 'b'] else []

/-- The pattern of a phrase in normal form, written down. -/
def Phrase.written (text : List Char) : List Char :=
  writtenEdge text.head? ++ writtenNumerals (Text.pieces (· == '#') text) ++
    writtenEdge text.getLast?

/-- The pattern of a whole line with numbers between the pieces, written down. -/
def writtenLine (pieces : List (List Char)) : List Char :=
  '^' :: writtenNumerals pieces ++ ['$']

namespace PatternReader

open Pattern

/-! ### Atoms -/

/-- Whether a character can begin an atom: it neither ends a sequence nor repeats what stands before
it. -/
def opensAtom (c : Char) : Bool :=
  !([')', '|', '*', '+', '?', '\x7b'].contains c)

/-- A text that is at its end or goes on with an atom. -/
def Fresh (cs : List Char) : Prop :=
  ∀ c ∈ cs.head?, opensAtom c = true

/-- A text that is read as a single pattern, whatever atoms follow it, with the names of the groups
before and after. -/
structure Atom (w : List Char) (p : Pattern) (names names' : List (Option String)) : Prop where
  opens : ∃ c ∈ w.head?, opensAtom c = true
  read : ∀ budget rest, 4 * w.length ≤ budget → Fresh rest →
    (readAtom budget).run ⟨w ++ rest, {}, names⟩ = .ok (some p, ⟨rest, {}, names'⟩)

/-- A text that is read atom by atom, and matches as these do in turn. -/
inductive Spells : List (Option String) → List Char → Step → List (Option String) → Prop
  | nil (names : List (Option String)) : Spells names [] (fun k => k) names
  | cons {w rest : List Char} {p : Pattern} {step : Step} {names mid names' : List (Option String)}
      (hatom : Atom w p names mid) (hrest : Spells mid rest step names') :
      Spells names (w ++ rest) (fun k => p.run (step k)) names'

variable {names mid names' : List (Option String)} {w rest : List Char} {p : Pattern}
  {step : Step}

theorem Atom.spells (h : Atom w p names names') : Spells names w p.run names' := by
  have hcons := Spells.cons h (.nil names')
  rwa [List.append_nil] at hcons

theorem Spells.append {step' : Step} (h : Spells names w step mid)
    (hrest : Spells mid rest step' names') :
    Spells names (w ++ rest) (fun k => step (step' k)) names' := by
  induction h with
  | nil => exact hrest
  | cons hatom _ ih =>
    rw [List.append_assoc]
    exact .cons hatom (ih hrest)

/-- A text that is read atom by atom does not run into what stands before it. -/
theorem Spells.fresh (h : Spells names w step names') : Fresh w := by
  cases h with
  | nil => exact nofun
  | @cons w _ _ _ _ _ _ hatom =>
    obtain ⟨c, hc, hopens⟩ := hatom.opens
    intro d hd
    cases w with
    | nil => cases hc
    | cons =>
      rw [Option.mem_def] at hc hd
      rw [← Option.some.inj (hc.symm.trans hd)]
      exact hopens

theorem run_bind_ok {α β : Type} {x : Read α} {f : α → Read β} {s s' : State} {a : α}
    (h : x.run s = .ok (a, s')) : (x >>= f).run s = (f a).run s' := by
  rw [StateT.run_bind, h]
  rfl

theorem run_rest (s : State) : PatternReader.rest.run s = .ok (s.rest, s) :=
  rfl

theorem run_get (s : State) : (get : Read State).run s = .ok (s, s) :=
  rfl

theorem run_goOn (rest : List Char) (s : State) :
    (goOn rest).run s = .ok ((), { s with rest }) :=
  rfl

theorem run_skipBlanks (rest : List Char) (names : List (Option String)) :
    skipBlanks.run ⟨rest, {}, names⟩ = .ok ((), ⟨rest, {}, names⟩) :=
  rfl

/-- Nothing repeats an atom where another follows. -/
theorem run_readRepetitions (hrest : Fresh rest) (budget : Nat) (p : Pattern) :
    (readRepetitions budget p).run ⟨rest, {}, names⟩ = .ok (p, ⟨rest, {}, names⟩) := by
  cases budget with
  | zero => rfl
  | succ budget =>
    cases rest with
    | nil => rfl
    | cons c cs =>
      have hc := hrest c rfl
      simp only [opensAtom, List.contains_eq_mem, Bool.not_eq_true', decide_eq_false_iff_not,
        List.mem_cons, List.not_mem_nil, or_false, not_or] at hc
      obtain ⟨-, -, hstar, hplus, hoption, hcount⟩ := hc
      rw [readRepetitions]
      refine (run_bind_ok (run_skipBlanks _ _)).trans ((run_bind_ok (run_rest _)).trans ?_)
      split
      case h_1 heq => exact absurd (List.cons.inj heq).1 hstar
      case h_2 heq => exact absurd (List.cons.inj heq).1 hplus
      case h_3 heq => exact absurd (List.cons.inj heq).1 hoption
      case h_4 heq => exact absurd (List.cons.inj heq).1 hcount
      case h_5 => rfl

/-- What the reader makes of a pattern and the sequence after it. -/
def followedBy (first : Pattern) : Pattern → Pattern
  | .empty => first
  | second => .seq first second

theorem run_followedBy (first second : Pattern) (k : Continuation) :
    (followedBy first second).run k = first.run (second.run k) := by
  cases second <;> rfl

/-- A sequence is an atom, its repetitions, and a sequence. -/
theorem run_readSequence {budget : Nat} {c : Char} {cs : List Char} {s s' s'' : State}
    {atom first second : Pattern} (hc : opensAtom c = true)
    (hatom : (readAtom budget).run ⟨c :: cs, {}, names⟩ = .ok (some atom, s))
    (hfirst : (readRepetitions budget atom).run s = .ok (first, s'))
    (hsecond : (readSequence budget).run s' = .ok (second, s'')) :
    (readSequence (budget + 1)).run ⟨c :: cs, {}, names⟩ = .ok (followedBy first second, s'') := by
  simp only [opensAtom, List.contains_eq_mem, Bool.not_eq_true', decide_eq_false_iff_not,
    List.mem_cons, List.not_mem_nil, or_false, not_or] at hc
  obtain ⟨hclose, hbar, -⟩ := hc
  rw [readSequence]
  refine (run_bind_ok (run_skipBlanks _ _)).trans ((run_bind_ok (run_rest _)).trans ?_)
  split
  case h_1 heq => cases heq
  case h_2 heq => exact absurd (List.cons.inj heq).1 hclose
  case h_3 heq => exact absurd (List.cons.inj heq).1 hbar
  case h_4 =>
    refine (run_bind_ok hatom).trans ((run_bind_ok hfirst).trans ((run_bind_ok hsecond).trans ?_))
    cases second <;> rfl

/-- A text that is read atom by atom is a sequence, for which there is budget enough. -/
theorem Spells.read (h : Spells names w step names') (budget : Nat)
    (hbudget : 4 * w.length + 1 ≤ budget) :
    ∃ q, (readSequence budget).run ⟨w, {}, names⟩ = .ok (q, ⟨[], {}, names'⟩) ∧ q.run = step := by
  induction h generalizing budget with
  | nil =>
    obtain ⟨budget, rfl⟩ := Nat.exists_eq_add_of_le' hbudget
    exact ⟨.empty, rfl, rfl⟩
  | @cons w rest p step names mid names' hatom hrest ih =>
    obtain ⟨budget, rfl⟩ := Nat.exists_eq_add_of_le' (show 1 ≤ budget by omega)
    obtain ⟨c, hc, hopens⟩ := hatom.opens
    obtain ⟨cs, rfl⟩ := List.head?_eq_some_iff.1 hc
    rw [List.length_append, List.length_cons] at hbudget
    have hread := hatom.read budget rest (by simp; omega) hrest.fresh
    obtain ⟨q, hq, hstep⟩ := ih budget (by omega)
    refine ⟨followedBy p q, run_readSequence hopens hread
      (run_readRepetitions hrest.fresh budget p) hq, ?_⟩
    funext k
    rw [run_followedBy, hstep]

/-- A text that is read atom by atom is a pattern, which matches as the atoms in turn. -/
theorem Spells.exists_read (h : Spells [] w step names) :
    ∃ q, NamedPattern.read (String.ofList w) = .ok q ∧ q.pattern.run = step := by
  obtain ⟨q, hq, hstep⟩ := h.read (4 * w.length + 3) (by omega)
  refine ⟨⟨q, names.reverse⟩, ?_, hstep⟩
  have halternatives : (readAlternatives (4 * w.length + 4)).run ⟨w, {}, []⟩ =
      .ok (q, ⟨[], {}, names⟩) := by
    exact (run_bind_ok hq).trans rfl
  rw [NamedPattern.read, String.toList_ofList, halternatives]
  rfl

/-! ### Characters -/

theorem readAtom_plain {c : Char} (h : isMeta c = false) (budget : Nat) (rest : List Char)
    (names : List (Option String)) :
    (readAtom (budget + 1)).run ⟨c :: rest, {}, names⟩ =
      .ok (some (.char (.one c)), ⟨rest, {}, names⟩) := by
  rw [readAtom]
  refine (run_bind_ok (run_get _)).trans ((run_bind_ok (run_rest _)).trans
    ((run_bind_ok (run_goOn _ _)).trans ?_))
  dsimp only
  split <;> first | exact absurd h (by decide) | rfl

theorem readAtom_escaped {c : Char} (h : isMeta c = true) (budget : Nat) (rest : List Char)
    (names : List (Option String)) :
    (readAtom (budget + 1)).run ⟨'\\' :: c :: rest, {}, names⟩ =
      .ok (some (.char (.one c)), ⟨rest, {}, names⟩) := by
  rw [isMeta, List.contains_iff_mem] at h
  fin_cases h <;> rfl

theorem atom_escapeChar (c : Char) (names : List (Option String)) :
    Atom (escapeChar c) (.char (.one c)) names names := by
  cases hc : isMeta c with
  | true =>
    rw [escapeChar, if_pos hc]
    refine ⟨⟨'\\', rfl, rfl⟩, fun budget rest hbudget _ => ?_⟩
    obtain ⟨budget, rfl⟩ := Nat.exists_eq_add_of_le' (Nat.one_le_of_lt hbudget)
    exact readAtom_escaped hc budget rest names
  | false =>
    rw [escapeChar, if_neg (by simp [hc])]
    refine ⟨⟨c, rfl, ?_⟩, fun budget rest hbudget _ => ?_⟩
    · rw [Bool.eq_false_iff, ne_eq, isMeta, List.contains_iff_mem] at hc
      simp only [opensAtom, List.contains_eq_mem, Bool.not_eq_true', decide_eq_false_iff_not]
      exact fun hmem => hc (by fin_cases hmem <;> decide)
    · obtain ⟨budget, rfl⟩ := Nat.exists_eq_add_of_le' (Nat.one_le_of_lt hbudget)
      exact readAtom_plain hc budget rest names

theorem spells_escape (text : List Char) (names : List (Option String)) :
    Spells names (escape text) (literal text).run names := by
  induction text with
  | nil => exact .nil names
  | cons c text ih => exact (atom_escapeChar c names).spells.append ih

/-! ### Numbers -/

/-- What the reader makes of the class of signs. -/
def readSigns : CharSet :=
  .union (.union .none (.one '+')) (.one '-')

/-- What the reader makes of the digits of a number. -/
def readDigits : Pattern :=
  .repeated (.char (.named .digit)) 1 none true

/-- What the reader makes of the part of a number that follows its sign. -/
def readMagnitude : Pattern :=
  .seq readDigits (.repeated (.seq (.char (.one '.')) readDigits) 0 (some 1) true)

/-- What the reader makes of the pattern of a number. -/
def readNumeral : Pattern :=
  .seq (.repeated (.char readSigns) 0 (some 1) true) readMagnitude

theorem run_char_congr {a b : CharSet} (h : ∀ c, a.contains c = b.contains c) :
    (char a).run = (char b).run := by
  funext k p
  simp only [run, h]

theorem run_repeated_congr {p q : Pattern} (h : p.run = q.run) (least : Nat) (most : Option Nat)
    (greedy : Bool) : (repeated p least most greedy).run = (repeated q least most greedy).run := by
  funext k
  simp only [run, h]

theorem run_group_congr {p q : Pattern} (h : p.run = q.run) (slot : Nat) :
    (group slot p).run = (group slot q).run := by
  funext k place
  simp only [run, h]

theorem run_readNumeral : readNumeral.run = numeral.run := by
  have hsigns : (char readSigns).run = (char (.union (.one '+') (.one '-'))).run :=
    run_char_congr fun c => by simp [readSigns, CharSet.contains]
  funext k
  exact congrFun (run_repeated_congr hsigns 0 (some 1) true) _

/-- No hyphen and no bracket stands for itself at the start of the class of signs. -/
theorem run_readBracketOpening (rest : List Char) :
    readBracketOpening.run ⟨'+' :: rest, {}, names⟩ =
      .ok ((false, .none), ⟨'+' :: rest, {}, names⟩) := by
  have hsame : ¬ (List.dropWhile (· == '-') ('+' :: rest)).length < ('+' :: rest).length := by
    simp [List.dropWhile_cons_of_neg]
  change (if (List.dropWhile (· == '-') ('+' :: rest)).length < ('+' :: rest).length then _ else _ :
    Read (Bool × CharSet)).run ⟨'+' :: rest, {}, names⟩ = _
  rw [if_neg hsame]
  rfl

theorem run_readClass_signs (budget : Nat) (rest : List Char) :
    (readClass (budget + 5)).run ⟨'+' :: '-' :: ']' :: rest, {}, names⟩ =
      .ok (readSigns, ⟨rest, {}, names⟩) := by
  unfold readClass
  exact (run_bind_ok (run_readBracketOpening _)).trans rfl

theorem run_readAtom_signs (budget : Nat) (rest : List Char) :
    (readAtom (budget + 6)).run ⟨'[' :: '+' :: '-' :: ']' :: rest, {}, names⟩ =
      .ok (some (.char readSigns), ⟨rest, {}, names⟩) := by
  change (readClass (budget + 5) >>= fun s => pure (some (char s))).run
    ⟨'+' :: '-' :: ']' :: rest, {}, names⟩ = _
  exact (run_bind_ok (run_readClass_signs budget rest)).trans rfl

theorem run_readSequence_numeral (budget : Nat) (rest : List Char) :
    (readSequence (budget + 16)).run ⟨writtenNumeral.tail ++ rest, {}, names⟩ =
      .ok (readNumeral, ⟨')' :: rest, {}, names⟩) := by
  have hnumeral : readNumeral =
      followedBy (.repeated (.char readSigns) 0 (some 1) true) readMagnitude := rfl
  rw [hnumeral]
  exact run_readSequence rfl (run_readAtom_signs (budget + 9) _) rfl rfl

theorem atom_writtenNumeral (names : List (Option String)) :
    Atom writtenNumeral (.group (names.length + 1) readNumeral) names (none :: names) := by
  refine ⟨⟨'(', rfl, rfl⟩, fun budget rest hbudget _ => ?_⟩
  obtain ⟨budget, rfl⟩ := Nat.exists_eq_add_of_le' (Nat.le_trans (by decide : 19 ≤ _) hbudget)
  have halternatives : (readAlternatives (budget + 17)).run
      ⟨writtenNumeral.tail ++ rest, {}, none :: names⟩ =
        .ok (readNumeral, ⟨')' :: rest, {}, none :: names⟩) :=
    (run_bind_ok (run_readSequence_numeral budget rest)).trans rfl
  have hgroup : (readGroup (budget + 18) {}).run ⟨writtenNumeral.tail ++ rest, {}, none :: names⟩ =
      .ok (readNumeral, ⟨rest, {}, none :: names⟩) :=
    (run_bind_ok halternatives).trans rfl
  change (readGroup (budget + 18) {} >>= fun p =>
    pure (some (group (none :: names).length p))).run
      ⟨writtenNumeral.tail ++ rest, {}, none :: names⟩ = _
  exact (run_bind_ok hgroup).trans rfl

/-- Literal texts with numbers between them match as the pattern that is built of them, and every
number is a group without a name. -/
theorem spells_writtenNumerals (pieces : List (List Char)) (names : List (Option String)) :
    ∃ names', Spells names (writtenNumerals pieces) (withNumerals (names.length + 1) pieces).run
      names' := by
  induction pieces generalizing names with
  | nil => exact ⟨names, .nil names⟩
  | cons piece more ih =>
    cases more with
    | nil => exact ⟨names, spells_escape piece names⟩
    | cons next more =>
      obtain ⟨names', hmore⟩ := ih (none :: names)
      have hgroup := (atom_writtenNumeral names).spells
      rw [run_group_congr run_readNumeral] at hgroup
      exact ⟨names', ((spells_escape piece names).append hgroup).append hmore⟩

/-! ### Anchors -/

theorem spells_writtenEdge (c : Option Char) (names : List (Option String)) :
    Spells names (Phrase.writtenEdge c) (Phrase.edge c).run names := by
  rw [Phrase.writtenEdge, Phrase.edge]
  split
  case isFalse => exact .nil names
  case isTrue =>
    refine Atom.spells ⟨⟨'\\', rfl, rfl⟩, fun budget rest hbudget hrest => ?_⟩
    obtain ⟨budget, rfl⟩ := Nat.exists_eq_add_of_le' (Nat.one_le_of_lt hbudget)
    -- A brace after the boundary would begin a count or the name of another boundary.
    have hboundary : readBoundary.run ⟨rest, {}, names⟩ =
        .ok (.anchor .boundary, ⟨rest, {}, names⟩) := by
      cases rest with
      | nil => rfl
      | cons d rest =>
        have hd := hrest d rfl
        rw [readBoundary]
        refine (run_bind_ok (run_rest _)).trans ?_
        split
        case h_1 heq =>
          rw [(List.cons.inj heq).1] at hd
          exact absurd hd (by decide)
        case h_2 => rfl
    have hescape : readEscape.run ⟨'b' :: rest, {}, names⟩ =
        .ok (.anchor .boundary, ⟨rest, {}, names⟩) := hboundary
    rw [readAtom]
    exact (run_bind_ok (run_get _)).trans ((run_bind_ok (run_rest _)).trans
      ((run_bind_ok (run_goOn _ _)).trans ((run_bind_ok hescape).trans rfl)))

theorem atom_textStart (names : List (Option String)) :
    Atom ['^'] (.anchor .textStart) names names := by
  refine ⟨⟨'^', rfl, rfl⟩, fun budget rest hbudget _ => ?_⟩
  obtain ⟨budget, rfl⟩ := Nat.exists_eq_add_of_le' (Nat.one_le_of_lt hbudget)
  rfl

theorem atom_textEnd (names : List (Option String)) :
    Atom ['$'] (.anchor .textEnd) names names := by
  refine ⟨⟨'$', rfl, rfl⟩, fun budget rest hbudget _ => ?_⟩
  obtain ⟨budget, rfl⟩ := Nat.exists_eq_add_of_le' (Nat.one_le_of_lt hbudget)
  rfl

end PatternReader

open PatternReader

/-! ### Phrases and known lines -/

theorem Pattern.find?_congr {p q : Pattern} (h : p.run = q.run) (text : List Char) :
    p.find? text = q.find? text := by
  have hafter (before rest : List Char) : p.findAfter? before rest = q.findAfter? before rest := by
    induction rest generalizing before with
    | nil => rw [findAfter?, findAfter?, matchAt?, matchAt?, h]
    | cons c rest ih => rw [findAfter?, findAfter?, matchAt?, matchAt?, h, ih]
  exact hafter [] text

/-- Every phrase is written as a pattern, whichever characters it has, and the pattern finds what
the one that is built for the phrase finds. -/
theorem Phrase.read_written (text : List Char) :
    ∃ q, NamedPattern.read (String.ofList (written text)) = .ok q ∧
      ∀ line, q.pattern.find? line = (patternOf text).find? line := by
  obtain ⟨names, hpieces⟩ := spells_writtenNumerals (Text.pieces (· == '#') text) []
  obtain ⟨q, hq, hrun⟩ := (((spells_writtenEdge text.head? []).append hpieces).append
    (spells_writtenEdge text.getLast? names)).exists_read
  exact ⟨q, hq, Pattern.find?_congr hrun⟩

/-- Every whole line with numbers between its pieces is written as a pattern, whichever characters
they have, and the pattern finds what the one that is built for the line finds. -/
theorem read_writtenLine (pieces : List (List Char)) :
    ∃ q, NamedPattern.read (String.ofList (writtenLine pieces)) = .ok q ∧
      ∀ line, q.pattern.find? line = (wholeLine pieces).find? line := by
  obtain ⟨names, hpieces⟩ := spells_writtenNumerals pieces []
  obtain ⟨q, hq, hrun⟩ := (((atom_textStart []).spells.append hpieces).append
    (atom_textEnd names).spells).exists_read
  exact ⟨q, hq, Pattern.find?_congr hrun⟩

end Loadout

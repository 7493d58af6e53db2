import Loadout.Pattern.Reader
import Mathlib.Data.List.Nodup
import Mathlib.Data.List.ReduceOption

/-!
# Names of groups

Reading a pattern checks the name of a group when it opens: the name is a legal one, and no group
before it has it. Everything else leaves the names alone. So what is read of a pattern has legal
names that differ from one another.

## Main definitions

* `PatternReader.Ensures`: what a step of reading leads to
* `PatternReader.Keeps`: a step of reading keeps a property of the names
* `PatternReader.Named`: the names are legal and differ
* `PatternCompiler.ChecksNames`: a compiler sees to it that they are and do

## Main results

* `PatternReader.keeps_readAlternatives`: reading a pattern keeps the names legal and different
* `NamedPattern.named_of_read`: the names of a pattern that is read
-/

namespace Loadout

namespace PatternReader

variable {α β : Type}

/-- From a state that meets a condition, a step of reading that succeeds leads to a result and a
state that meet another one. -/
def Ensures (P : State → Prop) (r : Read α) (Q : α → State → Prop) : Prop :=
  ∀ ⦃s a s'⦄, P s → r.run s = .ok (a, s') → Q a s'

/-- A step of reading keeps a property of the names. -/
abbrev Keeps (I : List (Option String) → Prop) (r : Read α) : Prop :=
  Ensures (I ·.names) r fun _ s => I s.names

namespace Ensures

variable {P : State → Prop} {Q : α → State → Prop} {R : β → State → Prop}

theorem throw (fault : PatternFault) : Ensures P (MonadExcept.throw fault) Q := by
  rintro s a s' - ⟨⟩

theorem pure {a : α} (h : ∀ s, P s → Q a s) : Ensures P (Pure.pure a) Q := by
  rintro s _ _ hs ⟨⟩
  exact h s hs

theorem bind {r : Read α} {f : α → Read β} (hr : Ensures P r Q)
    (hf : ∀ a, Ensures (Q a) (f a) R) : Ensures P (r >>= f) R := by
  intro s b s' hs h
  rw [StateT.run_bind] at h
  cases hrun : r.run s with
  | error fault => rw [hrun] at h; cases h
  | ok out =>
    rw [hrun] at h
    exact hf out.1 (hr hs hrun) h

theorem get : Ensures P get fun s s' => s' = s ∧ P s := by
  rintro s _ _ hs ⟨⟩
  exact ⟨rfl, hs⟩

theorem modify {Q : Unit → State → Prop} {f : State → State} (h : ∀ s, P s → Q () (f s)) :
    Ensures P (modify f) Q := by
  rintro s _ _ hs ⟨⟩
  exact h s hs

end Ensures

/-! ### Steps that leave the names alone -/

namespace Keeps

variable {I : List (Option String) → Prop}

theorem pure (a : α) : Keeps I (Pure.pure a) :=
  Ensures.pure fun _ hs => hs

theorem bind {r : Read α} {f : α → Read β} (hr : Keeps I r) (hf : ∀ a, Keeps I (f a)) :
    Keeps I (r >>= f) :=
  Ensures.bind hr hf

theorem get : Keeps I get := by
  rintro s _ _ hs ⟨⟩
  exact hs

theorem rest : Keeps I rest := by
  rintro s _ _ hs ⟨⟩
  exact hs

theorem goOn (after : List Char) : Keeps I (goOn after) := by
  rintro s _ _ hs ⟨⟩
  exact hs

theorem skipBlanks : Keeps I skipBlanks := by
  rintro s _ _ hs ⟨⟩
  dsimp only
  split <;> exact hs

theorem fold (set : CharSet) : Keeps I (fold set) := by
  rintro s _ _ hs ⟨⟩
  exact hs

theorem goOn_pure (after : List Char) (a : α) :
    Keeps I (do PatternReader.goOn after; return a) :=
  .bind (.goOn after) fun _ => .pure a

theorem readCodePoint (count : Nat) : Keeps I (readCodePoint count) := by
  refine .bind .rest fun cs => ?_
  dsimp only
  split
  · split
    · refine .bind (.pure _) fun _ => ?_
      split
      · exact .goOn_pure _ _
      · exact .throw _
    · exact .throw _
  · split
    · exact .throw _
    · refine .bind (.pure _) fun _ => ?_
      split
      · exact .goOn_pure _ _
      · exact .throw _

theorem readNamedClass : Keeps I readNamedClass := by
  refine .bind .rest fun cs => ?_
  dsimp only
  split
  · split
    · refine .bind (.pure _) fun _ => ?_
      split
      · exact .bind (.goOn _) fun _ => .fold _
      · exact .throw _
    · exact .throw _
  · refine .bind (.pure _) fun _ => ?_
    split
    · exact .bind (.goOn _) fun _ => .fold _
    · exact .throw _
  · exact .throw _

theorem readBoundary : Keeps I readBoundary := by
  refine .bind .rest fun cs => ?_
  dsimp only
  repeat' split
  all_goals first | exact .throw _ | exact .pure _ | exact .goOn_pure _ _

theorem readEscape : Keeps I readEscape := by
  refine .bind .rest fun cs => ?_
  split
  · exact .throw _
  · refine .bind (.goOn _) fun _ => ?_
    repeat' split
    all_goals first
      | exact .throw _
      | exact .pure _
      | exact .readCodePoint _
      | exact .readBoundary
      | exact .bind .readNamedClass fun _ => .pure _

/-! ### Brackets -/

theorem total (b : Brackets) : Keeps I b.total := by
  rw [Brackets.total]
  split
  · exact .bind (.fold _) fun _ => .bind (.fold _) fun _ => .pure _
  · exact .pure _

theorem readBracketItem : Keeps I readBracketItem := by
  refine .bind .rest fun cs => ?_
  split
  · exact .bind (.goOn _) fun _ => .readEscape
  · exact .goOn_pure _ _
  · exact .throw _

theorem toSet (item : Escape) : Keeps I item.toSet := by
  cases item with
  | literal c => exact .pure _
  | set s => exact .pure _
  | anchor a => exact .throw _

theorem readBracketRange : Keeps I readBracketRange := by
  refine .bind .readBracketItem fun low => .bind .skipBlanks fun _ => .bind .rest fun cs => ?_
  split
  · exact .throw _
  · refine .bind .get fun s => ?_
    dsimp only
    split
    · exact .toSet low
    · exact .toSet low
    · exact .throw _
    · refine .bind (.goOn _) fun _ => .bind .readBracketItem fun high => ?_
      split
      · split
        · exact .pure _
        · exact .throw _
      · exact .throw _
  · exact .toSet low

theorem readBracketOpening : Keeps I readBracketOpening := by
  refine .bind .skipBlanks fun _ => .bind .rest fun cs => ?_
  dsimp only
  split
  on_goal 1 => refine .bind (.goOn _) fun _ => ?_
  -- Negated or not, what follows is the same.
  all_goals
    refine .bind (.pure _) fun _ => .bind .skipBlanks fun _ => .bind .rest fun cs => ?_
    split
    · exact .bind (.goOn _) fun _ => .bind .skipBlanks fun _ => .pure _
    · split
      · exact .goOn_pure _ _
      · exact .pure _

mutual

theorem readClass (budget : Nat) : Keeps I (readClass budget) := by
  cases budget with
  | zero => exact .throw _
  | succ budget =>
    rw [PatternReader.readClass]
    exact .bind .readBracketOpening fun _ => .bind (readBrackets budget _) fun _ =>
      .bind (.fold _) fun _ => .pure _

theorem readBrackets (budget : Nat) (b : Brackets) : Keeps I (readBrackets budget b) := by
  cases budget with
  | zero => exact .throw _
  | succ budget =>
    rw [PatternReader.readBrackets]
    refine .bind .skipBlanks fun _ => .bind .rest fun cs => ?_
    have hclass (after : List Char) : Keeps I (do
        PatternReader.goOn after
        let s ← PatternReader.readClass budget
        PatternReader.readBrackets budget { b with current := b.current.union s }) :=
      .bind (.goOn _) fun _ => .bind (readClass budget) fun _ => readBrackets budget _
    have hoperation (op : SetOperation) (after : List Char) : Keeps I (do
        PatternReader.goOn after
        PatternReader.readBrackets budget { waiting := some (← b.total, op) }) :=
      .bind (.goOn _) fun _ => .bind (.total b) fun _ => readBrackets budget _
    split
    · exact .throw _
    · exact .bind (.goOn _) fun _ => .total b
    · split
      · split
        · exact .bind (.goOn _) fun _ => .bind (.fold _) fun _ => readBrackets budget _
        · exact hclass _
      · exact hclass _
    · exact hoperation .inter _
    · exact hoperation .diff _
    · exact hoperation .symmDiff _
    · exact .bind .readBracketRange fun _ => readBrackets budget _

end

/-! ### Repetition -/

theorem readCount : Keeps I readCount := by
  refine .bind .rest fun cs => ?_
  dsimp only
  split
  · exact .throw _
  · split
    · exact .throw _
    · split
      · exact .goOn_pure _ _
      · split
        · exact .goOn_pure _ _
        · exact .throw _
        · split
          · refine .bind (.goOn _) fun _ => ?_
            split
            · exact .throw _
            · exact .pure _
          · exact .throw _
          · exact .throw _
      · exact .throw _

theorem readGreed : Keeps I readGreed := by
  refine .bind .get fun s => .bind .rest fun cs => ?_
  split
  · exact .goOn_pure _ _
  · exact .pure _

theorem readRepetitions (budget : Nat) (p : Pattern) : Keeps I (readRepetitions budget p) := by
  induction budget generalizing p with
  | zero => exact .pure p
  | succ budget ih =>
    refine .bind .skipBlanks fun _ => .bind .rest fun cs => ?_
    have hsign (least : Nat) (most : Option Nat) (after : List Char) : Keeps I (do
        PatternReader.goOn after
        PatternReader.readRepetitions budget
          (.repeated p least most (← PatternReader.readGreed))) :=
      .bind (.goOn _) fun _ => .bind .readGreed fun _ => ih _
    split
    · exact hsign 0 none _
    · exact hsign 1 none _
    · exact hsign 0 (some 1) _
    · exact .bind (.goOn _) fun _ => .bind .readCount fun _ => .bind .readGreed fun _ => ih _
    · exact .pure p

end Keeps

/-! ### Names -/

/-- The names of the groups so far are legal and differ from one another. -/
def Named (names : List (Option String)) : Prop :=
  names.reduceOption.Nodup ∧ ∀ name ∈ names.reduceOption, isGroupName name.toList = true

/-- The names are legal and differ with the group that opens. -/
def Opening.Named (names : List (Option String)) : Opening → Prop
  | capturing name => PatternReader.Named (name :: names)
  | plain _ => PatternReader.Named names
  | directive _ => PatternReader.Named names

theorem Named.cons {names : List (Option String)} (h : Named names) {name : String}
    (hlegal : isGroupName name.toList = true) (hnew : some name ∉ names) :
    Named (some name :: names) := by
  rw [Named, List.reduceOption_cons_of_some, List.nodup_cons, List.reduceOption_mem_iff,
    List.forall_mem_cons]
  exact ⟨⟨hnew, h.1⟩, hlegal, h.2⟩

/-- The name that is read of a group is legal and new. -/
theorem ensures_readGroupName :
    Ensures (Named ·.names) readGroupName fun name s => Named (some name :: s.names) := by
  refine .bind Keeps.rest fun cs => ?_
  dsimp only
  split
  case h_1 after hafter =>
    split
    case isTrue => exact .throw _
    case isFalse hlegal =>
      refine .bind .get fun s => ?_
      split
      case isTrue => exact .throw _
      case isFalse hnew =>
        have hlegal' : isGroupName (String.ofList (cs.takeWhile (· != '>'))).toList = true := by
          simpa using hlegal
        refine .bind (Q := fun _ s => Named (some _ :: s.names)) ?_ fun _ => .pure fun _ hs => hs
        rintro _ _ _ ⟨rfl, hs⟩ ⟨⟩
        exact hs.cons hlegal' (by simpa using hnew)
  case h_2 => exact .throw _

/-- A group that opens has no name or a legal and new one. -/
theorem ensures_readOpening :
    Ensures (Named ·.names) readOpening fun opening s => opening.Named s.names := by
  refine .bind Keeps.rest fun cs => ?_
  have hname (after : List Char) : Ensures (Named ·.names) (do
      goOn after
      return Opening.capturing (some (← readGroupName))) fun opening s => opening.Named s.names :=
    .bind (Keeps.goOn after) fun _ => .bind ensures_readGroupName fun _ => .pure fun _ hs => hs
  split
  · exact .throw _
  · exact .throw _
  · exact .throw _
  · exact .throw _
  · exact hname _
  · exact hname _
  · exact .throw _
  · refine .bind Keeps.get fun s => ?_
    split
    · exact .bind (Keeps.goOn _) fun _ => .pure fun _ hs => hs
    · dsimp only
      split
      · exact .throw _
      · exact .bind (Keeps.goOn _) fun _ => .pure fun _ hs => hs
    · exact .throw _
  · exact .pure fun _ hs => hs

mutual

/-- Reading alternatives keeps the names legal and different. -/
theorem keeps_readAlternatives (budget : Nat) : Keeps Named (readAlternatives budget) := by
  cases budget with
  | zero => exact .throw _
  | succ budget =>
    rw [readAlternatives]
    refine .bind (keeps_readSequence budget) fun left => .bind .rest fun cs => ?_
    split
    · exact .bind (.goOn _) fun _ => .bind (keeps_readAlternatives budget) fun _ => .pure _
    · exact .pure _

theorem keeps_readSequence (budget : Nat) : Keeps Named (readSequence budget) := by
  cases budget with
  | zero => exact .throw _
  | succ budget =>
    rw [readSequence]
    refine .bind .skipBlanks fun _ => .bind .rest fun cs => ?_
    split
    · exact .pure _
    · exact .pure _
    · exact .pure _
    · refine .bind (keeps_readAtom budget) fun atom => ?_
      split
      · refine .bind .skipBlanks fun _ => .bind .rest fun cs => ?_
        split
        · exact .throw _
        · exact .throw _
        · exact .throw _
        · exact .throw _
        · exact keeps_readSequence budget
      · refine .bind (.readRepetitions budget _) fun first =>
          .bind (keeps_readSequence budget) fun second => ?_
        split
        · exact .pure _
        · exact .pure _

theorem keeps_readAtom (budget : Nat) : Keeps Named (readAtom budget) := by
  cases budget with
  | zero => exact .throw _
  | succ budget =>
    rw [readAtom]
    refine .bind .get fun s => .bind .rest fun cs => ?_
    split
    · exact .throw _
    · refine .bind (.goOn _) fun _ => ?_
      split
      -- Only a group that captures adds a name, and its opening has checked the name.
      · refine Ensures.bind ensures_readOpening fun opening => ?_
        split
        · exact .bind (.modify fun _ hs => hs) fun _ => Keeps.pure _
        · exact .bind (.modify fun _ hs => hs) fun _ => .bind (keeps_readGroup budget _) fun _ =>
            Keeps.pure _
        · exact .bind (.modify fun _ hs => hs) fun _ => .bind Keeps.get fun _ =>
            .bind (keeps_readGroup budget _) fun _ => Keeps.pure _
      · exact .bind (.readClass budget) fun _ => .pure _
      · refine .bind .readEscape fun _ => ?_
        split
        · exact .bind (.fold _) fun _ => .pure _
        · exact .pure _
        · exact .pure _
      all_goals first | exact .pure _ | exact .throw _ | exact .bind (.fold _) fun _ => .pure _

theorem keeps_readGroup (budget : Nat) (outer : Flags) : Keeps Named (readGroup budget outer) := by
  cases budget with
  | zero => exact .throw _
  | succ budget =>
    rw [readGroup]
    refine .bind (keeps_readAlternatives budget) fun p => .bind .rest fun cs => ?_
    split
    · exact .bind (.modify fun _ hs => hs) fun _ => .pure p
    · exact .throw _

end

end PatternReader

/-! ### Patterns -/

open PatternReader (Named isGroupName)

/-- The names of a pattern that is read are legal and differ from one another. -/
theorem NamedPattern.named_of_read {text : String} {p : NamedPattern} (h : read text = .ok p) :
    Named p.names := by
  unfold read at h
  cases hrun : (PatternReader.readAlternatives (4 * text.toList.length + 4)).run
      ⟨text.toList, {}, []⟩ with
  | error fault => simp [hrun, bind, Except.bind] at h
  | ok out =>
    simp only [hrun, bind, Except.bind] at h
    split at h
    case isTrue =>
      cases h
      have hstart : Named [] := ⟨.nil, by simp⟩
      have hnamed := PatternReader.keeps_readAlternatives _ hstart hrun
      have hreverse : out.2.names.reverse.reduceOption = out.2.names.reduceOption.reverse :=
        List.filterMap_reverse
      rw [Named, hreverse, List.nodup_reverse]
      exact ⟨hnamed.1, fun name hname => hnamed.2 name (List.mem_reverse.1 hname)⟩
    case isFalse => cases h

/-- A compiler sees to it that the names of groups are legal and differ from one another. -/
def PatternCompiler.ChecksNames (compile : PatternCompiler) : Prop :=
  ∀ text p, compile text = .ok p → Named p.names

theorem NamedPattern.checksNames_compile : PatternCompiler.ChecksNames compile := by
  intro text q h
  obtain ⟨p, hread, rfl⟩ := compile_eq_ok_iff.1 h
  exact named_of_read hread

theorem CompiledPattern.map_fst_namedSlots (p : CompiledPattern) :
    p.namedSlots.map Prod.fst = p.names.reduceOption := by
  have hfrom (names : List (Option String)) (first : Nat) :
      (((names.zipIdx first).filterMap fun entry => entry.1.map (·, entry.2)).map Prod.fst) =
        names.reduceOption := by
    induction names generalizing first with
    | nil => rfl
    | cons name names ih =>
      cases name with
      | none => simpa using ih (first + 1)
      | some name => simpa using ih (first + 1)
  exact hfrom p.names 1

end Loadout

import Loadout.Proofs.Document.Lists
import Loadout.Proofs.Environment.Reflection

/-!
# Builds around one known line

The tables of a game may hold a single known line, and a build may have that line among its
settings and nothing else. When the line stands in normal form, marks no ranges and has effects
without flags, the tables are read as a grammar that can be written down, and the player's store
of the build holds the effects of the line. So a store of conditional modifiers comes up in an
environment, and facts about it are facts about a build.

## Main definitions

* `KnownRow.Plain`: a known line that only adds the effects it lists
* `Grammar.ofLine`, `Build.ofLine`: a grammar with one known line, and a build with one line

## Main results

* `KnownRow.Plain.ofTables?`: the tables are read as the grammar
* `KnownRow.Plain.store_full`: the player's store holds the effects of the line
-/

namespace Loadout

variable {ν : Type}

/-- A line in normal form without ranges, which adds the effects that it lists. -/
structure KnownRow.Plain (row : KnownRow ν) : Prop where
  text : row.text ≠ ""
  normal : Text.normal row.text = row.text
  ranges : (splitRanges row.text.toList).2 = []
  flags : ∀ effect ∈ row.effects, effect.flags = [] ∧ effect.keywords = []
  isLocal : row.isLocal = false
  displayOnly : row.displayOnly = false

/-- The modifier of an effect without flags. -/
def EffectRow.modifier (row : EffectRow ν) (origin : Origin) : Modifier ν :=
  { stat := row.stat, kind := row.kind, value := row.value, condition := row.condition, origin }

/-- A grammar with one known line. -/
def Grammar.ofLine (row : KnownRow ν) : Grammar ν where
  known :=
    { exact := .insertIfNew ∅ row.text
        { effects := row.effects.map fun effect => ⟨effect, .empty, .empty⟩
          isLocal := row.isLocal
          displayOnly := row.displayOnly }
      ranged := [] }
  forms := []
  stats := .ofRows []
  flags := .ofRows []
  conditions := .ofRows []

/-- A build with one line among its settings and nothing else. -/
def Build.ofLine [Scalar ν] (line : String) : Build ν :=
  { (.ofClass "Witch" : Build ν) with
    settings := { (.standard : Settings ν) with lines := [line] } }

namespace KnownRow.Plain

variable [Scalar ν] {row : KnownRow ν}

omit [Scalar ν] in
private theorem entryOf? (h : row.Plain) : KnownLines.entryOf? row = .ok
    { effects := row.effects.map fun effect => ⟨effect, .empty, .empty⟩
      isLocal := row.isLocal
      displayOnly := row.displayOnly } := by
  refine bind_eq_ok_iff.2 ⟨_, mapM_eq_ok_iff.2 (List.forall₂_map_right_iff.2
    (List.forall₂_same.2 fun effect heffect => ?_)), rfl⟩
  obtain ⟨hflags, hkeywords⟩ := h.flags effect heffect
  rw [hflags, hkeywords]
  rfl

/-- Tables with the line are read as the grammar with the line. -/
theorem ofTables? (h : row.Plain) (compile : PatternCompiler) :
    Grammar.ofTables? compile { known := [row] } = .ok (.ofLine row) := by
  have hknown : KnownLines.ofRows? [row] = .ok (Grammar.ofLine row).known := by
    rw [KnownLines.ofRows?, List.foldlM_cons, KnownLines.add?, h.entryOf?, h.normal]
    simp only [h.ranges]
    rfl
  rw [Grammar.ofTables?, hknown]
  rfl

/-- Without numbers to fill in, effects without flags are added as they stand. -/
private theorem fillEffects_map (effects : List (EffectRow ν)) :
    Grammar.fillEffects .empty .empty (effects.map fun effect => ⟨effect, .empty, .empty⟩) [] =
      effects.map (·.modifier .custom) := by
  induction effects with
  | nil => rfl
  | cons effect effects ih =>
    have hempty {names : Vocabulary} : (FlagSet.empty ∪ FlagSet.empty : FlagSet names) = .empty :=
      congrArg FlagSet.mk BitVec.or_self
    rw [List.map_cons, List.map_cons, ← ih]
    cases hvalue : effect.value <;>
      simp only [Grammar.fillEffects, EffectRow.modifier, hvalue, hempty]

theorem modifiersOf (h : row.Plain) (origin : Origin) :
    (Grammar.ofLine row).modifiersOf [row.text] { origin } =
      row.effects.map (·.modifier origin) := by
  have hexact : (Grammar.ofLine row).known.exact[row.text]? = some
      { effects := row.effects.map fun effect => ⟨effect, .empty, .empty⟩
        isLocal := row.isLocal
        displayOnly := row.displayOnly } := by
    rw [Grammar.ofLine, Std.HashMap.getElem?_insertIfNew, if_pos ⟨beq_self_eq_true _, by simp⟩]
  have hcut : Grammar.cutFlags? (ν := ν) (Grammar.ofLine row).flags.takeAll? row.text.toList =
      some (.empty, .empty, row.text.toList) := by
    have hphrases : (Grammar.ofLine row).flags.phrases = [] := List.mergeSort_nil
    rw [Grammar.cutFlags?, PhraseSet.takeAll?, PhraseSet.takeWithin?, hphrases]
    rfl
  have hinterpret : (Grammar.ofLine row).interpret? row.text = some
      { outcome := .produced (row.effects.map (·.modifier .custom)) [] } := by
    rw [Grammar.interpret?, Grammar.interpretBy?, KnownLines.lookup?, hexact]
    simp only [Grammar.ofKnown?, h.displayOnly, h.isLocal, hcut, fillEffects_map,
      Bool.false_eq_true, if_false, Option.map_some]
  have hparse : (Grammar.ofLine row).parse? row.text { origin } =
      some (.produced (row.effects.map (·.modifier origin)) []) := by
    rw [Grammar.interpret?] at hinterpret
    simp only [Grammar.parse?, Grammar.parseBy?, h.normal, h.text, if_false, hinterpret,
      Option.map_some, Outcome.stamp, Outcome.mapModifiers, List.map_map]
    rfl
  rw [Grammar.modifiersOf, List.flatMap_cons, hparse, List.flatMap_nil, List.append_nil]
  rfl

private theorem settings_ofLine (g : Grammar ν) (line : String) :
    Layer.settings g (Build.ofLine line).settings.resolve =
      g.modifiersOf [line] { origin := Layer.settingsOrigin } := by
  set s := (Build.ofLine line : Build ν).settings.resolve
  have hcharges (stat : String) : (Layer.charges stat 0 : List (Modifier ν)) = [] := rfl
  have hdecisions : s.decisions.filter (·.2) = [] := rfl
  have hlines : s.lines = [line] := rfl
  have hpower : s.powerCharges = 0 := rfl
  have hfrenzy : s.frenzyCharges = 0 := rfl
  have hendurance : s.enduranceCharges = 0 := rfl
  simp only [Layer.settings, hpower, hfrenzy, hendurance, hdecisions, hlines, hcharges,
    List.map_nil, List.nil_append]

/-- The player's store of a build with the line holds the effects of the line. -/
theorem store_full (h : row.Plain) :
    (GameData.full ⟨.ofLine row, {}⟩ (.ofLine row.text)).player.store =
      .ofList (row.effects.map (·.modifier Layer.settingsOrigin)) := by
  set data : GameData ν := ⟨.ofLine row, {}⟩
  set build : Build ν := .ofLine row.text
  have hsettings : Layer.settings data.grammar build.settings.resolve =
      row.effects.map (·.modifier Layer.settingsOrigin) := by
    rw [settings_ofLine, h.modifiersOf]
  have hpassives : Layer.passives data.grammar data.tree build = [] := rfl
  have hskills : Layer.skills data.grammar build.skills = [] := rfl
  have hitems (version : Nat) : (data.items build version).toList = [] := rfl
  rw [GameData.full, Layers.assemble_eq]
  simp only [Layers.playerParts, GameData.passives, GameData.skills, GameData.settings, hsettings,
    hpassives, hskills, hitems, List.filter_nil, List.map_nil, List.cons_append, List.nil_append,
    Store.compose, List.foldl_cons, List.foldl_nil, Store.merge, Store.toList_ofList]
  rfl

end KnownRow.Plain

theorem Build.context_ofLine [Scalar ν] (data : GameData ν) (line : String) :
    (data.full (.ofLine line)).context = (Settings.standard : Settings ν).resolve.apply .empty := by
  rw [Environment.context, GameData.settings_full]
  rfl

end Loadout

import Loadout.Proofs.Line.Builtin
import Loadout.Proofs.Pattern.Names
import Loadout.Proofs.Text.Template

/-!
# What a form captures

The groups that a form captures carry names of its pattern, so with a compiler that checks names
they are legal and differ from one another. A legal name has no braces: it holds letters, number
characters and a few signs. So captured groups are such as a template is filled with.

## Main results

* `Form.named_groups_yield`: the names of captured groups
* `Form.unbraced_of_mem_groups_yield`: they have no braces
* `Form.fill_groups_yield`: a template is filled with captured groups, each token by itself
-/

namespace Loadout

open PatternReader

namespace Form

variable {ν : Type} [Scalar ν] {compile : PatternCompiler} {row : FormRow ν} {f : Form ν}

theorem sublist_map_fst_groups_yield (f : Form ν) (m : Match) :
    ((f.yield m).groups.map Prod.fst).Sublist f.pattern.names.reduceOption := by
  rw [← f.pattern.map_fst_namedSlots]
  have hcaptured (slots : List (String × Nat)) :
      ((slots.filterMap fun slot => (m.group? slot.2).map (slot.1, ·)).map Prod.fst).Sublist
        (slots.map Prod.fst) := by
    induction slots with
    | nil => exact .slnil
    | cons slot slots ih =>
      cases hgroup : m.group? slot.2 with
      | none => simpa [hgroup] using ih.cons slot.1
      | some text => simpa [hgroup] using ih
  exact (hcaptured _).trans (List.filter_sublist.map _)

/-- The names of captured groups are legal and differ from one another. -/
theorem named_groups_yield (hcompile : compile.ChecksNames) (h : ofRow? compile row = .ok f)
    (m : Match) :
    ((f.yield m).groups.map Prod.fst).Nodup ∧
      ∀ group ∈ (f.yield m).groups, isGroupName group.1.toList = true := by
  obtain ⟨hdistinct, hlegal⟩ := hcompile _ _ (compile_of_ofRow? h)
  have hsub := f.sublist_map_fst_groups_yield m
  exact ⟨hdistinct.sublist hsub, fun group hgroup =>
    hlegal _ (hsub.subset (List.mem_map_of_mem hgroup))⟩

end Form

theorem Text.unbraced_of_isGroupName {name : List Char} (h : isGroupName name = true) :
    Unbraced name := by
  have hsigns : Unbraced ['_', '.', '[', ']'] := by decide
  have hchar {first : Bool} {c : Char} (hc : isNameChar first c = true) :
      Character.isBrace c = false := by
    by_cases hword : Character.isAlphanumeric c = true
    · exact Character.not_isBrace_of_isAlphanumeric hword
    · refine hsigns c ?_
      cases first <;> simp_all [isNameChar, Character.isAlphanumeric, or_assoc]
  cases name with
  | nil => cases h
  | cons c cs =>
    rw [isGroupName, Bool.and_eq_true, List.all_eq_true] at h
    exact List.forall_mem_cons.2 ⟨hchar h.1, fun d hd => hchar (h.2 d hd)⟩

section

variable {ν : Type} [Scalar ν] {compile : PatternCompiler} {row : FormRow ν} {f : Form ν}
  (hcompile : compile.ChecksNames) (h : Form.ofRow? compile row = .ok f)
include hcompile h

/-- The names of captured groups have no braces. -/
theorem Form.unbraced_of_mem_groups_yield (m : Match) :
    ∀ group ∈ (f.yield m).groups, Text.Unbraced group.1.toList := fun group hgroup =>
  Text.unbraced_of_isGroupName ((named_groups_yield hcompile h m).2 group hgroup)

/-- A template is filled with the groups that a form captures, each token by itself. -/
theorem Form.fill_groups_yield (m : Match) {stat : Option String}
    (hstat : ∀ s ∈ stat, Text.Unbraced s.toList) {segments : List Text.Segment} {text : String} :
    Text.fill (String.ofList (Text.spell segments)) stat (f.yield m).groups = some text ↔
      ∃ parts, segments.Forall₂ (Text.Segment.Becomes stat (f.yield m).groups) parts ∧
        String.ofList parts.flatten = text :=
  Text.fill_spell_eq_some_iff hstat (unbraced_of_mem_groups_yield hcompile h m)
    (named_groups_yield hcompile h m).1

end

end Loadout

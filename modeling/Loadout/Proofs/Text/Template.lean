import Loadout.Proofs.Character.Upper
import Loadout.Proofs.Document.Entries
import Loadout.Proofs.Text.Pieces
import Loadout.Text.Template
import Mathlib.Data.List.Forall2

/-!
# Filling a template is one substitution

A template is filled step by step, each placeholder in the text that the step before has left.
When names and what is filled in hold no brace, a step finds its placeholder only where the
template itself has the token: a placeholder begins with a brace, ends at the next one, and what
was filled in has neither. So the steps come to one substitution that replaces all tokens at once.
What is filled in for a group is its words as one name, which has no brace because such a name
holds letters and number characters, and upper case makes no brace of one.

## Main definitions

* `Unbraced`: a text without braces
* `Segment`, `spell`: a template as plain texts and tokens, and how it is written
* `Segment.Becomes`: what stands for a segment once the template is filled

## Main results

* `unbraced_pascalCase`: a name made of words has no braces
* `replaceAll_spell`: one step replaces the tokens of one name
* `fillAll_spell`: all steps replace all tokens at once
* `fill_spell`: what comes of a template
-/

namespace Loadout.Text

open Character

/-! ### Texts without braces -/

/-- A text without braces. -/
def Unbraced (text : List Char) : Prop :=
  ∀ c ∈ text, isBrace c = false

instance (text : List Char) : Decidable (Unbraced text) :=
  decidable_of_iff (text.all (!isBrace ·) = true) (by simp [Unbraced])

theorem Unbraced.ne {text : List Char} (h : Unbraced text) : ∀ c ∈ text, c ≠ '\x7b' := by
  rintro c hc rfl
  exact absurd (h _ hc) (by decide)

/-- Upper case and dropped separators leave no brace in the name that a text makes. -/
theorem unbraced_pascalCase (cs : List Char) : Unbraced (pascalCase cs) := by
  intro d hd
  obtain ⟨word, hword, hd⟩ := List.mem_flatten.1 hd
  obtain ⟨piece, hpiece, rfl⟩ := List.mem_map.1 hword
  have hplain {c : Char} (hc : c ∈ piece) : isBrace c = false :=
    not_isBrace_of_isAlphanumeric (by simpa using (mem_of_mem_pieces hpiece hc).2)
  cases piece with
  | nil => cases hd
  | cons c rest =>
    rcases List.mem_append.1 hd with hupper | hrest
    · rw [Bool.eq_false_iff]
      intro hbrace
      rw [eq_of_brace_mem_upper hupper hbrace, hplain List.mem_cons_self] at hbrace
      cases hbrace
    · exact hplain (List.mem_cons_of_mem c hrest)

/-! ### Replacing -/

theorem replaceFrom_eq_drop (old new : List Char) (skip : Nat) (text : List Char) :
    replaceFrom old new skip text = replaceAll old new (text.drop skip) := by
  induction text generalizing skip with
  | nil => cases skip <;> rfl
  | cons c text ih =>
    cases skip with
    | zero => rfl
    | succ skip => exact ih skip

theorem replaceAll_append {old : List Char} (h : old ≠ []) (new rest : List Char) :
    replaceAll old new (old ++ rest) = new ++ replaceAll old new rest := by
  obtain ⟨c, old, rfl⟩ := List.exists_cons_of_ne_nil h
  have hprefix : (c :: old).isPrefixOf (c :: (old ++ rest)) = true :=
    List.isPrefixOf_iff_prefix.2 (List.prefix_append _ _)
  rw [replaceAll, List.cons_append, replaceFrom, if_pos hprefix, replaceFrom_eq_drop,
    List.length_cons, Nat.add_sub_cancel, List.drop_left]

theorem replaceAll_cons {old : List Char} {c : Char} {rest : List Char}
    (h : old.isPrefixOf (c :: rest) = false) (new : List Char) :
    replaceAll old new (c :: rest) = c :: replaceAll old new rest := by
  rw [replaceAll, replaceFrom, if_neg (by simp [h])]
  rfl

theorem replaceAll_eq_self {old text : List Char} (h : occurs old text = false)
    (new : List Char) : replaceAll old new text = text := by
  induction text with
  | nil => rfl
  | cons c text ih =>
    rw [occurs, Bool.or_eq_false_iff] at h
    rw [replaceAll_cons h.1, ih h.2]

/-! ### Placeholders -/

theorem placeholder_isPrefixOf_cons {name : List Char} {c : Char} (hc : c ≠ '\x7b')
    (rest : List Char) : (placeholder name).isPrefixOf (c :: rest) = false := by
  rw [Bool.eq_false_iff]
  intro h
  exact hc (List.cons_prefix_cons.1 (List.isPrefixOf_iff_prefix.1 h)).1.symm

theorem placeholder_isPrefixOf {name other : List Char} (hname : Unbraced name)
    (hother : Unbraced other) (rest : List Char) :
    (placeholder name).isPrefixOf (placeholder other ++ rest) = true ↔ name = other := by
  rw [List.isPrefixOf_iff_prefix]
  constructor
  · rintro ⟨more, hmore⟩
    have htail : name ++ '\x7d' :: more = other ++ '\x7d' :: rest := by
      simpa [placeholder] using hmore
    have hcut {name : List Char} (hname : Unbraced name) (more : List Char) :
        (name ++ '\x7d' :: more).takeWhile (!isBrace ·) = name := by
      rw [List.takeWhile_append_of_pos (fun c hc => by rw [hname c hc]; rfl),
        List.takeWhile_cons_of_neg (by decide), List.append_nil]
    rw [← hcut hname more, htail, hcut hother]
  · rintro rfl
    exact List.prefix_append _ _

section Passing

variable {name text : List Char} (htext : ∀ c ∈ text, c ≠ '\x7b') (rest : List Char)

include htext

/-- Replacing placeholders passes over characters that open none. -/
theorem replaceAll_append_of_forall_ne (new : List Char) :
    replaceAll (placeholder name) new (text ++ rest) =
      text ++ replaceAll (placeholder name) new rest := by
  induction text with
  | nil => rfl
  | cons c text ih =>
    obtain ⟨hc, htext⟩ := List.forall_mem_cons.1 htext
    rw [List.cons_append, replaceAll_cons (placeholder_isPrefixOf_cons hc _), ih htext]
    rfl

theorem occurs_append_of_forall_ne :
    occurs (placeholder name) (text ++ rest) = occurs (placeholder name) rest := by
  induction text with
  | nil => rfl
  | cons c text ih =>
    obtain ⟨hc, htext⟩ := List.forall_mem_cons.1 htext
    rw [List.cons_append, occurs, placeholder_isPrefixOf_cons hc, Bool.false_or, ih htext]

end Passing

theorem Unbraced.ne_of_mem_close {name : List Char} (h : Unbraced name) :
    ∀ c ∈ name ++ ['\x7d'], c ≠ '\x7b' := by
  intro c hc
  rcases List.mem_append.1 hc with hc | hc
  · exact h.ne c hc
  · rw [List.mem_singleton.1 hc]
    decide

section Meeting

variable {name other : List Char} (hname : Unbraced name) (hother : Unbraced other)
  (rest : List Char)

include hname hother

/-- A placeholder is replaced if it has the name, and else it stays. -/
theorem replaceAll_placeholder_append (new : List Char) :
    replaceAll (placeholder name) new (placeholder other ++ rest) =
      (if name = other then new else placeholder other) ++
        replaceAll (placeholder name) new rest := by
  by_cases hsame : name = other
  · subst hsame
    rw [if_pos rfl, replaceAll_append (by simp [placeholder])]
  · have hprefix : (placeholder name).isPrefixOf (placeholder other ++ rest) = false := by
      rw [Bool.eq_false_iff]
      exact mt (placeholder_isPrefixOf hname hother rest).1 hsame
    rw [if_neg hsame]
    exact (replaceAll_cons hprefix new).trans
      (congrArg _ (replaceAll_append_of_forall_ne hother.ne_of_mem_close rest new))

theorem occurs_placeholder_append :
    occurs (placeholder name) (placeholder other ++ rest) = true ↔
      name = other ∨ occurs (placeholder name) rest = true := by
  have hrest : occurs (placeholder name) (other ++ ['\x7d'] ++ rest) =
      occurs (placeholder name) rest :=
    occurs_append_of_forall_ne hother.ne_of_mem_close rest
  rw [← placeholder_isPrefixOf hname hother rest, ← hrest, ← Bool.or_eq_true]
  rfl

end Meeting

/-! ### Templates -/

/-- A part of a template: a text to keep, or the name of what is to be filled in. -/
inductive Segment where
  | plain (text : String) (unbraced : Unbraced text.toList)
  | token (name : String) (unbraced : Unbraced name.toList)

namespace Segment

/-- A segment as it stands in a template. -/
def chars : Segment → List Char
  | plain text _ => text.toList
  | token name _ => placeholder name.toList

/-- A segment is a token with a name. -/
def Names (name : String) (segment : Segment) : Prop :=
  ∃ unbraced, segment = token name unbraced

/-- A segment with the token of a name replaced by a text without braces. -/
def replace (name : String) (new : List Char) (unbraced : Unbraced new) : Segment → Segment
  | plain text h => plain text h
  | token other h =>
    if name = other then plain (String.ofList new) (by rwa [String.toList_ofList])
    else token other h

/-- What stands for a segment once every token is replaced that has an entry under its name. -/
def resolved (entries : List (String × List Char)) : Segment → List Char
  | plain text _ => text.toList
  | token name _ => (entries.lookup name).getD (placeholder name.toList)

end Segment

/-- A template as it is written. -/
def spell (segments : List Segment) : List Char :=
  segments.flatMap Segment.chars

theorem spell_cons (segment : Segment) (segments : List Segment) :
    spell (segment :: segments) = segment.chars ++ spell segments :=
  List.flatMap_cons

section Steps

variable {name : String} (hname : Unbraced name.toList)

include hname

/-- One step replaces the tokens of one name. -/
theorem replaceAll_spell {new : List Char} (hnew : Unbraced new) (segments : List Segment) :
    replaceAll (placeholder name.toList) new (spell segments) =
      spell (segments.map (Segment.replace name new hnew)) := by
  induction segments with
  | nil => rfl
  | cons segment segments ih =>
    rw [List.map_cons, spell_cons, spell_cons, ← ih]
    cases segment with
    | plain text h => exact replaceAll_append_of_forall_ne h.ne _ new
    | token other h =>
      rw [Segment.chars, replaceAll_placeholder_append hname h, Segment.replace]
      by_cases hsame : name = other
      · simp [hsame, Segment.chars]
      · simp [hsame, String.toList_inj, Segment.chars]

theorem occurs_spell (segments : List Segment) :
    occurs (placeholder name.toList) (spell segments) = true ↔
      ∃ segment ∈ segments, segment.Names name := by
  induction segments with
  | nil => simp [spell, occurs, placeholder]
  | cons segment segments ih =>
    rw [spell_cons, List.exists_mem_cons_iff, ← ih]
    cases segment with
    | plain text h =>
      rw [Segment.chars, occurs_append_of_forall_ne h.ne]
      simp [Segment.Names]
    | token other h =>
      rw [Segment.chars, occurs_placeholder_append hname h, String.toList_inj]
      have hsame : (Segment.token other h).Names name ↔ name = other :=
        ⟨by rintro ⟨-, ⟨⟩⟩; rfl, by rintro rfl; exact ⟨h, rfl⟩⟩
      rw [hsame]

end Steps

/-- What is filled in under each name, in the order of the steps. -/
def fillings (stat : Option String) (groups : List (String × List Char)) :
    List (String × List Char) :=
  (stat.map fun s => ("stat", s.toList)).toList ++
    groups.map fun group => (group.1, pascalCase group.2)

/-- The steps that fill in one entry after the other. -/
def fillAll (entries : List (String × List Char)) (text : List Char) : List Char :=
  entries.foldl (fun text entry => replaceAll (placeholder entry.1.toList) entry.2 text) text

/-- A template that asks for a stat needs one, and else it goes through all steps. -/
theorem fill_eq (template : String) (stat : Option String) (groups : List (String × List Char)) :
    fill template stat groups =
      if occurs (placeholder "stat".toList) template.toList = true ∧ stat = none then none
      else some (String.ofList (fillAll (fillings stat groups) template.toList)) := by
  simp only [fill]
  cases stat with
  | none =>
    cases occurs (placeholder "stat".toList) template.toList <;>
      simp [fillAll, fillings, List.foldl_map]
  | some s =>
    have hbase : (if occurs (placeholder "stat".toList) template.toList then
        (some s).map fun s => replaceAll (placeholder "stat".toList) s.toList template.toList
        else some template.toList) =
          some (replaceAll (placeholder "stat".toList) s.toList template.toList) := by
      cases hoccurs : occurs (placeholder "stat".toList) template.toList with
      | false => rw [replaceAll_eq_self hoccurs]; rfl
      | true => rfl
    rw [hbase, if_neg fun h => Option.some_ne_none s h.2]
    simp only [Option.map_some, fillAll, fillings, Option.toList_some, List.cons_append,
      List.nil_append, List.foldl_cons, List.foldl_map]

/-- All steps replace all tokens at once. -/
theorem fillAll_spell {entries : List (String × List Char)}
    (h : ∀ entry ∈ entries, Unbraced entry.1.toList ∧ Unbraced entry.2)
    (segments : List Segment) :
    fillAll entries (spell segments) = segments.flatMap (Segment.resolved entries) := by
  induction entries generalizing segments with
  | nil =>
    refine congrArg segments.flatMap (funext fun segment => ?_)
    cases segment <;> rfl
  | cons entry entries ih =>
    obtain ⟨⟨hname, hnew⟩, h⟩ := List.forall_mem_cons.1 h
    -- The first step makes plain texts of its tokens, and the others leave these alone.
    have hstep (segment : Segment) : (segment.replace entry.1 entry.2 hnew).resolved entries =
        segment.resolved (entry :: entries) := by
      cases segment with
      | plain text _ => rfl
      | token other hother =>
        rw [Segment.replace, Segment.resolved, List.lookup_cons]
        by_cases hsame : entry.1 = other
        · rw [if_pos hsame, beq_iff_eq.2 hsame.symm]
          exact String.toList_ofList
        · rw [if_neg hsame, beq_false_of_ne (Ne.symm hsame)]
          rfl
    calc fillAll (entry :: entries) (spell segments)
        = fillAll entries (spell (segments.map (Segment.replace entry.1 entry.2 hnew))) :=
          congrArg (fillAll entries) (replaceAll_spell hname hnew segments)
      _ = segments.flatMap fun segment =>
            (segment.replace entry.1 entry.2 hnew).resolved entries := by
          rw [ih h, List.flatMap_map]
      _ = segments.flatMap (Segment.resolved (entry :: entries)) := by
          rw [funext hstep]

/-! ### What stands for a segment -/

/-- What stands for a segment once a template is filled: a text for itself, the stat for a token of
that name, the words of a group as one name for a token of the group, and any other token for
itself. -/
inductive Segment.Becomes (stat : Option String) (groups : List (String × List Char)) :
    Segment → List Char → Prop where
  | plain {text : String} {h : Unbraced text.toList} :
    Becomes stat groups (.plain text h) text.toList
  | stat {s : String} {h : Unbraced "stat".toList} (hstat : stat = some s) :
    Becomes stat groups (.token "stat" h) s.toList
  | group {name : String} {words : List Char} {h : Unbraced name.toList} (hname : name ≠ "stat")
    (hgroup : (name, words) ∈ groups) : Becomes stat groups (.token name h) (pascalCase words)
  | other {name : String} {h : Unbraced name.toList} (hname : name ≠ "stat")
    (hnone : ∀ words, (name, words) ∉ groups) :
    Becomes stat groups (.token name h) (placeholder name.toList)

/-- What stands for a segment depends on which groups there are, but not on their order. -/
theorem Segment.Becomes.of_mem {stat : Option String} {groups groups' : List (String × List Char)}
    (hmem : ∀ group, group ∈ groups ↔ group ∈ groups') {segment : Segment} {part : List Char}
    (h : segment.Becomes stat groups part) : segment.Becomes stat groups' part := by
  cases h with
  | plain => exact .plain
  | stat hstat => exact .stat hstat
  | group hname hgroup => exact .group hname ((hmem _).1 hgroup)
  | other hname hnone => exact .other hname fun words hgroup => hnone words ((hmem _).2 hgroup)

theorem lookup_fillings {name : String} (hname : name ≠ "stat") (stat : Option String)
    (groups : List (String × List Char)) :
    (fillings stat groups).lookup name = (groups.lookup name).map pascalCase := by
  have hgroups : (groups.map fun group => (group.1, pascalCase group.2)).lookup name =
      (groups.lookup name).map pascalCase := by
    induction groups with
    | nil => rfl
    | cons group groups ih =>
      rw [List.map_cons, List.lookup_cons, List.lookup_cons, ih]
      split <;> rfl
  rw [fillings, List.lookup_append, hgroups]
  cases stat with
  | none => rfl
  | some s => simp [List.lookup_cons, beq_false_of_ne hname]

section Groups

variable {stat : Option String} {groups : List (String × List Char)}
  (hdistinct : (groups.map Prod.fst).Nodup)

include hdistinct

/-- Among groups with different names one text alone stands for a segment, and none for a token
that asks for a missing stat. -/
theorem Segment.becomes_iff {segment : Segment} {part : List Char} :
    segment.Becomes stat groups part ↔
      ¬ (segment.Names "stat" ∧ stat = none) ∧ segment.resolved (fillings stat groups) = part := by
  have hmem {name : String} {words : List Char} :
      groups.lookup name = some words ↔ (name, words) ∈ groups :=
    lookup_eq_some_iff_mem (List.pairwise_map.1 hdistinct)
  cases segment with
  | plain text h =>
    constructor
    · rintro ⟨⟩
      exact ⟨by rintro ⟨⟨-, ⟨⟩⟩, -⟩, rfl⟩
    · rintro ⟨-, rfl⟩
      exact .plain
  | token name h =>
    by_cases hname : name = "stat"
    · subst hname
      constructor
      · intro hpart
        cases hpart with
        | stat hstat => exact ⟨by simp [hstat], by rw [hstat]; rfl⟩
        | group hname => exact absurd rfl hname
        | other hname => exact absurd rfl hname
      · rintro ⟨hstat, rfl⟩
        obtain ⟨s, hs⟩ := Option.ne_none_iff_exists'.1 fun hnone => hstat ⟨⟨h, rfl⟩, hnone⟩
        rw [hs]
        exact .stat rfl
    · rw [Segment.resolved, lookup_fillings hname]
      constructor
      · intro hpart
        refine ⟨by rintro ⟨⟨-, ⟨⟩⟩, -⟩; exact hname rfl, ?_⟩
        cases hpart with
        | stat => exact absurd rfl hname
        | group _ hgroup => rw [hmem.2 hgroup]; rfl
        | other _ hnone =>
          rw [Option.eq_none_iff_forall_ne_some.2 fun words h => hnone words (hmem.1 h)]
          rfl
      · rintro ⟨-, rfl⟩
        cases hfound : groups.lookup name with
        | none => exact .other hname fun words hgroup => by simp [hmem.2 hgroup] at hfound
        | some words => exact .group hname (hmem.1 hfound)

theorem forall₂_becomes_iff {segments : List Segment} {parts : List (List Char)} :
    segments.Forall₂ (Segment.Becomes stat groups) parts ↔
      ¬ ((∃ segment ∈ segments, segment.Names "stat") ∧ stat = none) ∧
        segments.map (Segment.resolved (fillings stat groups)) = parts := by
  have hbecomes : Segment.Becomes stat groups = fun segment part =>
      ¬ (segment.Names "stat" ∧ stat = none) ∧
        segment.resolved (fillings stat groups) = part :=
    funext fun _ => funext fun _ => propext (Segment.becomes_iff hdistinct)
  have hnone : (∀ segment ∈ segments, ¬ (segment.Names "stat" ∧ stat = none)) ↔
      ¬ ((∃ segment ∈ segments, segment.Names "stat") ∧ stat = none) := by
    simp only [not_and, forall_exists_index, and_imp]
  rw [hbecomes, List.forall₂_and_left, ← List.forall₂_map_left_iff, List.forall₂_eq_eq_eq, hnone]

end Groups

section Filling

variable {stat : Option String} {groups : List (String × List Char)}
  (hstat : ∀ s ∈ stat, Unbraced s.toList) (hnames : ∀ group ∈ groups, Unbraced group.1.toList)

include hstat hnames

theorem unbraced_of_mem_fillings :
    ∀ entry ∈ fillings stat groups, Unbraced entry.1.toList ∧ Unbraced entry.2 := by
  intro entry hentry
  rcases List.mem_append.1 hentry with hentry | hentry
  · obtain ⟨s, hs, rfl⟩ := Option.map_eq_some_iff.1 (Option.mem_toList.1 hentry)
    exact ⟨show Unbraced "stat".toList by decide, hstat s hs⟩
  · obtain ⟨group, hgroup, rfl⟩ := List.mem_map.1 hentry
    exact ⟨hnames group hgroup, unbraced_pascalCase group.2⟩

/-- A template is filled, unless it has a token for a missing stat, by replacing all its tokens at
once. -/
theorem fill_spell_eq_some_iff_resolved {segments : List Segment} {text : String} :
    fill (String.ofList (spell segments)) stat groups = some text ↔
      ¬ ((∃ segment ∈ segments, segment.Names "stat") ∧ stat = none) ∧
        String.ofList (segments.flatMap (Segment.resolved (fillings stat groups))) = text := by
  simp only [fill_eq, String.toList_ofList (l := spell segments),
    occurs_spell (show Unbraced "stat".toList by decide),
    fillAll_spell (unbraced_of_mem_fillings hstat hnames), Option.ite_none_left_eq_some,
    Option.some.injEq]

theorem fill_spell_eq_none_iff {segments : List Segment} :
    fill (String.ofList (spell segments)) stat groups = none ↔
      (∃ segment ∈ segments, segment.Names "stat") ∧ stat = none := by
  rw [Option.eq_none_iff_forall_ne_some]
  constructor
  · intro hnone
    by_contra hfilled
    exact hnone _ ((fill_spell_eq_some_iff_resolved hstat hnames).2 ⟨hfilled, rfl⟩)
  · intro hmissing text htext
    exact ((fill_spell_eq_some_iff_resolved hstat hnames).1 htext).1 hmissing

/-- What comes of a template is put together from what stands for its segments. -/
theorem fill_spell_eq_some_iff (hdistinct : (groups.map Prod.fst).Nodup) {segments : List Segment}
    {text : String} :
    fill (String.ofList (spell segments)) stat groups = some text ↔
      ∃ parts, segments.Forall₂ (Segment.Becomes stat groups) parts ∧
        String.ofList parts.flatten = text := by
  simp only [fill_spell_eq_some_iff_resolved hstat hnames, forall₂_becomes_iff hdistinct,
    and_assoc, exists_and_left, exists_eq_left', List.flatMap_def]

/-- Filling a template replaces its tokens all at once: it comes to nothing when it has a token
for a missing stat, and else to what stands for its segments, in whatever order the groups are. -/
theorem fill_spell (hdistinct : (groups.map Prod.fst).Nodup) (segments : List Segment) :
    (fill (String.ofList (spell segments)) stat groups = none ↔
      (∃ segment ∈ segments, segment.Names "stat") ∧ stat = none) ∧
    (∀ text, fill (String.ofList (spell segments)) stat groups = some text ↔
      ∃ parts, segments.Forall₂ (Segment.Becomes stat groups) parts ∧
        String.ofList parts.flatten = text) ∧
    ∀ groups', groups'.Perm groups →
      fill (String.ofList (spell segments)) stat groups' =
        fill (String.ofList (spell segments)) stat groups := by
  refine ⟨fill_spell_eq_none_iff hstat hnames,
    fun text => fill_spell_eq_some_iff hstat hnames hdistinct,
    fun groups' hperm => Option.ext fun text => ?_⟩
  have hnames' : ∀ group ∈ groups', Unbraced group.1.toList := fun group hgroup =>
    hnames group (hperm.mem_iff.1 hgroup)
  have hdistinct' : (groups'.map Prod.fst).Nodup := (hperm.map Prod.fst).nodup_iff.2 hdistinct
  have hbecomes : Segment.Becomes stat groups' = Segment.Becomes stat groups :=
    funext fun _ => funext fun _ => propext
      ⟨.of_mem fun _ => hperm.mem_iff, .of_mem fun _ => hperm.symm.mem_iff⟩
  rw [fill_spell_eq_some_iff hstat hnames hdistinct,
    fill_spell_eq_some_iff hstat hnames' hdistinct', hbecomes]

end Filling

/-- A group may hold the token of another one, and a letter that becomes two. -/
theorem fill_spell_ligature :
    (∀ s ∈ some "Damage", Unbraced s.toList) ∧
    (∀ group ∈ [("kind", "ﬁre \x7bside\x7d".toList), ("side", "off hand".toList)],
      Unbraced group.1.toList) ∧
    ([("kind", "ﬁre \x7bside\x7d".toList), ("side", "off hand".toList)].map Prod.fst).Nodup ∧
    fill "\x7bkind\x7d\x7bstat\x7d on \x7bside\x7d \x7bany\x7d" (some "Damage")
      [("side", "off hand".toList), ("kind", "ﬁre \x7bside\x7d".toList)] =
        some "FIreSideDamage on OffHand \x7bany\x7d" := by
  have hstat : ∀ s ∈ some "Damage", Unbraced s.toList := by
    rintro s ⟨⟩
    decide
  have hnames : ∀ group ∈ [("kind", "ﬁre \x7bside\x7d".toList), ("side", "off hand".toList)],
      Unbraced group.1.toList := by decide
  have hdistinct :
      ([("kind", "ﬁre \x7bside\x7d".toList), ("side", "off hand".toList)].map Prod.fst).Nodup := by
    decide
  have hkind : pascalCase "ﬁre \x7bside\x7d".toList = "FIreSide".toList := by decide +kernel
  have hside : pascalCase "off hand".toList = "OffHand".toList := by decide +kernel
  obtain ⟨-, hsome, hperm⟩ := fill_spell hstat hnames hdistinct
    [.token "kind" (by decide), .token "stat" (by decide), .plain " on " (by decide),
      .token "side" (by decide), .plain " " (by decide), .token "any" (by decide)]
  refine ⟨hstat, hnames, hdistinct, (hperm _ (.swap ..)).trans ((hsome _).2
    ⟨[pascalCase "ﬁre \x7bside\x7d".toList, "Damage".toList, " on ".toList,
      pascalCase "off hand".toList, " ".toList, placeholder "any".toList], ?_, ?_⟩)⟩
  · exact .cons (.group (by decide) List.mem_cons_self) <| .cons (.stat rfl) <| .cons .plain <|
      .cons (.group (by decide) (List.mem_cons_of_mem _ List.mem_cons_self)) <| .cons .plain <|
      .cons (.other (by decide) (by simp)) .nil
  · rw [hkind, hside]
    rfl

end Loadout.Text

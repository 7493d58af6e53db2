import Loadout.Line.Parser
import Loadout.Proofs.Line.Exhaustion

/-!
# What a parser remembers cannot be seen

A parser keeps interpretations, and an interpretation depends on the line in normal form
alone. It is attributed to a place only on a copy, so an entry is the interpretation of its line
for as long as it is kept, whatever was asked before and whenever the entries were dropped. The
answers of a parser are therefore those of one that was just built.

## Main definitions

* `LineContext.Owns`: a modifier is attributed to a place
* `Parser.Request`, `Parser.serve?`, `Parser.serveAll?`: what can be asked of a parser
* `Parser.Faithful`: every entry is the interpretation of its line, and there are not too many
* `Parser.Gives`: what is asked comes to an answer and leaves a faithful parser behind

## Main results

* `Parser.Faithful.serve?`, `Parser.Faithful.serveAll?`: no request breaks the invariant
* `Parser.serveAll_fresh`: every answer is that of a parser which was just built
-/

namespace Loadout

variable {ν : Type}

/-! ### Attribution -/

/-- A modifier is attributed to a place: it comes from there, and a tag on it is the slot that
the place names. -/
structure LineContext.Owns (ctx : LineContext) (m : Modifier ν) : Prop where
  origin : m.origin = ctx.origin
  tag : ∀ tag, m.tag = some tag → ∃ slot, ctx.slot = some slot ∧ tag = .slot slot

/-- A modifier without a tag is attributed to the place that it is stamped with. -/
theorem LineContext.owns_stampModifier (ctx : LineContext) (isLocal : Bool) {m : Modifier ν}
    (h : m.tag = none) : ctx.Owns (Outcome.stampModifier ctx isLocal m) := by
  refine ⟨rfl, fun tag htag => ?_⟩
  cases isLocal with
  | false => exact absurd (h.symm.trans htag) (Option.some_ne_none tag).symm
  | true =>
    cases hslot : ctx.slot with
    | none =>
      simp only [Outcome.stampModifier, hslot, h] at htag
      exact absurd htag (Option.some_ne_none tag).symm
    | some slot =>
      simp only [Outcome.stampModifier, hslot] at htag
      exact ⟨slot, rfl, (Option.some.inj htag).symm⟩

namespace Grammar

variable [Scalar ν] {g : Grammar ν}
  {take : List Char → Option (List (Found ν FlagMeaning) × List Char)}

theorem tag_of_mem_fillEffects {flags : DamageFlags} {keywords : KeywordFlags}
    {effects : List (Effect ν)} {numbers : List ν} {m : Modifier ν}
    (h : m ∈ fillEffects flags keywords effects numbers) : m.tag = none := by
  induction effects generalizing numbers with
  | nil => cases h
  | cons effect rest ih =>
    unfold fillEffects at h
    obtain rfl | h := List.mem_cons.mp h
    · rfl
    · exact ih h

theorem tag_of_ofKnown? {line : String} {hit : KnownHit ν} {i : Interpretation ν}
    (h : ofKnown? take line hit = some i) {m : Modifier ν} (hm : m ∈ i.outcome.modifiers) :
    m.tag = none := by
  unfold ofKnown? at h
  split at h
  · cases h
    cases hm
  · obtain ⟨⟨flags, keywords, rest⟩, -, rfl⟩ := Option.map_eq_some_iff.1 h
    exact tag_of_mem_fillEffects hm

theorem tag_of_ofForm? {line : String} {form : Form ν} {found : FormMatch ν}
    {i : Interpretation ν} (h : g.ofForm? take line form found = some i) {m : Modifier ν}
    (hm : m ∈ i.outcome.modifiers) : m.tag = none := by
  unfold ofForm? at h
  split at h
  · cases h
    cases hm
  · obtain ⟨reading, -, rfl⟩ := Option.map_eq_some_iff.1 h
    unfold ofReading at hm
    dsimp only at hm
    split at hm
    · cases hm
    · obtain ⟨entry, -, rfl⟩ := List.mem_map.mp hm
      rfl

theorem tag_of_interpret? {line : String} {i : Interpretation ν}
    (h : g.interpret? line = some i) {m : Modifier ν} (hm : m ∈ i.outcome.modifiers) :
    m.tag = none := by
  unfold interpret? interpretBy? at h
  split at h
  · exact tag_of_ofKnown? h hm
  · split at h
    · exact tag_of_ofForm? h hm
    · cases h
      cases hm

theorem owns_of_parse? {text : String} {ctx : LineContext} {o : Outcome ν}
    (h : g.parse? text ctx = some o) {m : Modifier ν} (hm : m ∈ o.modifiers) : ctx.Owns m := by
  rw [parse?] at h
  by_cases hline : Text.normal text = ""
  · rw [parseBy?_of_eq_empty hline] at h
    cases h
    cases hm
  · rw [parseBy?_eq hline] at h
    obtain ⟨i, hi, rfl⟩ := Option.map_eq_some_iff.1 h
    rw [modifiers_stamp] at hm
    obtain ⟨n, hn, rfl⟩ := List.mem_map.mp hm
    exact ctx.owns_stampModifier i.isLocal (tag_of_interpret? hi hn)

end Grammar

/-! ### Requests -/

namespace Parser

/-- What can be asked of a parser. -/
inductive Request where
  /-- Reads one line at a place. -/
  | line (text : String) (ctx : LineContext)
  /-- Reads the nonblank lines of a block at a place. -/
  | block (text : String) (ctx : LineContext)
  /-- Forgets every remembered line. -/
  | clear

/-- The place that a request is about, if it reads anything. -/
def Request.context? : Request → Option LineContext
  | line _ ctx => some ctx
  | block _ ctx => some ctx
  | clear => none

variable [Scalar ν]

/-- The answer to a request, one outcome for each line, and the parser afterwards. There is none
when a line of the request has no outcome. -/
def serve? (p : Parser ν) : Request → Option (List (Outcome ν) × Parser ν)
  | .line text ctx => (p.parse? text ctx).map fun (outcome, p) => ([outcome], p)
  | .block text ctx => p.parseLines? text ctx
  | .clear => some ([], p.clearMemo)

/-- The answers to requests in turn, if each of them has one. -/
def serveAll? (p : Parser ν) : List Request → Option (List (List (Outcome ν)) × Parser ν)
  | [] => some ([], p)
  | request :: rest => do
    let (answer, p) ← p.serve? request
    let (answers, p) ← p.serveAll? rest
    return (answer :: answers, p)

/-- The answer to a request by a grammar, which remembers nothing. -/
def Request.answer? (g : Grammar ν) : Request → Option (List (Outcome ν))
  | line text ctx => (g.parse? text ctx).map fun outcome => [outcome]
  | block text ctx => g.parseLines? text ctx
  | clear => some []

theorem Request.owns_of_answer? {g : Grammar ν} {request : Request} {answer : List (Outcome ν)}
    (h : request.answer? g = some answer) {outcome : Outcome ν} (ho : outcome ∈ answer)
    {m : Modifier ν} (hm : m ∈ outcome.modifiers) :
    ∃ ctx, request.context? = some ctx ∧ ctx.Owns m := by
  cases request with
  | line text ctx =>
    rw [answer?] at h
    obtain ⟨o, hparse, rfl⟩ := Option.map_eq_some_iff.1 h
    rw [List.mem_singleton.1 ho] at hm
    exact ⟨ctx, rfl, Grammar.owns_of_parse? hparse hm⟩
  | block text ctx =>
    rw [answer?, Grammar.parseLines?, mapM_eq_some_iff] at h
    obtain ⟨line, -, hparse⟩ := exists_of_forall₂ h ho
    exact ⟨ctx, rfl, Grammar.owns_of_parse? hparse hm⟩
  | clear =>
    cases h
    cases ho

theorem Request.answer?_ne_none {g : Grammar ν} (hg : ¬ ∃ p ∈ g.flags.phrases, p.text = "")
    (request : Request) : request.answer? g ≠ none := by
  have hparse (text : String) (ctx : LineContext) : g.parse? text ctx ≠ none :=
    fun hnone => hg (Grammar.parse?_eq_none_iff.1 hnone).2.2
  cases request with
  | line text ctx =>
    rw [answer?, ne_eq, Option.map_eq_none_iff]
    exact hparse text ctx
  | block text ctx =>
    rw [answer?, Grammar.parseLines?, ne_eq, mapM_eq_none_iff]
    exact fun ⟨source, _, hnone⟩ => hparse source ctx hnone
  | clear => exact Option.some_ne_none _

/-! ### The invariant -/

/-- Every entry is the interpretation of its line by a grammar, and there are not too many. -/
structure Faithful (g : Grammar ν) (p : Parser ν) : Prop where
  grammar : p.grammar = g
  memo : ∀ line i, p.memo[line]? = some i → g.interpret? line = some i
  size : p.memo.size ≤ capacity

variable {g : Grammar ν} {p : Parser ν}

theorem faithful_ofGrammar (g : Grammar ν) : Faithful g (.ofGrammar g) where
  grammar := rfl
  memo line i h := by simp [ofGrammar] at h
  size := by simp [ofGrammar]

theorem Faithful.clearMemo (h : p.Faithful g) : p.clearMemo.Faithful g where
  grammar := h.grammar
  memo line i hi := by simp [Parser.clearMemo] at hi
  size := by simp [Parser.clearMemo]

/-- Remembering the interpretation of a line keeps the invariant. When the memo is full, the new
entry is the only one left. -/
theorem Faithful.remember (h : p.Faithful g) {line : String} {i : Interpretation ν}
    (hi : g.interpret? line = some i) : (p.remember line i).Faithful g := by
  have hroom : ∃ memo : Std.HashMap String (Interpretation ν), memo.size < capacity ∧
      (∀ line i, memo[line]? = some i → g.interpret? line = some i) ∧
      p.remember line i = { p with memo := memo.insert line i } := by
    by_cases hfull : capacity ≤ p.memo.size
    · exact ⟨∅, by simp [capacity], by simp, by simp only [Parser.remember, if_pos hfull]⟩
    · exact ⟨p.memo, Nat.lt_of_not_le hfull, h.memo, by
        simp only [Parser.remember, if_neg hfull]⟩
  obtain ⟨memo, hsize, hmemo, heq⟩ := hroom
  rw [heq]
  refine ⟨h.grammar, fun other j hj => ?_, ?_⟩
  · rw [Std.HashMap.getElem?_insert] at hj
    split at hj
    · rename_i hline
      rw [← Option.some.inj hj, ← beq_iff_eq.mp hline, hi]
    · exact hmemo other j hj
  · have hinsert := Std.HashMap.size_insert_le (m := memo) (k := line) (v := i)
    exact Nat.le_trans hinsert hsize

/-! ### Answers of faithful parsers -/

/-- What is asked of a parser comes to an answer, or to none, and leaves a faithful parser
behind. -/
structure Gives {β : Type} (g : Grammar ν) (run : Option (β × Parser ν)) (answer : Option β) :
    Prop where
  answer : run.map Prod.fst = answer
  after : ∀ result ∈ run, result.2.Faithful g

section Gives

variable {β γ : Type} {run : Option (β × Parser ν)} {answer : Option β}

theorem gives_some (h : p.Faithful g) (b : β) : Gives g (some (b, p)) (some b) where
  answer := rfl
  after _ hresult := Option.some.inj hresult ▸ h

theorem Gives.map (h : Gives g run answer) (f : β → γ) :
    Gives g (run.map fun result => (f result.1, result.2)) (answer.map f) where
  answer := by
    rw [← h.answer, Option.map_map, Option.map_map]
    rfl
  after result hresult := by
    obtain ⟨before, hbefore, rfl⟩ := Option.map_eq_some_iff.1 hresult
    exact h.after before hbefore

theorem Gives.bind (h : Gives g run answer) {next : β × Parser ν → Option (γ × Parser ν)}
    {f : β → Option γ} (hnext : ∀ b p, p.Faithful g → Gives g (next (b, p)) (f b)) :
    Gives g (run.bind next) (answer.bind f) := by
  obtain ⟨rfl, hafter⟩ := h
  cases run with
  | none => exact ⟨rfl, nofun⟩
  | some result => exact hnext result.1 result.2 (hafter result rfl)

end Gives

theorem Faithful.interpret? (h : p.Faithful g) (line : String) :
    Gives g (p.interpret? line) (g.interpret? line) := by
  unfold Parser.interpret?
  split
  · rename_i i hi
    rw [h.memo line i hi]
    exact gives_some h i
  · rw [h.grammar]
    cases hi : g.interpret? line with
    | none => exact ⟨rfl, nofun⟩
    | some i => exact gives_some (h.remember hi) i

theorem Faithful.parse? (h : p.Faithful g) (text : String) (ctx : LineContext) :
    Gives g (p.parse? text ctx) (g.parse? text ctx) := by
  unfold Parser.parse? Grammar.parse? Grammar.parseBy?
  generalize Text.normal text = line
  dsimp only
  split
  · exact gives_some h _
  · exact (h.interpret? line).map fun i => i.outcome.stamp ctx i.isLocal

theorem Faithful.parseEach? (h : p.Faithful g) (ctx : LineContext) (lines : List String) :
    Gives g (p.parseEach? ctx lines) (lines.mapM fun line => g.parse? line ctx) := by
  induction lines generalizing p with
  | nil => exact gives_some h []
  | cons line lines ih =>
    rw [List.mapM_cons, Parser.parseEach?]
    exact (h.parse? line ctx).bind fun outcome p hp =>
      (ih hp).bind fun rest q hq => gives_some hq (outcome :: rest)

/-- A faithful parser answers a request as its grammar does. -/
theorem Faithful.serve? (h : p.Faithful g) (request : Request) :
    Gives g (p.serve? request) (request.answer? g) := by
  cases request with
  | line text ctx =>
    rw [Parser.serve?, Request.answer?]
    exact (h.parse? text ctx).map fun outcome => [outcome]
  | block text ctx =>
    rw [Parser.serve?, Parser.parseLines?, Request.answer?, Grammar.parseLines?]
    exact h.parseEach? ctx (Text.nonblankLines text)
  | clear => exact gives_some h.clearMemo []

/-- A faithful parser answers every request of a run as its grammar does. -/
theorem Faithful.serveAll? (h : p.Faithful g) (requests : List Request) :
    Gives g (p.serveAll? requests) (requests.mapM (·.answer? g)) := by
  induction requests generalizing p with
  | nil => exact gives_some h []
  | cons request requests ih =>
    rw [List.mapM_cons]
    exact (h.serve? request).bind fun answer p hp =>
      (ih hp).bind fun rest q hq => gives_some hq (answer :: rest)

theorem Faithful.serveAll?_ne_none (h : p.Faithful g)
    (hg : ¬ ∃ p ∈ g.flags.phrases, p.text = "") (requests : List Request) :
    p.serveAll? requests ≠ none := by
  rw [ne_eq, ← Option.map_eq_none_iff (f := Prod.fst), (h.serveAll? requests).answer,
    mapM_eq_none_iff]
  exact fun ⟨request, _, hnone⟩ => request.answer?_ne_none hg hnone

/-- A block is read as its nonblank lines in turn, so what a parser remembers within a block is
what it remembers between requests. -/
theorem serve?_block (p : Parser ν) (text : String) (ctx : LineContext) :
    (p.serve? (.block text ctx)).map Prod.snd =
      (p.serveAll? ((Text.nonblankLines text).map fun line => .line line ctx)).map Prod.snd := by
  rw [Parser.serve?, parseLines?]
  generalize Text.nonblankLines text = lines
  induction lines generalizing p with
  | nil => rfl
  | cons line lines ih =>
    rw [parseEach?, List.map_cons, Parser.serveAll?, Parser.serve?]
    cases p.parse? line ctx with
    | none => rfl
    | some first =>
      simpa [Option.map_eq_bind, Option.bind_assoc, Function.comp_def] using ih first.2

/-! ### Runs of a new parser -/

theorem exists_grammar_of_ofTables? {compile : PatternCompiler} {t : ParserTables ν}
    (hp : ofTables? compile t = .ok p) :
    ∃ g, Grammar.ofTables? compile t = .ok g ∧ ofGrammar g = p := by
  unfold ofTables? at hp
  cases hg : Grammar.ofTables? compile t with
  | error fault => rw [hg] at hp; cases hp
  | ok g => rw [hg] at hp; exact ⟨g, rfl, Except.ok.inj hp⟩

/-- A parser that was just built for tables gives every request of a run the answer that it would
give to that request first, and the run has no answers exactly when a request of it has none. Every
modifier is attributed to the place of its own request, and what is remembered in the end is within
the capacity. Without an empty flag phrase, there are answers to every run. -/
theorem serveAll_fresh {compile : PatternCompiler} {t : ParserTables ν}
    (hp : ofTables? compile t = .ok p) (requests : List Request) :
    (p.serveAll? requests).map Prod.fst =
        requests.mapM (fun request => (p.serve? request).map Prod.fst) ∧
      (∀ answers q, p.serveAll? requests = some (answers, q) →
        List.Forall₂ (fun request answer => ∀ outcome ∈ answer, ∀ m ∈ Outcome.modifiers outcome,
          ∃ ctx, Request.context? request = some ctx ∧ ctx.Owns m) requests answers ∧
        q.memo.size ≤ capacity) ∧
      ((∀ row ∈ t.flags, Text.normal row.phrase ≠ "") → (p.serveAll? requests).isSome) := by
  obtain ⟨g, hg, rfl⟩ := exists_grammar_of_ofTables? hp
  have hfaithful := faithful_ofGrammar g
  have hfresh (request : Request) :
      ((ofGrammar g).serve? request).map Prod.fst = request.answer? g :=
    (hfaithful.serve? request).answer
  obtain ⟨hanswers, hafter⟩ := hfaithful.serveAll? requests
  simp only [hfresh]
  refine ⟨hanswers, fun answers q hrun => ⟨?_, (hafter _ hrun).size⟩, fun hrows => ?_⟩
  · rw [hrun] at hanswers
    exact (mapM_eq_some_iff.1 hanswers.symm).imp
      fun request answer hanswer outcome ho m hm => Request.owns_of_answer? hanswer ho hm
  · have hempty : ¬ ∃ p ∈ g.flags.phrases, p.text = "" := fun hempty =>
      have ⟨row, hrow, hblank⟩ := (Grammar.exists_empty_flag_iff hg).1 hempty
      hrows row hrow hblank
    exact Option.isSome_iff_ne_none.2 (hfaithful.serveAll?_ne_none hempty requests)

/-- Tables with one form, whose modifiers belong to the slot of their line. -/
def localDamage : ParserTables Float where
  forms := [
    { id := "local_adds"
      pattern := "^adds # to # (?P<type>fire|cold) damage$"
      kind := some .base
      scale := Scalar.one
      outputs := ["\x7btype\x7dDamageMin", "\x7btype\x7dDamageMax"]
      isLocal := true }]

/-- The same line is read for a slot, from the memo for no slot, and again after the memo was
dropped. -/
theorem serveAll_fresh_localDamage :
    let requests : List Request := [
      .line "Adds 3 to 7 Fire Damage" { origin := ⟨.item, some "1"⟩, slot := some "Weapon 1" },
      .block "adds 3 to 7 fire damage" {},
      .clear,
      .line "Adds 3 to 7 Fire Damage" {}]
    ∃ p : Parser Float, ofTables? NamedPattern.compile localDamage = .ok p ∧
      (p.serveAll? requests).isSome ∧ (p.serveAll? requests).map Prod.fst =
        requests.mapM fun request => (p.serve? request).map Prod.fst := by
  intro requests
  obtain ⟨p, hp⟩ := exists_eq_ok_of_toBool
    (x := ofTables? NamedPattern.compile localDamage) (by decide +kernel)
  obtain ⟨hanswers, -, hends⟩ := serveAll_fresh hp requests
  exact ⟨p, hp, hends nofun, hanswers⟩

end Parser

end Loadout

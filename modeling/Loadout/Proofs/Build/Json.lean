import Loadout.Proofs.Build.Partial
import Loadout.Proofs.Modifier.Json

/-!
# Builds survive as JSON texts

A build is written as a JSON text by encoding it as a document and writing that, and read by the
two steps the other way. It comes back as it was, with its maps under whole numbers and the items
of both weapon sets. Members may also be taken out of the document before it is written: the text
is then read as the build with the defaults for the fields that are missing, and nothing else is
touched.

Only numbers can be lost on the way. The whole ones have 32 bits in a build that is stored, and
those of the enemy, which may have a fraction, have to be finite and to read back from their
spellings.

## Main definitions

* `Build.numbers`: the numbers of a build that may have a fraction

## Main results

* `Build.writable`: the document of a build can be written
* `Build.json_recovered`: a build comes back from its JSON text, and with fields left out with
  their defaults
-/

namespace Loadout

open Document

variable {ν : Type}

/-- The numbers of a build that may have a fraction: those of its enemy. -/
def Build.numbers (b : Build ν) : List ν :=
  b.settings.enemy.numbers

variable [Scalar ν] {numeral : ν → String}

/-! ### Their documents can be written -/

theorem writable_lines (lines : List String) :
    (linesToDocument (ν := ν) lines).Writable numeral :=
  writable_ofList fun s _ => .text s

theorem writable_optionalText (s : Option String) :
    (ofOption (ν := ν) text s).Writable numeral :=
  writable_ofOption fun s _ => .text s

theorem ChargeSettings.writable (c : ChargeSettings) (h : ∀ n ∈ c.counts, n < Nat.pow 2 32) :
    (c.toDocument (ν := ν)).Writable numeral := by
  simp only [counts, List.forall_mem_cons, Option.mem_toList] at h
  have hcount : (ofOption (ν := ν) ofCount c.count).Writable numeral :=
    writable_ofOption fun n hn => writable_ofCount (h.2 n hn)
  exact .record (by simp [Writable.bool, hcount, writable_ofCount h.1])

theorem EnemySettings.writable (e : EnemySettings ν) (hlevel : e.level < Nat.pow 2 32)
    (h : ∀ x ∈ e.numbers, ReadsBack numeral x) : e.toDocument.Writable numeral := by
  simp only [numbers, List.forall_mem_cons] at h
  obtain ⟨hfire, hcold, hlightning, hchaos, harmour, hevasion, -⟩ := h
  exact .record (by simp [Writable.bool, writable_ofCount hlevel, Writable.float, hfire, hcold,
    hlightning, hchaos, harmour, hevasion])

theorem Settings.writable (s : Settings ν) (hcounts : ∀ n ∈ s.counts, n < Nat.pow 2 32)
    (h : ∀ x ∈ s.enemy.numbers, ReadsBack numeral x) : s.toDocument.Writable numeral := by
  simp only [counts, List.forall_mem_append, List.forall_mem_singleton] at hcounts
  obtain ⟨⟨⟨hpower, hfrenzy⟩, hendurance⟩, henemy⟩ := hcounts
  have hconditions : (conditionsToDocument (ν := ν) s.conditions).Writable numeral :=
    writable_ofMap fun _ _ => .bool _
  have hlines : (ofList (ν := ν) text s.lines).Writable numeral := writable_lines s.lines
  exact .record (by simp [Writable.bool, ChargeSettings.writable _ hpower,
    ChargeSettings.writable _ hfrenzy, ChargeSettings.writable _ hendurance,
    s.enemy.writable henemy h, hconditions, hlines])

theorem Item.writable (i : Item) : (i.toDocument (ν := ν)).Writable numeral :=
  .record (by simp [Writable.text, writable_lines])

theorem Gem.writable (g : Gem) (h : ∀ n ∈ g.counts, n < Nat.pow 2 32) :
    (g.toDocument (ν := ν)).Writable numeral := by
  simp only [counts, List.forall_mem_cons] at h
  exact .record (by simp [Writable.text, Writable.bool, writable_lines, writable_ofCount h.1,
    writable_ofCount h.2.1])

theorem SkillGroup.writable (g : SkillGroup) (h : ∀ n ∈ g.counts, n < Nat.pow 2 32) :
    (g.toDocument (ν := ν)).Writable numeral := by
  have hgems : (ofList (ν := ν) Gem.toDocument g.gems).Writable numeral :=
    writable_ofList fun gem hgem =>
      gem.writable fun n hn => h n (List.mem_flatMap.2 ⟨gem, hgem, hn⟩)
  exact .record (by simp [Writable.text, Writable.bool, writable_optionalText, hgems])

namespace Build

theorem writable_itemsOfSet (items : Std.ExtTreeMap Slot Item) (set : WeaponSet) :
    (itemsOfSet (ν := ν) items set).Writable numeral :=
  .record (List.forall_mem_map.2 fun entry _ => entry.2.writable)

theorem writable (b : Build ν) (hcounts : ∀ n ∈ b.counts, n < Nat.pow 2 32)
    (h : ∀ x ∈ b.numbers, ReadsBack numeral x) : b.toDocument.Writable numeral := by
  simp only [counts, List.forall_mem_cons, List.forall_mem_append, List.forall_mem_map] at hcounts
  obtain ⟨hlevel, ⟨⟨⟨⟨hnodes, -⟩, heffects⟩, -⟩, hskills⟩, hsettings⟩ := hcounts
  have hallocated : (ofList (ν := ν) ofCount b.nodes.toList).Writable numeral :=
    writable_ofList fun n hn => writable_ofCount (hnodes n hn)
  have hmasteries : (ofMap (ν := ν) (fun node : Nat => toString node) ofCount
      b.masteries).Writable numeral :=
    writable_ofMap fun entry hentry => writable_ofCount (heffects entry hentry)
  have hjewels : (ofMap (ν := ν) (fun socket : Nat => toString socket) Item.toDocument
      b.jewels).Writable numeral :=
    writable_ofMap fun entry _ => entry.2.writable
  have hitems : (list (ν := ν) [itemsOfSet b.items .first, itemsOfSet b.items .second]).Writable
      numeral :=
    .list (by simp [writable_itemsOfSet])
  have hgroups : (ofList (ν := ν) SkillGroup.toDocument b.skills).Writable numeral :=
    writable_ofList fun group hgroup =>
      group.writable fun n hn => hskills n (List.mem_flatMap.2 ⟨group, hgroup, hn⟩)
  exact .record (by simp [Writable.text, writable_optionalText, writable_ofCount hlevel,
    hallocated, hmasteries, hjewels, hitems, hgroups, b.settings.writable hsettings h,
    -Nat.toString_eq_repr])

/-! ### Survival -/

/-- A build of counts of 32 bits, whose numbers are finite and read back from their spellings,
comes back from its JSON text as it was. With any fields left out, at any level, it comes back
with the defaults for just those fields. -/
theorem json_recovered (numeral : ν → String) (b : Build ν)
    (hcounts : ∀ n ∈ b.counts, n < Nat.pow 2 32)
    (hnumbers : ∀ x ∈ b.numbers, ReadsBack numeral x) :
    (ofJson? (b.toDocument.toJson numeral)).bind ofDocument? = some b ∧
      ∀ o, (ofJson? ((b.toDocument.without o).toJson numeral)).bind ofDocument? =
        some (b.without o) := by
  have hwritable := b.writable hcounts hnumbers
  have hleft (o : Omission) :
      (ofJson? ((b.toDocument.without o).toJson numeral)).bind ofDocument? =
        some (b.without o) := by
    rw [ofJson?_toJson (hwritable.without o)]
    exact b.ofDocument?_without hcounts o
  have hall := hleft .nothing
  rw [Document.without_nothing, b.without_nothing] at hall
  exact ⟨hall, hleft⟩

/-- A build over doubles with fields left out of the build, of the charges and the enemy in its
settings, of a jewel and an item, and of a gem in a skill group. -/
theorem json_recovered_double :
    let wand : Item := { id := "wand", name := "Driftwood", explicits := ["+1 to \"Level\""] }
    let gem : Gem := { name := "Arc", level := 3, quality := 7, enabled := false }
    let enemy : EnemySettings Float :=
      { level := 70, isBoss := true, fireResist := 0.1, coldResist := 1.0, lightningResist := 0.1,
        chaosResist := 1.0, armour := 0.1, evasion := 1.0 }
    let b : Build Float :=
      { className := "Witch"
        ascendancy := some "Occultist"
        level := 92
        nodes := .ofList [7, 3]
        masteries := .ofList [(3, 12)]
        jewels := .ofList [(26725, ({ id := "jewel", baseType := "Viridian" } : Item))]
        items := .ofList [((⟨.second, "Weapon 1"⟩ : Slot), wand)]
        activeSet := .second
        skills := [{ label := "Main", gems := [gem] }]
        settings := { powerCharges := { enabled := true, count := some 2, max := 5 }, enemy } }
    let o : Omission := fun steps => steps ∈ [
      [.member "ascendancy"],
      [.member "jewels", .member "26725", .member "base_type"],
      [.member "items", .item 1, .member "Weapon 1", .member "name"],
      [.member "skill_groups", .item 0, .member "gems", .item 0, .member "level"],
      [.member "config", .member "power_charges", .member "max"],
      [.member "config", .member "enemy", .member "level"]]
    let left : Build Float :=
      { b with
        ascendancy := none
        jewels := .ofList [(26725, ({ id := "jewel" } : Item))]
        items := .ofList [((⟨.second, "Weapon 1"⟩ : Slot), { wand with name := "" })]
        skills := [{ label := "Main", gems := [{ gem with level := 20 }] }]
        settings :=
          { b.settings with
            powerCharges := { enabled := true, count := some 2, max := 3 }
            enemy := { enemy with level := 84 } } }
    (∀ n ∈ b.counts, n < Nat.pow 2 32) ∧ (∀ x ∈ b.numbers, ReadsBack tenthOrOne x) ∧
      (ofJson? (b.toDocument.toJson tenthOrOne)).bind ofDocument? = some b ∧
      (ofJson? ((b.toDocument.without o).toJson tenthOrOne)).bind ofDocument? = some left := by
  intro wand gem enemy b o left
  have htenth : ReadsBack tenthOrOne 0.1 := ⟨by rfl, by rfl⟩
  have hone : ReadsBack tenthOrOne 1.0 := ⟨by rfl, by rfl⟩
  have hcounts : ∀ n ∈ b.counts, n < Nat.pow 2 32 := by
    change ∀ n ∈ [92, 3, 7, 3, 12, 26725, 3, 7, 5, 2, 3, 3, 70], n < Nat.pow 2 32
    simp
  have hnumbers : ∀ x ∈ b.numbers, ReadsBack tenthOrOne x := by
    change ∀ x ∈ [0.1, 1.0, 0.1, 1.0, 0.1, 1.0], ReadsBack tenthOrOne x
    simp [htenth, hone]
  have hmasteries : (o.within (.member "mastery_selections")).entries toString
      (fun _ effect => effect) b.masteries = left.masteries := by
    refine Std.ExtTreeMap.ext_toList (.of_eq ?_)
    rw [Omission.toList_entries]
    rfl
  have hjewels : (o.within (.member "jewels")).entries toString Item.without b.jewels =
      left.jewels := by
    refine Std.ExtTreeMap.ext_toList (.of_eq ?_)
    rw [Omission.toList_entries]
    rfl
  have hitems : (o.within (.member "items")).slots b.items = left.items := by
    refine Std.ExtTreeMap.ext_toList (.of_eq ?_)
    rw [Omission.slots, Std.ExtTreeMap.toList_filterMap]
    rfl
  have hleft : b.without o = left := by
    rw [without, hmasteries, hjewels, hitems]
    rfl
  have hjson := b.json_recovered tenthOrOne hcounts hnumbers
  exact ⟨hcounts, hnumbers, hjson.1, hleft ▸ hjson.2 o⟩

end Build

end Loadout

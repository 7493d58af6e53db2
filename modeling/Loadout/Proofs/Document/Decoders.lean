import Loadout.Proofs.Document.Lists
import Loadout.Proofs.Document.Writing

/-!
# Decoders take back what encoders give

The parts that the documents of all structures are made of: fields, lists and values that may
be missing. A structure is encoded as a record of exactly its own fields, so reading its
fields finds each of them once and none besides. A value that may be missing is written as
null, and comes back as long as no value that is present is written so.

## Main results

* `Document.fields?_record`: the fields of an encoded structure
* `Document.toList?_ofList`, `Document.toOption?_ofOption`: lists and optional values
* `Document.writable_ofList_flatMap`, `Document.writable_ofOption_flatMap`: their documents can
  be written when their numbers read back
-/

namespace Loadout.Document

variable {ν : Type}

@[simp] theorem toText?_text (s : String) : (text s : Document ν).toText? = some s := rfl

@[simp] theorem toBool?_bool (b : Bool) : (bool b : Document ν).toBool? = some b := rfl

@[simp] theorem toNumber?_float [Scalar ν] (x : ν) : (float x).toNumber? = some x := rfl

@[simp] theorem toName?_text {α : Type} (name : String → Option α) (s : String) :
    (text s : Document ν).toName? name = name s := rfl

theorem toCount?_ofCount {n : Nat} (h : n < Nat.pow 2 32) :
    (ofCount n : Document ν).toCount? = some n := by
  have hcount : 0 ≤ (n : Int) ∧ (n : Int) < Int.pow 2 32 :=
    ⟨Int.natCast_nonneg n, Int.ofNat_lt.2 h⟩
  rw [ofCount, toCount?, if_pos, Int.toNat_natCast]
  rwa [Bool.and_eq_true, decide_eq_true_eq, decide_eq_true_eq]

/-- A count that is the key of an entry is read back from its digits. -/
theorem countKey?_toString {n : Nat} (h : n < Nat.pow 2 32) : countKey? (toString n) = some n := by
  have hchars : (toString n).toList = Nat.toDigits 10 n := String.toList_ofList
  have hdigits : (Nat.toDigits 10 n).all (fun c => 48 ≤ c.toNat && c.toNat ≤ 57) = true := by
    have hdigit : ∀ d < 10, (48 ≤ (Nat.digitChar d).toNat && (Nat.digitChar d).toNat ≤ 57) = true :=
      by decide
    rw [List.all_eq_true]
    intro c hc
    obtain ⟨d, hd, rfl⟩ := exists_of_mem_toDigits (by decide) hc
    exact hdigit d hd
  have hvalue : (Nat.toDigits 10 n).foldl (fun n c => 10 * n + (c.toNat - 48)) 0 = n :=
    Nat.ofDigitChars_ten_toDigits
  have hlead : ∀ c cs, Nat.toDigits 10 n ≠ '0' :: c :: cs := by
    intro c cs hcs
    rcases Nat.eq_zero_or_pos n with rfl | hn
    · simp at hcs
    · exact head?_toDigits_ne_zero (b := 10) (by decide) hn (by rw [hcs]; rfl)
  unfold countKey?
  simp only [hchars, hdigits, hvalue]
  simpa [Nat.toDigits_ne_nil] using h

/-- A record of exactly the fields of a structure gives all of them. -/
theorem fields?_record {members : List (String × Document ν)} {names : List String}
    (hnames : members.map (·.1) = names) (hnodup : names.Nodup) :
    (record members).fields? names = some ⟨members, false⟩ := by
  have hknown : (members.filter fun member => names.contains member.1) = members := by
    rw [List.filter_eq_self]
    intro member hmember
    rw [List.contains_iff_mem, ← hnames]
    exact List.mem_map_of_mem hmember
  rw [fields?]
  simp only [hknown, hnames, hnodup, if_true]

section

variable {α : Type} {encode : α → Document ν} {decode : Document ν → Option α}

theorem toList?_ofList_of_mem {values : List α} (h : ∀ a ∈ values, decode (encode a) = some a) :
    (ofList encode values).toList? decode = some values :=
  mapM_eq_some_iff.2 (List.forall₂_map_left_iff.2 (List.forall₂_same.2 h))

theorem toList?_ofList (h : ∀ a, decode (encode a) = some a) (values : List α) :
    (ofList encode values).toList? decode = some values :=
  toList?_ofList_of_mem fun a _ => h a

theorem toOption?_ofOption_of_mem {value : Option α} (h : ∀ a ∈ value, decode (encode a) = some a)
    (hnull : ∀ a, encode a ≠ null) : (ofOption encode value).toOption? decode = some value := by
  cases value with
  | none => rfl
  | some a =>
    rw [ofOption, toOption?.eq_2 _ _ (hnull a), h a rfl]
    rfl

theorem toOption?_ofOption (h : ∀ a, decode (encode a) = some a) (hnull : ∀ a, encode a ≠ null)
    (value : Option α) : (ofOption encode value).toOption? decode = some value :=
  toOption?_ofOption_of_mem (fun a _ => h a) hnull

variable [Scalar ν] {numeral : ν → String}

theorem writable_ofList {values : List α} (h : ∀ a ∈ values, (encode a).Writable numeral) :
    (ofList encode values).Writable numeral :=
  .list (List.forall_mem_map.2 h)

theorem writable_ofOption {value : Option α} (h : ∀ a ∈ value, (encode a).Writable numeral) :
    (ofOption encode value).Writable numeral := by
  cases value with
  | none => exact .null
  | some a => exact h a rfl

theorem writable_ofCount {n : Nat} (h : n < Nat.pow 2 32) : (ofCount n).Writable numeral :=
  have hleast : -Int.pow 2 63 ≤ 0 := by decide
  have hgreatest : ((Nat.pow 2 32 : Nat) : Int) < Int.pow 2 64 := by decide
  .int (Int.le_trans hleast (Int.natCast_nonneg n)) (Int.lt_trans (Int.ofNat_lt.2 h) hgreatest)

theorem writable_ofMap {κ : Type} [Ord κ] [Std.TransOrd κ] {key : κ → String}
    {map : Std.ExtTreeMap κ α} (h : ∀ entry ∈ map.toList, (encode entry.2).Writable numeral) :
    (ofMap key encode map).Writable numeral :=
  .record (List.forall_mem_map.2 h)

variable {numbers : α → List ν}
  (h : ∀ a, (∀ x ∈ numbers a, ReadsBack numeral x) → (encode a).Writable numeral)

include h

/-- A list of values can be written when the numbers of all of them read back. -/
theorem writable_ofList_flatMap {values : List α}
    (hvalues : ∀ x ∈ values.flatMap numbers, ReadsBack numeral x) :
    (ofList encode values).Writable numeral :=
  writable_ofList fun a ha => h a fun x hx => hvalues x (List.mem_flatMap.2 ⟨a, ha, hx⟩)

/-- A value that may be missing can be written when the numbers that it has read back. -/
theorem writable_ofOption_flatMap {value : Option α}
    (hvalue : ∀ x ∈ value.toList.flatMap numbers, ReadsBack numeral x) :
    (ofOption encode value).Writable numeral :=
  writable_ofOption fun a ha => h a fun x hx =>
    hvalue x (List.mem_flatMap.2 ⟨a, Option.mem_toList.2 ha, hx⟩)

end

end Loadout.Document

import Mathlib.Data.List.TakeWhile
import Mathlib.Data.Option.Basic
import Mathlib.Tactic.ByContra
import Mathlib.Tactic.SplitIfs
import Loadout.Document.Writer
import Loadout.Proofs.Number.Digits

/-!
# Written documents are read back

What the writer puts down, the reader takes up again. The reader works from the left and
does not know where a value ends, so each of its parts is followed through a text that
goes on: a string ends at its own closing quote, a number at the first character that
belongs to no number, and after a value that stands in a document there is nothing, a
comma or a closing bracket. A value has at least one character, and reading it takes at
most as many steps as it has characters.

How the numbers are spelled is not fixed here. What is asked of a spelling is that the
reader of numbers takes all of it for that number.

## Main definitions

* `Document.ReadsBack`: a number is finite and its spelling is read as that number
* `Document.Writable`: a document whose numbers all read back

## Main results

* `Document.number?_append`: a number is read up to where it ends
* `Document.value?_write`: a document is read back from the front of a longer text
* `Document.ofJson?_toJson`: the text of a document is read as that document
-/

namespace Loadout.Document

variable {ν : Type}

/-! ### Strings -/

theorem read?_control {n : Nat} (hn : n < 32) :
    Hexadecimal.read? ['0', '0', Nat.digitChar (n / 16), Nat.digitChar (n % 16)] = some n := by
  revert n
  decide

theorem ofEscape_control {c : Char} (hc : c.toNat < 32) :
    StringUnit.ofEscape c.toNat = .char c := by
  have hhigh : ¬ 0xD800 ≤ c.toNat := by omega
  have hlow : ¬ 0xDC00 ≤ c.toNat := by omega
  simp [StringUnit.ofEscape, hhigh, hlow]

theorem stringUnits?_escape (units : List StringUnit) (c : Char) (rest : List Char) :
    stringUnits? units (escape c ++ rest) = stringUnits? (.char c :: units) rest := by
  unfold escape
  split_ifs with hquote hslash hb hf hn hr ht hcontrol
  · subst hquote; rfl
  · subst hslash; rfl
  · subst hb; rfl
  · subst hf; rfl
  · subst hn; rfl
  · subst hr; rfl
  · subst ht; rfl
  · simp only [List.cons_append, List.nil_append, stringUnits?, read?_control hcontrol,
      ofEscape_control hcontrol]
  · simp [stringUnits?, hslash, hcontrol]

theorem stringUnits?_flatMap (units : List StringUnit) (cs rest : List Char) :
    stringUnits? units (cs.flatMap escape ++ '"' :: rest) =
      some ((cs.map StringUnit.char).reverse ++ units, rest) := by
  induction cs generalizing units with
  | nil => rfl
  | cons c cs ih => simp [List.append_assoc, stringUnits?_escape, ih]

theorem textOfUnits?_map (cs tail : List Char) :
    textOfUnits? (cs.map .char) tail = some (cs.reverse ++ tail) := by
  induction cs generalizing tail with
  | nil => rfl
  | cons c cs ih => simp [textOfUnits?, ih]

/-- A string is read back up to its closing quote. -/
theorem string?_flatMap (s : String) (rest : List Char) :
    string? (s.toList.flatMap escape ++ '"' :: rest) = some (some s, rest) := by
  have hunits := stringUnits?_flatMap [] s.toList rest
  rw [List.append_nil, ← List.map_reverse] at hunits
  simp [string?, hunits, textOfUnits?_map, -List.map_reverse]

/-! ### Numbers -/

/-- What may follow a value: nothing, a comma, or the bracket that closes a list or a record. -/
inductive Delimited : List Char → Prop
  | nil : Delimited []
  | comma (rest : List Char) : Delimited (',' :: rest)
  | bracket (rest : List Char) : Delimited (']' :: rest)
  | brace (rest : List Char) : Delimited ('}' :: rest)

/-- The digits in front of a text end at the latest where the text does. -/
theorem digits_append (cs : List Char) {rest : List Char} (hrest : Delimited rest) :
    digits (cs ++ rest) = ((digits cs).1, (digits cs).2 ++ rest) := by
  induction cs with
  | nil => cases hrest <;> rfl
  | cons c cs ih =>
    by_cases hc : c.isDigit
    · simpa [digits, hc] using ih
    · simp [digits, hc]

theorem fraction?_append (cs : List Char) {rest : List Char} (hrest : Delimited rest) :
    fraction? (cs ++ rest) = (fraction? cs).map (Prod.map id (· ++ rest)) := by
  cases cs with
  | nil => cases hrest <;> rfl
  | cons c cs =>
    by_cases hc : c = '.'
    · subst hc
      simp only [List.cons_append, fraction?, digits_append cs hrest]
      split <;> rfl
    · simp [fraction?, hc]

theorem exponent?_append (cs : List Char) {rest : List Char} (hrest : Delimited rest) :
    exponent? (cs ++ rest) = (exponent? cs).map (Prod.map id (· ++ rest)) := by
  cases cs with
  | nil => cases hrest <;> rfl
  | cons c cs =>
    by_cases hminus : c = '-'
    · subst hminus
      simp only [List.cons_append, exponent?, digits_append cs hrest]
      split <;> rfl
    · by_cases hplus : c = '+'
      · subst hplus
        simp only [List.cons_append, exponent?, digits_append cs hrest]
        split <;> rfl
      · have hdigits := digits_append (c :: cs) hrest
        rw [List.cons_append] at hdigits
        simp only [List.cons_append, exponent?, List.cons.injEq, hminus, hplus, false_and,
          imp_self, implies_true, hdigits]
        split <;> rfl

theorem exponentPart?_append (cs : List Char) {rest : List Char} (hrest : Delimited rest) :
    exponentPart? (cs ++ rest) = (exponentPart? cs).map (Prod.map id (· ++ rest)) := by
  cases cs with
  | nil => cases hrest <;> rfl
  | cons c cs =>
    by_cases hsmall : c = 'e'
    · subst hsmall
      simp [exponentPart?, exponent?_append cs hrest, Function.comp_def]
    · by_cases hlarge : c = 'E'
      · subst hlarge
        simp [exponentPart?, exponent?_append cs hrest, Function.comp_def]
      · simp [exponentPart?, hsmall, hlarge]

theorem unsigned?_append [Scalar ν] (negative : Bool) (cs : List Char) {rest : List Char}
    (hrest : Delimited rest) :
    unsigned? (ν := ν) negative (cs ++ rest) =
      (unsigned? negative cs).map (Prod.map id (· ++ rest)) := by
  rw [unsigned?, unsigned?, digits_append cs hrest]
  obtain ⟨whole, tail⟩ := digits cs
  simp only [fraction?_append tail hrest]
  cases decide (whole = ['0']) || decide (whole ≠ []) && decide (whole.head? ≠ some '0') with
  | false => rfl
  | true =>
    cases fraction? tail with
    | none => rfl
    | some part =>
      obtain ⟨fraction, tail⟩ := part
      change (exponentPart? (tail ++ rest)).bind _ = ((exponentPart? tail).bind _).map _
      rw [exponentPart?_append tail hrest]
      cases exponentPart? tail <;> rfl

/-- A number is read up to where it ends. -/
theorem number?_append [Scalar ν] (cs : List Char) {rest : List Char} (hrest : Delimited rest) :
    number? (ν := ν) (cs ++ rest) = (number? cs).map (Prod.map id (· ++ rest)) := by
  cases cs with
  | nil => cases hrest <;> rfl
  | cons c cs =>
    by_cases hminus : c = '-'
    · subst hminus
      exact unsigned?_append true cs hrest
    · have h := unsigned?_append (ν := ν) false (c :: cs) hrest
      simpa [number?, hminus] using h

theorem number?_head [Scalar ν] {cs : List Char} {r : Document ν × List Char}
    (h : number? cs = some r) : ∃ c tail, cs = c :: tail ∧ (c = '-' ∨ c.isDigit = true) := by
  cases cs with
  | nil => cases h
  | cons c tail =>
    refine ⟨c, tail, rfl, ?_⟩
    by_contra hc
    obtain ⟨hminus, hdigit⟩ := not_or.1 hc
    have hdigits : digits (c :: tail) = ([], c :: tail) := by
      simp [digits, hdigit]
    rw [number?.eq_2 _ (fun rest h => hminus (List.cons.inj h).1), unsigned?, hdigits] at h
    cases h

theorem digits_toDigits (n : Nat) : digits (Nat.toDigits 10 n) = (Nat.toDigits 10 n, []) := by
  have hall : ∀ c ∈ Nat.toDigits 10 n, c.isDigit = true :=
    fun c hc => Nat.isDigit_of_mem_toDigits (by decide) (by decide) hc
  rw [digits, List.takeWhile_eq_self_iff.2 hall, List.dropWhile_eq_nil_iff.2 hall]

theorem unsigned?_toDigits [Scalar ν] (negative : Bool) (n : Nat) :
    unsigned? (ν := ν) negative (Nat.toDigits 10 n) =
      some (ofNumeral negative (Nat.toDigits 10 n) none none, []) := by
  have hlead : (decide (Nat.toDigits 10 n = ['0']) || decide (Nat.toDigits 10 n ≠ []) &&
      decide ((Nat.toDigits 10 n).head? ≠ some '0')) = true := by
    rcases Nat.eq_zero_or_pos n with rfl | hn
    · rw [Nat.toDigits_zero]
      rfl
    · simp [Nat.toDigits_ne_nil, head?_toDigits_ne_zero (b := 10) (by decide) hn]
  rw [unsigned?, digits_toDigits]
  simp only [hlead]
  rfl

/-- A numeral without a fraction or an exponent is a whole number if that has 64 bits and is not
a negative zero. -/
theorem ofNumeral_whole [Scalar ν] (negative : Bool) (whole : List Char) {n : Int}
    (hleast : -Int.pow 2 63 ≤ n) (hgreatest : n < Int.pow 2 64) (hsign : negative = true → n ≠ 0)
    (hvalue : (if negative then -(ofDigits whole : Int) else ofDigits whole) = n) :
    ofNumeral (ν := ν) negative whole none none = int n := by
  have hzero : (!(negative && n == 0)) = true := by
    cases negative with
    | false => rfl
    | true => simpa using hsign rfl
  simp only [ofNumeral, hvalue]
  rw [if_pos]
  rw [Bool.and_eq_true, Bool.and_eq_true, decide_eq_true_eq, decide_eq_true_eq]
  exact ⟨⟨hleast, hgreatest⟩, hzero⟩

theorem number?_writeInt [Scalar ν] {n : Int} (hleast : -Int.pow 2 63 ≤ n)
    (hgreatest : n < Int.pow 2 64) : number? (ν := ν) (writeInt n) = some (int n, []) := by
  unfold writeInt
  split_ifs with hn
  · have hvalue : -(ofDigits (Nat.toDigits 10 n.natAbs) : Int) = n := by
      rw [ofDigits_toDigits]
      omega
    rw [number?, unsigned?_toDigits, ofNumeral_whole true _ hleast hgreatest (by omega) hvalue]
  · have hvalue : (ofDigits (Nat.toDigits 10 n.natAbs) : Int) = n := by
      rw [ofDigits_toDigits]
      omega
    have hhead : ∀ rest, Nat.toDigits 10 n.natAbs ≠ '-' :: rest := by
      intro rest h
      have hdigit : Char.isDigit '-' = true :=
        Nat.isDigit_of_mem_toDigits (b := 10) (n := n.natAbs) (by decide) (by decide) (by simp [h])
      cases hdigit
    rw [number?.eq_2 _ hhead, unsigned?_toDigits,
      ofNumeral_whole false _ hleast hgreatest nofun hvalue]

/-! ### Documents -/

/-- A number is finite and its spelling is read back as the number. -/
structure ReadsBack [Scalar ν] (numeral : ν → String) (x : ν) : Prop where
  finite : Scalar.isFinite x = true
  read : number? (numeral x).toList = some (float x, [])

/-- A document whose text is read back: every number in it reads back, every whole number has 64
bits, and no part is without content. -/
inductive Writable [Scalar ν] (numeral : ν → String) : Document ν → Prop
  | null : Writable numeral null
  | bool (b : Bool) : Writable numeral (bool b)
  | int {n : Int} (hleast : -Int.pow 2 63 ≤ n) (hgreatest : n < Int.pow 2 64) :
    Writable numeral (int n)
  | float {x : ν} (hx : ReadsBack numeral x) : Writable numeral (float x)
  | text (s : String) : Writable numeral (text s)
  | list {items : List (Document ν)} (hitems : ∀ item ∈ items, Writable numeral item) :
    Writable numeral (list items)
  | record {members : List (String × Document ν)}
    (hmembers : ∀ member ∈ members, Writable numeral member.2) : Writable numeral (record members)

/-- The characters that a value starts with. -/
def starts (c : Char) : Bool :=
  ['n', 't', 'f', '"', '[', '{', '-'].contains c || c.isDigit

theorem starts_of_number {c : Char} (hc : c = '-' ∨ c.isDigit = true) : starts c = true := by
  rcases hc with rfl | hc
  · rfl
  · rw [starts, hc, Bool.or_true]

theorem skipBlanks_cons {c : Char} (hc : starts c = true) (cs : List Char) :
    skipBlanks (c :: cs) = c :: cs := by
  have hblank : ¬ (c == ' ' || c == '\n' || c == '\t' || c == '\r') = true := by
    simp only [Bool.or_eq_true, beq_iff_eq]
    rintro (((rfl | rfl) | rfl) | rfl) <;> exact absurd hc (by decide)
  exact List.dropWhile_cons_of_neg hblank

variable [Scalar ν] {numeral : ν → String}

theorem value?_number {c : Char} (hc : c = '-' ∨ c.isDigit = true) (fuel : Nat)
    (cs : List Char) : value? (ν := ν) (fuel + 1) (c :: cs) = number? (c :: cs) := by
  rw [value?, skipBlanks_cons (starts_of_number hc)]
  split
  case h_7 => rfl
  all_goals
    rename_i heq
    cases heq
    exact absurd hc (by decide)

theorem value?_append {cs rest : List Char} {d : Document ν} (h : number? cs = some (d, []))
    (hrest : Delimited rest) (fuel : Nat) : value? (fuel + 1) (cs ++ rest) = some (d, rest) := by
  obtain ⟨c, tail, rfl, hc⟩ := number?_head h
  rw [List.cons_append, value?_number hc, ← List.cons_append, number?_append _ hrest, h]
  rfl

theorem write_starts {d : Document ν} (hd : d.Writable numeral) :
    ∃ c tail, d.write numeral = c :: tail ∧ starts c = true := by
  cases hd with
  | null => exact ⟨_, _, rfl, rfl⟩
  | bool b => cases b <;> exact ⟨_, _, rfl, rfl⟩
  | int hleast hgreatest =>
    obtain ⟨c, tail, hcs, hc⟩ := number?_head (number?_writeInt (ν := ν) hleast hgreatest)
    exact ⟨c, tail, by rw [write, hcs], starts_of_number hc⟩
  | float hx =>
    obtain ⟨c, tail, hcs, hc⟩ := number?_head hx.read
    exact ⟨c, tail, by rw [write, if_pos hx.finite, hcs], starts_of_number hc⟩
  | text s => exact ⟨_, _, rfl, rfl⟩
  | list => exact ⟨_, _, rfl, rfl⟩
  | record => exact ⟨_, _, rfl, rfl⟩

/-- A document is read back from its characters wherever a value can stand. -/
def Inverts (numeral : ν → String) (d : Document ν) : Prop :=
  ∀ fuel rest, (d.write numeral).length ≤ fuel → Delimited rest →
    value? fuel (d.write numeral ++ rest) = some (d, rest)

/-- The items of a list are read back, each by what is known of it. -/
theorem items?_writeItems {items : List (Document ν)} (hne : items ≠ [])
    (hitems : ∀ item ∈ items, Inverts numeral item) (fuel : Nat) (done : List (Document ν))
    (rest : List Char) (hfuel : (writeItems numeral items).length ≤ fuel) :
    items? fuel done (writeItems numeral items ++ rest) =
      some (list (done.reverse ++ items), rest) := by
  induction items generalizing fuel done with
  | nil => exact absurd rfl hne
  | cons item items ih =>
    have hitem := hitems item List.mem_cons_self
    cases fuel with
    | zero => cases items <;> simp [writeItems] at hfuel
    | succ fuel =>
      cases items with
      | nil =>
        simp only [writeItems, List.length_append, List.length_singleton] at hfuel
        have hread := hitem fuel (']' :: rest) (by omega) (.bracket rest)
        rw [writeItems, List.append_assoc, List.singleton_append, items?, hread]
        simp [skipBlanks]
      | cons next items =>
        simp only [writeItems, List.length_append, List.length_cons] at hfuel
        have hread := hitem fuel (',' :: (writeItems numeral (next :: items) ++ rest)) (by omega)
          (.comma _)
        rw [writeItems, List.append_assoc, List.cons_append, items?, hread]
        have hmore := ih (by simp) (fun d hd => hitems d (List.mem_cons_of_mem _ hd)) fuel
          (item :: done) (by omega)
        simpa [skipBlanks] using hmore

omit [Scalar ν] in
theorem ofMembers_map (members : List (String × Document ν)) :
    ofMembers (members.map fun member => (some member.1, member.2)) = record members.reverse := by
  have hall : (members.map fun member => (some member.1, member.2)).mapM
      (fun member => member.1.map (·, member.2)) = some members := by
    induction members with
    | nil => rfl
    | cons member members ih => simp [List.mapM_cons, ih]
  rw [ofMembers, hall]

theorem members?_writeMembers {members : List (String × Document ν)} (hne : members ≠ [])
    (hmembers : ∀ member ∈ members, Inverts numeral member.2) (fuel : Nat)
    (done : List (String × Document ν)) (rest : List Char)
    (hfuel : (writeMembers numeral members).length ≤ fuel) :
    members? fuel (done.map fun member => (some member.1, member.2))
      (writeMembers numeral members ++ rest) = some (record (done.reverse ++ members), rest) := by
  induction members generalizing fuel done with
  | nil => exact absurd rfl hne
  | cons member members ih =>
    obtain ⟨key, value⟩ := member
    have hvalue : Inverts numeral value := hmembers (key, value) List.mem_cons_self
    cases fuel with
    | zero => cases members <;> simp [writeMembers, writeText] at hfuel
    | succ fuel =>
      cases members with
      | nil =>
        simp only [writeMembers, List.length_append, List.length_cons, List.length_nil] at hfuel
        have hread := hvalue fuel ('}' :: rest) (by omega) (.brace rest)
        have hdone := ofMembers_map ((key, value) :: done)
        simp only [List.map_cons, List.reverse_cons] at hdone
        simp [writeMembers, writeText, members?, skipBlanks, string?_flatMap, hread, hdone]
      | cons next members =>
        simp only [writeMembers, List.length_append, List.length_cons] at hfuel
        have hread := hvalue fuel (',' :: (writeMembers numeral (next :: members) ++ rest))
          (by omega) (.comma _)
        have hmore := ih (by simp) (fun d hd => hmembers d (List.mem_cons_of_mem _ hd)) fuel
          ((key, value) :: done) (by omega)
        simp only [List.map_cons, List.reverse_cons] at hmore
        simpa [writeMembers, writeText, members?, skipBlanks, string?_flatMap, hread] using hmore

theorem writeItems_starts {item : Document ν} (hitem : item.Writable numeral)
    (items : List (Document ν)) :
    ∃ c tail, writeItems numeral (item :: items) = c :: tail ∧ starts c = true := by
  obtain ⟨c, tail, hcs, hc⟩ := write_starts hitem
  cases items with
  | nil => exact ⟨c, tail ++ [']'], by rw [writeItems, hcs, List.cons_append], hc⟩
  | cons next items => exact ⟨c, _, by rw [writeItems, hcs, List.cons_append], hc⟩

theorem writeMembers_starts (numeral : ν → String) (member : String × Document ν)
    (members : List (String × Document ν)) :
    ∃ tail, writeMembers numeral (member :: members) = '"' :: tail := by
  cases members <;> exact ⟨_, rfl⟩

theorem value?_list {cs : List Char} (hcs : ∃ c tail, cs = c :: tail ∧ starts c = true)
    (fuel : Nat) : value? (ν := ν) (fuel + 1) ('[' :: cs) = items? fuel [] cs := by
  obtain ⟨c, tail, rfl, hc⟩ := hcs
  rw [value?, skipBlanks_cons (by decide)]
  simp only [skipBlanks_cons hc]
  split
  case h_1 heq =>
    cases heq
    exact absurd hc (by decide)
  case h_2 => rfl

theorem value?_record (fuel : Nat) (cs : List Char) :
    value? (ν := ν) (fuel + 1) ('{' :: '"' :: cs) = members? fuel [] ('"' :: cs) := by
  simp [value?, skipBlanks]

theorem inverts_of_succ {d : Document ν} (hd : d.Writable numeral)
    (h : ∀ fuel rest, (d.write numeral).length ≤ fuel + 1 → Delimited rest →
      value? (fuel + 1) (d.write numeral ++ rest) = some (d, rest)) : Inverts numeral d := by
  intro fuel rest hfuel hrest
  cases fuel with
  | zero =>
    obtain ⟨c, tail, hcs, -⟩ := write_starts hd
    simp [hcs] at hfuel
  | succ fuel => exact h fuel rest hfuel hrest

/-- A document is read back from its characters, by induction on the document. -/
theorem value?_write {d : Document ν} (hd : d.Writable numeral) (fuel : Nat) (rest : List Char)
    (hfuel : (d.write numeral).length ≤ fuel + 1) (hrest : Delimited rest) :
    value? (fuel + 1) (d.write numeral ++ rest) = some (d, rest) := by
  induction hd generalizing fuel rest with
  | null => rfl
  | bool b => cases b <;> rfl
  | int hleast hgreatest => exact value?_append (number?_writeInt hleast hgreatest) hrest fuel
  | float hx =>
    rw [write, if_pos hx.finite]
    exact value?_append hx.read hrest fuel
  | text s => simp [write, writeText, value?, skipBlanks, string?_flatMap]
  | @list items hitems ih =>
    cases items with
    | nil => simp [write, writeItems, value?, skipBlanks]
    | cons item items =>
      obtain ⟨c, tail, hcs, hc⟩ := writeItems_starts (hitems item List.mem_cons_self) items
      have hinverts : ∀ d ∈ item :: items, Inverts numeral d :=
        fun d hd => inverts_of_succ (hitems d hd) (ih d hd)
      have hread := items?_writeItems (by simp) hinverts fuel [] rest
        (by simpa [write] using hfuel)
      rw [write, List.cons_append, value?_list ⟨c, tail ++ rest, by rw [hcs, List.cons_append], hc⟩,
        hread]
      rfl
  | @record members hmembers ih =>
    cases members with
    | nil => simp [write, writeMembers, value?, skipBlanks]
    | cons member members =>
      obtain ⟨tail, hcs⟩ := writeMembers_starts numeral member members
      have hinverts : ∀ m ∈ member :: members, Inverts numeral m.2 :=
        fun m hm => inverts_of_succ (hmembers m hm) (ih m hm)
      have hread := members?_writeMembers (by simp) hinverts fuel [] rest
        (by simpa [write] using hfuel)
      rw [write, List.cons_append, hcs, List.cons_append, value?_record]
      simpa [hcs] using hread

/-- What is written is read back. -/
theorem ofJson?_toJson {d : Document ν} (hd : d.Writable numeral) :
    ofJson? (d.toJson numeral) = some d := by
  have hread := value?_write hd (2 * (d.write numeral).length + 1) [] (by omega) .nil
  rw [List.append_nil] at hread
  rw [ofJson?, toJson, String.toList_ofList, hread]
  rfl

end Loadout.Document

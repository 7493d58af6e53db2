import Loadout.Line.Holder

/-!
# A holder loads once between clearings

What a holder answers can be told from what has happened on it, without its state. Of the loaders
that ran since the holder was new or last cleared only the last one counts, whether it failed or
not: its outcome is what a load on demand hands out, and a load on demand runs its own loader only
when there has been none. Reloading always runs its loader, which is then the last one.

The values may be told apart by identity, so a value that is handed out again is the same value
and not another one that a loader has made alike.

## Main definitions

* `Holder.Call`, `Holder.Reply`: what can be asked of a holder, and what comes back
* `Holder.Event`, `Holder.record`: calls with their replies, in order
* `Holder.loads`: the outcomes of the loaders that ran since the last clearing
* `Holder.Due`: the replies that a history of events asks for

## Main results

* `Holder.Tracks.call`, `Holder.Tracks.callAll`: a holder keeps the last of these outcomes
* `Holder.reply_due`: every reply is the one that the history asks for
-/

namespace Loadout.Holder

variable {ε α : Type}

/-! ### Calls -/

/-- What can be asked of a holder. Each call that may load brings a loader of its own. -/
inductive Call (ε α : Type) where
  | getOrLoad (load : Unit → Except ε α)
  | reload (load : Unit → Except ε α)
  | clear
  | get
  | isLoaded

/-- What comes back. -/
inductive Reply (ε α : Type) where
  | answer (answer : Answer ε α)
  | value (value : Option α)
  | loaded (on : Bool)
  | done

/-- What comes back from a call, and the holder afterwards. -/
def call (h : Holder ε α) : Call ε α → Reply ε α × Holder ε α
  | .getOrLoad load =>
    let (answer, h) := h.getOrLoad load
    (.answer answer, h)
  | .reload load =>
    let (answer, h) := h.reload load
    (.answer answer, h)
  | .clear => (.done, h.clear)
  | .get => (.value h.get?, h)
  | .isLoaded => (.loaded h.isLoaded, h)

/-- What comes back from calls in turn, and the holder afterwards. -/
def callAll (h : Holder ε α) : List (Call ε α) → List (Reply ε α) × Holder ε α
  | [] => ([], h)
  | first :: rest =>
    let (reply, h) := h.call first
    let (replies, h) := h.callAll rest
    (reply :: replies, h)

/-! ### Histories -/

/-- A call with what came back. -/
structure Event (ε α : Type) where
  call : Call ε α
  reply : Reply ε α

/-- What happens when calls are made in turn. -/
def record (h : Holder ε α) (calls : List (Call ε α)) : List (Event ε α) :=
  List.zipWith Event.mk calls (h.callAll calls).1

namespace Event

/-- Whether an event is a clearing. -/
def clears : Event ε α → Bool
  | ⟨.clear, _⟩ => true
  | _ => false

/-- The outcome of the loader of an event, if it ran. -/
def load? : Event ε α → Option (Except ε α)
  | ⟨.getOrLoad load, .answer answer⟩ => if answer.loaded then some (load ()) else none
  | ⟨.reload load, .answer answer⟩ => if answer.loaded then some (load ()) else none
  | _ => none

end Event

/-- The outcomes of the loaders that ran since the last clearing, in order. -/
def loads (history : List (Event ε α)) : List (Except ε α) :=
  ((history.reverse.takeWhile fun event => !event.clears).reverse).filterMap Event.load?

/-- A clearing leaves no loader that counts, and any other event adds the one that it ran. -/
theorem loads_append_singleton (history : List (Event ε α)) (event : Event ε α) :
    loads (history ++ [event]) =
      if event.clears then [] else loads history ++ event.load?.toList := by
  rw [loads, List.reverse_append, List.reverse_singleton, List.singleton_append,
    List.takeWhile_cons]
  cases event.clears with
  | true => rfl
  | false =>
    simp only [Bool.not_false, if_true, Bool.false_eq_true, if_false, List.reverse_cons,
      List.filterMap_append, loads]
    cases hload : event.load? <;> simp [hload]

/-- The reply that a history of events asks for. Loading on demand runs the loader exactly when no
loader has run since the last clearing, and hands out the outcome of the last one that has, its
own included. Reloading runs its loader, which is then the last one. There is a value, and the
holder says so, exactly when the last loader succeeded. -/
def Due (history : List (Event ε α)) : Call ε α → Reply ε α → Prop
  | .getOrLoad load, reply => ∃ answer, reply = .answer answer ∧
      (answer.loaded = true ↔ loads history = []) ∧
      (loads (history ++ [⟨.getOrLoad load, reply⟩])).getLast? = some answer.outcome
  | .reload load, reply => reply = .answer ⟨load (), true⟩ ∧
      (loads (history ++ [⟨.reload load, reply⟩])).getLast? = some (load ())
  | .clear, reply => reply = .done ∧ loads (history ++ [⟨.clear, reply⟩]) = []
  | .get, reply => ∃ value, reply = .value value ∧
      ∀ v, value = some v ↔ (loads history).getLast? = some (.ok v)
  | .isLoaded, reply => ∃ on, reply = .loaded on ∧
      (on = true ↔ ∃ v, (loads history).getLast? = some (.ok v))

/-! ### The invariant -/

/-- A holder keeps the outcome of the last loader that ran since the last clearing. -/
def Tracks (h : Holder ε α) (history : List (Event ε α)) : Prop :=
  h.outcome? = (loads history).getLast?

theorem tracks_empty : (empty : Holder ε α).Tracks [] :=
  rfl

theorem get?_eq_some_iff (h : Holder ε α) (v : α) :
    h.get? = some v ↔ h.outcome? = some (.ok v) := by
  cases h <;> simp [get?, outcome?]

/-- Nothing is kept exactly when no loader has run since the last clearing. -/
theorem Tracks.outcome?_eq_none_iff {h : Holder ε α} {history : List (Event ε α)}
    (ht : h.Tracks history) : h.outcome? = none ↔ loads history = [] := by
  rw [ht, List.getLast?_eq_none_iff]

private theorem getLast?_loads_of_load {history : List (Event ε α)} {event : Event ε α}
    {outcome : Except ε α} (hclears : event.clears = false)
    (hload : event.load? = some outcome) :
    (loads (history ++ [event])).getLast? = some outcome := by
  rw [loads_append_singleton, hclears, hload]
  simp

private theorem loads_of_no_load {history : List (Event ε α)} {event : Event ε α}
    (hclears : event.clears = false) (hload : event.load? = none) :
    loads (history ++ [event]) = loads history := by
  rw [loads_append_singleton, hclears, hload]
  simp

/-- Every call keeps the invariant, and its reply is the one that the history asks for. -/
theorem Tracks.call {h : Holder ε α} {history : List (Event ε α)} (ht : h.Tracks history)
    (next : Call ε α) :
    (h.call next).2.Tracks (history ++ [⟨next, (h.call next).1⟩]) ∧
      Due history next (h.call next).1 := by
  cases next with
  | getOrLoad load =>
    cases hkept : h.outcome? with
    | some outcome =>
      -- The kept outcome is handed out, and no loader runs.
      have hcall : h.call (.getOrLoad load) = (.answer ⟨outcome, false⟩, h) := by
        simp only [Holder.call, Holder.getOrLoad, hkept]
      have hlast : (loads history).getLast? = some outcome := ht.symm.trans hkept
      have hloads : loads history ≠ [] := fun hnil => by simp [hnil] at hlast
      have hsame : loads (history ++ [⟨.getOrLoad load, .answer ⟨outcome, false⟩⟩]) =
          loads history := loads_of_no_load rfl rfl
      rw [hcall]
      refine ⟨?_, ⟨outcome, false⟩, rfl, by simpa using hloads, ?_⟩
      · rw [Tracks, hsame]
        exact ht
      · rw [hsame, hlast]
    | none =>
      have hcall : h.call (.getOrLoad load) = (.answer ⟨load (), true⟩, ofLoad (load ())) := by
        simp only [Holder.call, Holder.getOrLoad, Holder.reload, hkept]
      have hlast : (loads (history ++ [⟨.getOrLoad load, .answer ⟨load (), true⟩⟩])).getLast? =
          some (load ()) := getLast?_loads_of_load rfl rfl
      rw [hcall]
      refine ⟨?_, ⟨load (), true⟩, rfl, ?_, hlast⟩
      · rw [Tracks, hlast, outcome?_ofLoad]
      · simpa using ht.outcome?_eq_none_iff.mp hkept
  | reload load =>
    have hlast : (loads (history ++ [⟨.reload load, .answer ⟨load (), true⟩⟩])).getLast? =
        some (load ()) := getLast?_loads_of_load rfl rfl
    refine ⟨?_, rfl, hlast⟩
    exact (outcome?_ofLoad (load ())).trans hlast.symm
  | clear =>
    have hnil : loads (history ++ [⟨.clear, .done⟩]) = [] := by
      rw [loads_append_singleton]
      rfl
    refine ⟨?_, rfl, hnil⟩
    exact (congrArg List.getLast? hnil).symm
  | get =>
    refine ⟨?_, h.get?, rfl, fun v => ?_⟩
    · rw [Tracks, loads_of_no_load rfl rfl]
      exact ht
    · rw [get?_eq_some_iff, ht]
  | isLoaded =>
    refine ⟨?_, h.isLoaded, rfl, ?_⟩
    · rw [Tracks, loads_of_no_load rfl rfl]
      exact ht
    · rw [isLoaded, Option.isSome_iff_exists]
      exact exists_congr fun v => by rw [get?_eq_some_iff, ht]

private theorem record_cons (h : Holder ε α) (first : Call ε α) (rest : List (Call ε α)) :
    h.record (first :: rest) =
      ⟨first, (h.call first).1⟩ :: (h.call first).2.record rest := by
  simp only [record, callAll, List.zipWith_cons_cons]

/-- Calls in turn keep the invariant. -/
theorem Tracks.callAll {h : Holder ε α} {history : List (Event ε α)} (ht : h.Tracks history)
    (calls : List (Call ε α)) :
    (h.callAll calls).2.Tracks (history ++ h.record calls) := by
  induction calls generalizing h history with
  | nil => simpa [record, Holder.callAll] using ht
  | cons first rest ih =>
    have hrest := ih (ht.call first).1
    rw [record_cons]
    simpa only [Holder.callAll, List.append_assoc, List.singleton_append] using hrest

/-- After any calls on a new holder the reply to the next one is the one that the history of these
calls asks for. -/
theorem reply_due (calls : List (Call ε α)) (next : Call ε α) :
    Due ((empty : Holder ε α).record calls) next
      (((empty : Holder ε α).callAll calls).2.call next).1 := by
  have htracks := tracks_empty.callAll calls
  rw [List.nil_append] at htracks
  exact (htracks.call next).2

/-- A failure stays until the holder is cleared or loads again. -/
example : (((empty : Holder String Nat).callAll [.getOrLoad fun _ => .error "broken",
    .getOrLoad fun _ => .ok 1, .isLoaded, .reload fun _ => .ok 2, .get]).1) =
    [.answer ⟨.error "broken", true⟩, .answer ⟨.error "broken", false⟩, .loaded false,
      .answer ⟨.ok 2, true⟩, .value (some 2)] := rfl

end Loadout.Holder

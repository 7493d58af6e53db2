/-!
# Values that are loaded once

A holder loads a value on first use and hands it out from then on. A failed load is
remembered like a value. Clearing or reloading starts over; values handed out before
stay as they are.

## Main definitions

* `Holder`: nothing, a value or a failure
* `Holder.getOrLoad`, `Holder.reload`: the outcome, and whether the loader ran
* `Holder.get?`, `Holder.isLoaded`, `Holder.clear`
-/

namespace Loadout

/-- Nothing, a loaded value, or the failure to load one. -/
inductive Holder (ε α : Type) where
  | empty
  | ready (value : α)
  | failed (error : ε)

namespace Holder

variable {ε α : Type}

/-- What a holder holds after a load. -/
def ofLoad : Except ε α → Holder ε α
  | .ok value => ready value
  | .error error => failed error

/-- The outcome of the last load, if there was one since the last clearing. -/
def outcome? : Holder ε α → Option (Except ε α)
  | empty => none
  | ready value => some (.ok value)
  | failed error => some (.error error)

/-- An outcome handed out by a holder. -/
structure Answer (ε α : Type) where
  outcome : Except ε α
  /-- Whether the loader ran for it. -/
  loaded : Bool

/-- Runs a loader and remembers its outcome, whatever was held before. -/
def reload (_ : Holder ε α) (load : Unit → Except ε α) : Answer ε α × Holder ε α :=
  let outcome := load ()
  (⟨outcome, true⟩, ofLoad outcome)

/-- The remembered outcome, or that of the loader if there is none. -/
def getOrLoad (h : Holder ε α) (load : Unit → Except ε α) : Answer ε α × Holder ε α :=
  match h.outcome? with
  | some outcome => (⟨outcome, false⟩, h)
  | none => h.reload load

/-- The loaded value, if a load has succeeded. -/
def get? : Holder ε α → Option α
  | ready value => some value
  | _ => none

/-- Whether a load has succeeded. -/
def isLoaded (h : Holder ε α) : Bool :=
  h.get?.isSome

/-- Forgets what was loaded. -/
def clear (_ : Holder ε α) : Holder ε α :=
  empty

theorem outcome?_ofLoad (outcome : Except ε α) : (ofLoad outcome).outcome? = some outcome := by
  cases outcome <;> rfl

end Holder

end Loadout

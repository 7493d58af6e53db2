import Loadout.Pattern.Basic

/-!
# Compiled patterns

The pattern of a form is given as a text. Which texts are patterns, and what each of them finds in
a line, is up to a compiler. Tables are read with any compiler, so what holds of all tables does
not depend on the notation.

## Main definitions

* `CompiledPattern`: the groups of a pattern and its search
* `PatternCompiler`: what makes patterns of texts
-/

namespace Loadout

/-- A pattern that is ready to search with. -/
structure CompiledPattern where
  /-- The names of the groups. Group `n` is the `n`-th to open; group 0 does not count. -/
  names : List (Option String)
  /-- The first match in a text. -/
  find? : List Char → Option Match

/-- The slots of a pattern that have a name, in order. -/
def CompiledPattern.namedSlots (p : CompiledPattern) : List (String × Nat) :=
  (p.names.zipIdx 1).filterMap fun entry => entry.1.map (·, entry.2)

/-- Makes a pattern of a text, or says why the text is none. -/
abbrev PatternCompiler := String → Except String CompiledPattern

end Loadout

import Sweep.Regex.Fault
import Sweep.Regex.Template
import Sweep.Script.Basic

/-!
A search and what is written in place of what it finds, ready to apply to any text.
-/

namespace Sweep

/-- A search with its replacement. A literal replacement is written as it stands, a template after
its references are filled in. -/
inductive Substitution where
  | literal (search replacement : Text)
  | pattern (regex : Regex) (template : Text)

namespace Substitution

/-- The substitution of a command, if its search is valid. Every literal is. -/
def ofSearch? (search replacement : Text) : SearchMode → Option Substitution
  | .literal => some (.literal search replacement)
  | .regex => (Regex.parse? search).map fun r => .pattern r (r.storeTemplate replacement)

/-- Whether the program of a pattern is small enough. -/
def fits : Substitution → Bool
  | .literal _ _ => true
  | .pattern regex _ => regex.fits

/-- The text with every match replaced, or nothing if there is no match. -/
def replaceIn? (s : Substitution) (t : Text) : Option Text :=
  match s with
  | .literal search replacement =>
    if t.contains search then some (t.replaceAll search replacement) else none
  | .pattern r template =>
    if r.isMatch t then some (r.replaceAll (r.expand template t) t) else none

def replaceIn (s : Substitution) (t : Text) : Text := (s.replaceIn? t).getD t

/-- The stored form of what is written for a match. -/
def template : Substitution → Text
  | .literal _ replacement => replacement
  | .pattern _ template => template

end Substitution

end Sweep

import Sweep.Regex.Parser

/-!
What can be wrong with a regular expression.

Of an expression that cannot be read only the place is kept where reading stops. The engine draws
the expression around it.

An expression that can be read may still be too large. Its size is that of its program, in which a
class takes as many states as it takes to tell the encodings of its characters.
-/

namespace Sweep

namespace Unicode

/-- The number of ranges when those that touch are put together. -/
def blockCount : List (Nat × Nat) → Nat
  | (_, last) :: (first, stop) :: others =>
    (if last + 1 = first then 0 else 1) + blockCount ((first, stop) :: others)
  | ranges => ranges.length

namespace CharClass

/-- About how many states it takes to tell the encodings of a class. The ranges of a table share
the front bytes of their encodings, so two states for each are enough; where two classes are put
together, the larger one counts. -/
def stateCount : CharClass → Nat
  | empty => 1
  | all => 9
  | char c => (String.utf8EncodeChar c).length
  | range first last =>
    (String.utf8EncodeChar first).length + (String.utf8EncodeChar last).length - 1
  | table t => 2 * blockCount t.ranges.toList
  | union a b => max a.stateCount b.stateCount
  | inter a b => max a.stateCount b.stateCount
  | diff a b => max a.stateCount b.stateCount
  | symmDiff a b => max a.stateCount b.stateCount
  | foldCase a => 2 * a.stateCount
  | foldAsciiCase a => 2 * a.stateCount

end CharClass

end Unicode

namespace Regex

/-- What is wrong with an expression. -/
inductive Fault where
  /-- It cannot be read from one of its characters on. -/
  | unreadable (position : Nat)
  | tooDeep
  | tooLarge
  deriving DecidableEq, Repr

/-- The greatest size of a program, in bytes. -/
def maxSize : Nat := 10 * 1024 * 1024

def stateSize : Nat := 32

def Fault.message : Fault → Text
  | .unreadable position => "regex parse error at character ".toList ++ Text.ofNat position
  | .tooDeep =>
    "exceed the maximum number of nested parentheses/brackets (".toList ++ Text.ofNat maxHeight ++
      [')']
  | .tooLarge =>
    "Compiled regex exceeds size limit of ".toList ++ Text.ofNat maxSize ++ " bytes.".toList

def Instr.stateCount : Instr → Nat
  | .char c => c.stateCount
  | _ => 1

def size (r : Regex) : Nat :=
  stateSize * r.program.foldl (fun count instr => count + instr.stateCount) 0

def fits (r : Regex) : Bool := r.size ≤ maxSize

/-- The text that is left where a step fails, if one does. -/
def stuckAt? (step : σ → Text → Option (Progress σ α)) : (fuel : Nat) → σ → Text → Option Text
  | 0, _, _ => none
  | fuel + 1, state, t =>
    match step state t with
    | none => some t
    | some (.more state left) => stuckAt? step fuel state left
    | some (.done _ _) => none

/-- What is wrong with an expression that is not accepted. -/
def faultOf (t : Text) : Fault :=
  match stuckAt? Reading.step (t.length + 1) {} t with
  | some left => .unreadable (t.length - left.length)
  | none => .tooDeep

end Regex

end Sweep

import Sweep.Text.Hex

/-!
Tables of code point ranges, and the packed texts they are read from.

A packed text is a list of entries between blanks. An entry is a hexadecimal number, a comma and a
value.
-/

namespace Sweep.Unicode

/-- Inclusive ranges of code points, in ascending order. -/
structure RangeTable where
  ranges : Array (Nat × Nat)

namespace RangeTable

/-- Whether one of the ranges from index `low` up to `high` holds the code point. -/
def search (ranges : Array (Nat × Nat)) (n low high : Nat) : Bool :=
  if _h : low < high then
    let middle := (low + high) / 2
    match ranges[middle]? with
    | none => false
    | some (first, last) =>
      if n < first then search ranges n low middle
      else if last < n then search ranges n (middle + 1) high
      else true
  else
    false
termination_by high - low

def contains (table : RangeTable) (c : Char) : Bool :=
  search table.ranges c.toNat 0 table.ranges.size

end RangeTable

def cut (separator : Char) (t : Text) : Text × Text :=
  (t.takeWhile (· != separator), (t.dropWhile (· != separator)).drop 1)

def entries (packed : String) : List Text :=
  let spaced := packed.toList.map fun c => if Text.isBlank c then ' ' else c
  (Text.split spaced ' ').filter fun entry => !entry.isEmpty

/-- A range of code points with the value they share. -/
structure Run where
  first : Nat
  last : Nat
  value : Text

/-- The runs of a packed text in which each entry is the length of a run and its value. The first
run begins at the first code point, and each other where the last one ends. -/
def decodeRuns (packed : String) : List Run :=
  let step := fun (start : Nat) (entry : Text) =>
    let (digits, value) := cut ',' entry
    let stop := start + hexNumber digits
    (stop, Run.mk start (stop - 1) value)
  let go := (entries packed).foldl
    (fun (start, runs) entry =>
      let (next, run) := step start entry
      (next, run :: runs))
    (0, [])
  go.2.reverse

def RangeTable.ofRuns (runs : List Run) (test : Text → Bool) : RangeTable :=
  ⟨((runs.filter fun run => test run.value).map fun run => (run.first, run.last)).toArray⟩

/-- The ranges of a packed text in which each entry is the distance from the end of the last range,
and the length of a range. -/
def RangeTable.decode (packed : String) : RangeTable :=
  let go := (entries packed).foldl
    (fun (start, ranges) entry =>
      let (gap, length) := cut ',' entry
      let first := start + hexNumber gap
      let next := first + hexNumber length
      (next, ranges.push (first, next - 1)))
    (0, #[])
  ⟨go.2⟩

end Sweep.Unicode

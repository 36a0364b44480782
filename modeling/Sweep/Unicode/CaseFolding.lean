import Sweep.Unicode.FoldingData
import Sweep.Unicode.RangeTable

/-!
Characters that differ by case only.
-/

namespace Sweep.Unicode

/-- A code point with the group of code points that fold as it does. -/
abbrev FoldingEntry := Nat × List Nat

/-- Each code point that has a case variant, with all of them, in ascending order. -/
def foldingTable : Array FoldingEntry :=
  let groups := (entries foldingGroups).map fun entry => (Text.split entry ',').map hexNumber
  let pairs := groups.flatMap fun group => group.map fun n => (n, group)
  (pairs.mergeSort fun a b => a.1 ≤ b.1).toArray

def foldingPoints : List Nat := (foldingTable.map (·.1)).toList

/-- The group of a code point, sought from index `low` up to `high`. -/
def findFolding (table : Array FoldingEntry) (n low high : Nat) : Option (List Nat) :=
  if _h : low < high then
    let middle := (low + high) / 2
    match table[middle]? with
    | none => none
    | some (m, group) =>
      if n < m then findFolding table n low middle
      else if m < n then findFolding table n (middle + 1) high
      else some group
  else
    none
termination_by high - low

/-- The characters that differ from `c` by case only, `c` among them. -/
def caseVariants (c : Char) : List Char :=
  match findFolding foldingTable c.toNat 0 foldingTable.size with
  | some group => group.map Char.ofNat
  | none => [c]

def asciiCaseVariants (c : Char) : List Char := [c, c.toLower, c.toUpper]

end Sweep.Unicode

import Sweep.Unicode.CaseFolding

/-!
Classes of characters, built from single characters, ranges and tables by set operations.
-/

namespace Sweep.Unicode

/-- A class of characters. -/
inductive CharClass where
  | empty
  | all
  | char (c : Char)
  | range (first last : Char)
  | table (t : RangeTable)
  | union (a b : CharClass)
  | inter (a b : CharClass)
  | diff (a b : CharClass)
  | symmDiff (a b : CharClass)
  /-- The characters that have a case variant in the class. -/
  | foldCase (a : CharClass)
  /-- The characters that have a case variant in the class, with letters of ASCII alone. -/
  | foldAsciiCase (a : CharClass)

namespace CharClass

def contains : CharClass → Char → Bool
  | empty, _ => false
  | all, _ => true
  | char c, d => c == d
  | range first last, d => first ≤ d && d ≤ last
  | table t, d => t.contains d
  | union a b, d => a.contains d || b.contains d
  | inter a b, d => a.contains d && b.contains d
  | diff a b, d => a.contains d && !b.contains d
  | symmDiff a b, d => a.contains d != b.contains d
  | foldCase a, d => (caseVariants d).any a.contains
  | foldAsciiCase a, d => (asciiCaseVariants d).any a.contains

/-- The code points where a class may begin or end. Between two of them that follow each other, all
characters are members or none is. -/
def edges : CharClass → List Nat
  | empty => []
  | all => []
  | char c => [c.toNat, c.toNat + 1]
  | range first last => [first.toNat, last.toNat + 1]
  | table t => t.ranges.toList.flatMap fun (first, last) => [first, last + 1]
  | union a b => a.edges ++ b.edges
  | inter a b => a.edges ++ b.edges
  | diff a b => a.edges ++ b.edges
  | symmDiff a b => a.edges ++ b.edges
  | foldCase a => a.edges ++ foldingPoints.flatMap fun n => [n, n + 1]
  | foldAsciiCase a => a.edges ++ List.range 129

/-- Whether the class has no members. The first character of all and the first one behind the code
points that are no characters stand for what no edge precedes. -/
def isEmpty (a : CharClass) : Bool :=
  (0 :: 0xE000 :: a.edges).all fun n => !(n.isValidChar && a.contains (Char.ofNat n))

def compl (a : CharClass) : CharClass := .diff .all a

def ofList (cs : List Char) : CharClass := cs.foldr (fun c a => .union (.char c) a) .empty

def unions (classes : List CharClass) : CharClass := classes.foldr .union .empty

def ascii : CharClass := .range '\x00' '\x7f'

end CharClass

end Sweep.Unicode

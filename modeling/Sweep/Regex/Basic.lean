import Sweep.Regex.Search

/-!
Compiled regular expressions, and the matches of one in a text.

Matches are taken from left to right. Of the matches that begin at the same place the preferred one
counts. An empty match does not count right behind another match.
-/

namespace Sweep

/-- A compiled regular expression. Group zero is the whole match. -/
structure Regex where
  program : Array Regex.Instr
  groupCount : Nat
  names : List (Text × Nat)

namespace Regex

inductive Piece where
  | kept (c : Char)
  | found (m : Match) (text : Text)
  deriving DecidableEq, Repr

def Piece.text : Piece → Text
  | .kept c => [c]
  | .found _ text => text

def ofNode (node : Node) (names : List (Text × Nat)) : Regex where
  program := node.program
  groupCount := node.groups.foldl (fun n index => max n (index + 1)) 1
  names := names.filter fun (_, index) => node.groups.contains index

def slotCount (r : Regex) : Nat := 2 * (r.groupCount - 1)

/-- The pieces from a place on. The next `skip` characters belong to the last match; `barred` says
that a match has just ended there. -/
def piecesFrom (r : Regex) : (skip : Nat) → (barred : Bool) → (before : Option Char) → Text →
    (position : Nat) → List Piece
  | skip, barred, before, [], position =>
    match skip, matchAt r.program r.slotCount before [] position with
    | 0, some m => if barred then [] else [.found m []]
    | _, _ => []
  | skip + 1, barred, _, c :: rest, position =>
    r.piecesFrom skip barred (some c) rest (position + 1)
  | 0, barred, before, c :: rest, position =>
    match matchAt r.program r.slotCount before (c :: rest) position with
    | none => .kept c :: r.piecesFrom 0 false (some c) rest (position + 1)
    | some m =>
      let length := m.stop - position
      if 0 < length then
        .found m ((c :: rest).take length) ::
          r.piecesFrom (length - 1) true (some c) rest (position + 1)
      else if barred then
        .kept c :: r.piecesFrom 0 false (some c) rest (position + 1)
      else
        .found m [] :: .kept c :: r.piecesFrom 0 false (some c) rest (position + 1)

def pieces (r : Regex) (t : Text) : List Piece := r.piecesFrom 0 false none t 0

/-- The text of a group, empty where the group has no part in the match. -/
def groupText (t : Text) (m : Match) (group : Nat) : Text :=
  if group = 0 then
    (t.drop m.start).take (m.stop - m.start)
  else
    match m.slots[slotOf group]?, m.slots[slotOf group + 1]? with
    | some (some start), some (some stop) => (t.drop start).take (stop - start)
    | _, _ => []

def replaceAll (r : Regex) (write : Match → Text) (t : Text) : Text :=
  (r.pieces t).flatMap fun
    | .kept c => [c]
    | .found m _ => write m

def isMatch (r : Regex) (t : Text) : Bool :=
  (r.pieces t).any fun
    | .kept _ => false
    | .found _ _ => true

end Regex

end Sweep

import Sweep.Unicode.Property

/-!
What a regular expression means: a tree of character classes, assertions and the ways to combine
them.
-/

namespace Sweep.Regex

open Unicode (CharClass)

inductive WordEdge where
  | boundary
  | interior
  | start
  | stop
  /-- No word character comes before. -/
  | startHalf
  /-- No word character follows. -/
  | stopHalf
  deriving DecidableEq, Repr

inductive Assertion where
  | textStart
  | textEnd
  | lineStart
  | lineEnd
  /-- A line start where a carriage return and a line feed may end a line, alone or together. -/
  | anyLineStart
  | anyLineEnd
  | word (edge : WordEdge) (ascii : Bool)
  deriving DecidableEq, Repr

def isWordChar (ascii : Bool) (c : Char) : Bool :=
  if ascii then c.isAlphanum || c == '_' else Unicode.wordClass.contains c

/-- Whether the edge lies between two places, told whether a word character is at each of them. -/
def WordEdge.holds (before after : Bool) : WordEdge → Bool
  | .boundary => before != after
  | .interior => before == after
  | .start => !before && after
  | .stop => before && !after
  | .startHalf => !before
  | .stopHalf => !after

/-- Whether the assertion holds between two characters, none standing for the end of the text. -/
def Assertion.holds (before after : Option Char) : Assertion → Bool
  | .textStart => before.isNone
  | .textEnd => after.isNone
  | .lineStart => before.isNone || before == some '\n'
  | .lineEnd => after.isNone || after == some '\n'
  | .anyLineStart =>
    before.isNone || before == some '\n' || (before == some '\r' && after != some '\n')
  | .anyLineEnd =>
    after.isNone || after == some '\r' || (after == some '\n' && before != some '\r')
  | .word edge ascii => edge.holds (before.any (isWordChar ascii)) (after.any (isWordChar ascii))

/-- A regular expression. Of two ways to match, the first alternative is preferred, and with a
greedy repetition one more round. -/
inductive Node where
  | empty
  | char (c : CharClass)
  | assertion (a : Assertion)
  | seq (first second : Node)
  | either (first second : Node)
  | group (index : Nat) (body : Node)
  | repetition (body : Node) (min : Nat) (max : Option Nat) (greedy : Bool)

namespace Node

def readsNothing : Node → Bool
  | empty => true
  | char _ => false
  | assertion _ => true
  | seq a b => a.readsNothing && b.readsNothing
  | either a b => a.readsNothing && b.readsNothing
  | group _ body => body.readsNothing
  | repetition body _ _ _ => body.readsNothing

/-- The number of characters that every match reads at least. None is known for what holds a class
without members. -/
def leastLength? : Node → Option Nat
  | empty => some 0
  | char c => if c.isEmpty then none else some 1
  | assertion _ => some 0
  | seq a b => do pure ((← a.leastLength?) + (← b.leastLength?))
  | either a b => do pure (Nat.min (← a.leastLength?) (← b.leastLength?))
  | group _ body => body.leastLength?
  | repetition body min _ _ => body.leastLength?.map (min * ·)

def readsAlways (node : Node) : Bool := node.leastLength?.any (0 < ·)

def groups : Node → List Nat
  | empty => []
  | char _ => []
  | assertion _ => []
  | seq a b => a.groups ++ b.groups
  | either a b => a.groups ++ b.groups
  | group index body => index :: body.groups
  | repetition body _ _ _ => body.groups

def concat : List Node → Node
  | [] => empty
  | [a] => a
  | a :: others => .seq a (concat others)

def alternate : List Node → Node
  | [] => empty
  | [a] => a
  | a :: others => .either a (alternate others)

/-- A node between `min` and `max` times. One round of a node that reads nothing stands for all, and
a repetition of no round leaves nothing, not even a group. -/
def times (body : Node) (min : Nat) (max : Option Nat) (greedy : Bool) : Node :=
  let most := if body.readsNothing then some (Nat.min (max.getD 1) 1) else max
  let least := if body.readsNothing then Nat.min min 1 else min
  if most = some 0 then .empty
  else if least = 1 ∧ most = some 1 then body
  else .repetition body least most greedy

end Node

end Sweep.Regex

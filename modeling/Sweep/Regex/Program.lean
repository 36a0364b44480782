import Sweep.Regex.Node

/-!
Programs that match a regular expression.

An instruction that reads or tests goes on to the next one. A split goes on to two instructions and
prefers the first.
-/

namespace Sweep.Regex

open Unicode (CharClass)

/-- An instruction. -/
inductive Instr where
  | char (c : CharClass)
  | assertion (a : Assertion)
  | split (first second : Nat)
  | jump (target : Nat)
  | save (slot : Nat)
  | accept

/-- A split that goes on inside a repetition or leaves it, the preferred way first. -/
def Instr.choose (greedy : Bool) (inside outside : Nat) : Instr :=
  if greedy then .split inside outside else .split outside inside

/-- The slot that notes where a group begins; the next one notes where it ends. -/
def slotOf (group : Nat) : Nat := 2 * (group - 1)

namespace Node

def size : Node → Nat
  | empty => 0
  | char _ => 1
  | assertion _ => 1
  | seq a b => a.size + b.size
  | either a b => a.size + b.size + 2
  | group _ body => body.size + 2
  | repetition body 0 none _ => body.size + 2
  | repetition body (min + 1) none _ => min * body.size + body.size + 1
  | repetition body min (some max) _ => min * body.size + (max - min) * (body.size + 1)

def copies (code : Nat → List Instr) (size : Nat) : (count base : Nat) → List Instr
  | 0, _ => []
  | count + 1, base => code base ++ copies code size count (base + size)

/-- Code repeated up to a number of times; each round may go on to `stop` instead. -/
def optionalCopies (greedy : Bool) (stop : Nat) (code : Nat → List Instr) (size : Nat) :
    (count base : Nat) → List Instr
  | 0, _ => []
  | count + 1, base =>
    .choose greedy (base + 1) stop :: code (base + 1) ++
      optionalCopies greedy stop code size count (base + 1 + size)

/-- The instructions of a node that stands at `base` in a program. A repetition without upper bound
tests after each round whether to go on; one that may have no round tests before the first too.
Where each round reads a character, both tests are the same instruction. A round that may read
nothing needs a test of its own behind it: it comes back to the place where it began, and a test
that was made there before would not be made again. -/
def code : Node → (base : Nat) → List Instr
  | empty, _ => []
  | char c, _ => [.char c]
  | assertion a, _ => [.assertion a]
  | seq a b, base => a.code base ++ b.code (base + a.size)
  | either a b, base =>
    let second := base + a.size + 2
    .split (base + 1) second :: a.code (base + 1) ++ [.jump (second + b.size)] ++ b.code second
  | group index body, base =>
    .save (slotOf index) :: body.code (base + 1) ++ [.save (slotOf index + 1)]
  | repetition body 0 none greedy, base =>
    let first := Instr.choose greedy (base + 1) (base + body.size + 2)
    let again := if body.readsAlways then .jump base else first
    first :: body.code (base + 1) ++ [again]
  | repetition body (min + 1) none greedy, base =>
    let last := base + min * body.size
    copies body.code body.size min base ++ body.code last ++
      [.choose greedy last (last + body.size + 1)]
  | repetition body min (some max) greedy, base =>
    let rest := base + min * body.size
    let stop := rest + (max - min) * (body.size + 1)
    copies body.code body.size min base ++
      optionalCopies greedy stop body.code body.size (max - min) rest

def program (node : Node) : Array Instr := (node.code 0 ++ [Instr.accept]).toArray

end Node

end Sweep.Regex

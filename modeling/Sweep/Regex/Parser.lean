import Sweep.Regex.Basic
import Sweep.Regex.Bracket

/-!
Reading a regular expression.

An expression is a list of alternatives, each of them a list of items. A group is read with its own
list while the lists around it wait. Flags that are set within a group end with it.
-/

namespace Sweep.Regex

/-- An item of an alternative. It has no node if it only changes flags. -/
structure Item where
  node : Option Node
  /-- How deep groups, repetitions, classes and lists nest in it. -/
  height : Nat

/-- The node of an item; a change of flags matches the empty text. -/
def Item.toNode (item : Item) : Node := item.node.getD .empty

def Item.concat (items : List Item) : Item :=
  match items with
  | [] => ⟨some .empty, 0⟩
  | [item] => item
  | items =>
    ⟨some (.concat (items.map Item.toNode)), 1 + (items.map (·.height)).foldl max 0⟩

def Item.alternate (branches : List Item) : Item :=
  match branches with
  | [] => ⟨some .empty, 0⟩
  | [branch] => branch
  | branches =>
    ⟨some (.alternate (branches.map Item.toNode)), 1 + (branches.map (·.height)).foldl max 0⟩

structure Level where
  branches : List Item := []
  items : List Item := []

def Level.item (level : Level) : Item :=
  .alternate ((Item.concat level.items.reverse :: level.branches).reverse)

/-- A group whose end has not been reached: its number if it is one that is noted, and what waits
around it. -/
structure OpenGroup where
  index : Option Nat
  outerFlags : Flags
  outer : Level

structure Reading where
  flags : Flags := {}
  level : Level := {}
  stack : List OpenGroup := []
  groups : Nat := 0
  names : List (Text × Nat) := []

namespace Reading

def push (r : Reading) (item : Item) : Reading :=
  { r with level := { r.level with items := item :: r.level.items } }

def enter (r : Reading) (index : Option Nat) (flags : Flags) : Reading :=
  { r with flags := flags, level := {}, stack := ⟨index, r.flags, r.level⟩ :: r.stack }

def enterNext (r : Reading) (names : List (Text × Nat)) : Reading :=
  { r.enter (some (r.groups + 1)) r.flags with groups := r.groups + 1, names := names }

def leave? (r : Reading) : Option Reading :=
  match r.stack with
  | [] => none
  | group :: stack =>
    let item := r.level.item
    let node := match group.index with
      | some index => .group index item.toNode
      | none => item.toNode
    some ({ r with flags := group.outerFlags, level := group.outer, stack := stack }.push
      ⟨some node, item.height + 1⟩)

def nextBranch (r : Reading) : Reading :=
  { r with level := ⟨Item.concat r.level.items.reverse :: r.level.branches, []⟩ }

/-- Repeats the last item. There must be one that is not a change of flags. -/
def repeatLast? (r : Reading) (min : Nat) (max : Option Nat) (lazy : Bool) : Option Reading :=
  match r.level.items with
  | ⟨some node, height⟩ :: items =>
    let repeated := node.times min max (lazy == r.flags.swapGreed)
    some { r with level := { r.level with items := ⟨some repeated, height + 1⟩ :: items } }
  | _ => none

/-- What follows an opening parenthesis: a group with or without a number, or a change of flags. -/
def readGroup (r : Reading) (t : Text) : Option (Reading × Text) :=
  let named := fun (t : Text) =>
    match readGroupName t with
    | some (name, left) =>
      if r.names.any (·.1 == name) then none
      else some (r.enterNext ((name, r.groups + 1) :: r.names), left)
    | none => none
  match r.flags.skip t with
  | '?' :: '=' :: _ => none
  | '?' :: '!' :: _ => none
  | '?' :: '<' :: '=' :: _ => none
  | '?' :: '<' :: '!' :: _ => none
  | '?' :: 'P' :: '<' :: rest => named rest
  | '?' :: '<' :: rest => named rest
  | '?' :: rest =>
    match r.flags.read? false [] rest with
    | some (flags, ':', left) => some (r.enter none flags, left)
    | some (flags, _, left) => some ({ r with flags := flags }.push ⟨none, 0⟩, left)
    | none => none
  | t => some (r.enterNext r.names, t)

/-- Repeats the last item as an operator says; a question mark behind the operator prefers fewer
rounds. -/
def readRepetition (r : Reading) (min : Nat) (max : Option Nat) (t : Text) :
    Option (Reading × Text) :=
  match t with
  | '?' :: left => (r.repeatLast? min max true).map (·, left)
  | left => (r.repeatLast? min max false).map (·, left)

def readPrimitive (r : Reading) (t : Text) : Option (Reading × Text) :=
  let read := match t with
    | [] => none
    | '\\' :: rest => readEscape r.flags rest
    | '.' :: rest => some (.dot, rest)
    | '^' :: rest => some (.caret, rest)
    | '$' :: rest => some (.dollar, rest)
    | c :: rest => some (.literal c false, rest)
  match read with
  | some (item, left) =>
    (item.node? r.flags).map fun node => (r.push ⟨some node, 0⟩, left)
  | none => none

def step (r : Reading) (t : Text) : Option (Progress Reading Reading) :=
  let more := fun (next : Option (Reading × Text)) =>
    next.map fun (r, left) => Progress.more r left
  match r.flags.skip t with
  | [] => if r.stack.isEmpty then some (.done r []) else none
  | '(' :: rest => more (r.readGroup rest)
  | ')' :: rest => more (r.leave?.map (·, rest))
  | '|' :: rest => some (.more r.nextBranch rest)
  | '[' :: rest =>
    match readClass r.flags rest with
    | some (item, left) => some (.more (r.push ⟨some (.char item.charClass), item.height⟩) left)
    | none => none
  | '?' :: rest => more (r.readRepetition 0 (some 1) rest)
  | '*' :: rest => more (r.readRepetition 0 none rest)
  | '+' :: rest => more (r.readRepetition 1 none rest)
  | '\x7b' :: rest =>
    match readBounds r.flags rest with
    | some ((min, max), left) => more (r.readRepetition min max (r.flags.skip left))
    | none => none
  | t => more (r.readPrimitive t)

end Reading

def maxHeight : Nat := 250

def parse? (t : Text) : Option Regex :=
  match iterate Reading.step (t.length + 1) {} t with
  | some (r, _) =>
    let item := r.level.item
    if item.height ≤ maxHeight then some (.ofNode item.toNode r.names) else none
  | none => none

end Sweep.Regex

import Sweep.Regex.Lexer

/-!
Reading a class in brackets.

A class is a union of items, or several unions joined by `&&`, `--` and `~~`, which bind from left
to right. An item is a character, a range, an escape, a named ASCII class or another class in
brackets.
-/

namespace Sweep.Regex

open Unicode (CharClass)

/-- What a step of reading leads to: the next state or the result, with the text that is left. -/
inductive Progress (σ α : Type) where
  | more (state : σ) (left : Text)
  | done (result : α) (left : Text)

/-- Repeats a step until it is done. Each step reads at least one character, so `fuel` need not
exceed the length of the text by more than one. -/
def iterate (step : σ → Text → Option (Progress σ α)) : (fuel : Nat) → σ → Text → Option (α × Text)
  | 0, _, _ => none
  | fuel + 1, state, t =>
    match step state t with
    | none => none
    | some (.more state left) => iterate step fuel state left
    | some (.done result left) => some (result, left)

inductive ClassOperator where
  | intersection
  | difference
  | symmetricDifference
  deriving DecidableEq, Repr

/-- A class with the number of brackets, unions and operators that nest in it. -/
structure ClassItem where
  charClass : CharClass
  height : Nat

structure OpenClass where
  negated : Bool
  /-- Only dashes have been read so far, so that one more, or a closing bracket, is a character. -/
  atStart : Bool := true
  left : Option (ClassItem × ClassOperator) := none
  items : List ClassItem := []

namespace OpenClass

def add (c : OpenClass) (item : ClassItem) : OpenClass :=
  { c with atStart := false, items := item :: c.items }

def unionItem (c : OpenClass) : ClassItem :=
  match c.items with
  | [item] => item
  | [] => ⟨.empty, 0⟩
  | items => ⟨.unions (items.map (·.charClass)), 1 + (items.map (·.height)).foldl max 0⟩

def joined (flags : Flags) (c : OpenClass) : ClassItem :=
  let right := c.unionItem
  match c.left with
  | none => right
  | some (left, operator) =>
    let a := flags.fold left.charClass
    let b := flags.fold right.charClass
    let result := match operator with
      | .intersection => CharClass.inter a b
      | .difference => .diff a b
      | .symmetricDifference => .symmDiff a b
    ⟨result, 1 + max left.height right.height⟩

def operate (flags : Flags) (c : OpenClass) (operator : ClassOperator) : OpenClass :=
  { c with atStart := false, left := some (c.joined flags, operator), items := [] }

def close? (flags : Flags) (c : OpenClass) : Option ClassItem :=
  let item := c.joined flags
  (flags.negate? c.negated (flags.fold item.charClass)).map fun result => ⟨result, item.height + 1⟩

end OpenClass

/-- Reads what follows an opening bracket: a circumflex takes the complement. -/
def openClass (flags : Flags) (t : Text) : OpenClass × Text :=
  match flags.skip t with
  | '^' :: rest => ({ negated := true }, rest)
  | t => ({ negated := false }, t)

/-- A named ASCII class behind an opening bracket, up to its closing bracket. -/
def readAsciiClass? (t : Text) : Option (Bool × CharClass × Text) :=
  match t with
  | ':' :: rest =>
    let (negated, rest) := match rest with
      | '^' :: rest => (true, rest)
      | rest => (false, rest)
    match rest.dropWhile (· != ':') with
    | ':' :: ']' :: left =>
      (asciiClass? (rest.takeWhile (· != ':'))).map fun c => (negated, c, left)
    | _ => none
  | _ => none

def readClassPrimitive (flags : Flags) : Text → Option (Primitive × Text)
  | [] => none
  | '\\' :: rest => readEscape flags rest
  | c :: rest => some (.literal c false, rest)

/-- Drops the space in front of a character of a class. A comment sign is passed over, but not what
follows it. -/
def peekClass (inComment : Bool) : Text → Text
  | [] => []
  | c :: rest =>
    if Text.isBlank c then peekClass inComment rest
    else if !inComment && c == '#' then peekClass true rest
    else c :: rest

def endsRange (flags : Flags) (t : Text) : Bool :=
  let next := if flags.ignoreSpace then
      match peekClass false t with
      | [] => t.head?
      | c :: _ => some c
    else
      t.head?
  next == some ']' || next == some '-'

def readClassRange (flags : Flags) (t : Text) : Option (CharClass × Text) :=
  match readClassPrimitive flags t with
  | none => none
  | some (first, left) =>
    match flags.skip left with
    | [] => none
    | '-' :: rest =>
      if endsRange flags rest then
        (first.charClass? flags).map fun c => (c, '-' :: rest)
      else
        match readClassPrimitive flags (flags.skip rest) with
        | some (last, left) =>
          match first, last with
          | .literal a _, .literal b _ =>
            if !flags.unicode && (127 < a.toNat || 127 < b.toNat) then none
            else if a ≤ b then some (.range a b, left)
            else none
          | _, _ => none
        | none => none
    | left => (first.charClass? flags).map fun c => (c, left)

/-- Reads the next part of a class. The state is the innermost class and the ones around it. -/
def classStep (flags : Flags) (state : OpenClass × List OpenClass) (t : Text) :
    Option (Progress (OpenClass × List OpenClass) ClassItem) :=
  let (current, outer) := state
  let character := fun (c : Char) (rest : Text) (atStart : Bool) =>
    some (.more ({ current.add ⟨.char c, 0⟩ with atStart := atStart }, outer) rest)
  let operator := fun (o : ClassOperator) (rest : Text) =>
    some (.more (current.operate flags o, outer) rest)
  match current.atStart, flags.skip t with
  | _, [] => none
  | true, '-' :: rest => character '-' rest true
  | atStart, ']' :: rest =>
    if atStart && current.items.isEmpty then
      character ']' rest false
    else
      match current.close? flags, outer with
      | none, _ => none
      | some item, [] => some (.done item rest)
      | some item, next :: others => some (.more (next.add item, others) rest)
  | _, '[' :: rest =>
    match readAsciiClass? rest with
    | some (negated, c, left) =>
      (flags.negate? negated (flags.fold c)).map fun c => .more (current.add ⟨c, 0⟩, outer) left
    | none =>
      let (inner, left) := openClass flags rest
      some (.more (inner, current :: outer) left)
  | _, '&' :: '&' :: rest => operator .intersection rest
  | _, '-' :: '-' :: rest => operator .difference rest
  | _, '~' :: '~' :: rest => operator .symmetricDifference rest
  | _, t => (readClassRange flags t).map fun (c, left) => .more (current.add ⟨c, 0⟩, outer) left

def readClass (flags : Flags) (t : Text) : Option (ClassItem × Text) :=
  let (first, left) := openClass flags t
  iterate (classStep flags) (left.length + 1) (first, []) left

end Sweep.Regex

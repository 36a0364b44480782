import Sweep.Regex.Program

/-!
Running a program on a text.

All ways to match are followed side by side, one character at a time, in the order of preference.
Two ways that reach the same instruction at the same position go on alike, so only the preferred
one is kept. A place of a text is the character before it, the text after it and its position.
-/

namespace Sweep.Regex

/-- One way to match: the next instruction, and the positions noted so far. -/
structure Thread where
  pc : Nat
  slots : List (Option Nat)

/-- A match from `start` up to `stop`, with the positions that its groups noted. -/
structure Match where
  start : Nat
  stop : Nat
  slots : List (Option Nat)
  deriving DecidableEq, Repr

/-- Follows threads up to the instructions that read a character or accept. An instruction that was
seen before is not entered again. Each step takes one thread and adds at most two where an
instruction is seen first, so `fuel` need not exceed the threads and twice the instructions. -/
def follow (program : Array Instr) (before after : Option Char) (position : Nat) :
    (fuel : Nat) → List Thread → (seen : Array Bool) → List Thread
  | 0, _, _ => []
  | _, [], _ => []
  | fuel + 1, t :: others, seen =>
    if seen.getD t.pc true then
      follow program before after position fuel others seen
    else
      let seen := seen.setIfInBounds t.pc true
      match program[t.pc]? with
      | none => follow program before after position fuel others seen
      | some (.char _) => t :: follow program before after position fuel others seen
      | some .accept => t :: follow program before after position fuel others seen
      | some (.jump target) =>
        follow program before after position fuel (⟨target, t.slots⟩ :: others) seen
      | some (.split first second) =>
        follow program before after position fuel
          (⟨first, t.slots⟩ :: ⟨second, t.slots⟩ :: others) seen
      | some (.assertion a) =>
        if a.holds before after then
          follow program before after position fuel (⟨t.pc + 1, t.slots⟩ :: others) seen
        else
          follow program before after position fuel others seen
      | some (.save slot) =>
        follow program before after position fuel
          (⟨t.pc + 1, t.slots.set slot (some position)⟩ :: others) seen

/-- The threads that stand before a character or at the end, from the given ones. -/
def settle (program : Array Instr) (before : Option Char) (rest : Text) (position : Nat)
    (threads : List Thread) : List Thread :=
  follow program before rest.head? position (threads.length + 2 * program.size) threads
    (.replicate program.size false)

def Thread.accepts (program : Array Instr) (t : Thread) : Bool :=
  match program[t.pc]? with
  | some .accept => true
  | _ => false

def Thread.read? (program : Array Instr) (c : Char) (t : Thread) : Option Thread :=
  match program[t.pc]? with
  | some (.char charClass) => if charClass.contains c then some ⟨t.pc + 1, t.slots⟩ else none
  | _ => none

/-- Goes on with the settled threads. A thread that accepts is preferred to all that come after it,
and to every match found before. -/
def advance (program : Array Instr) (start : Nat) :
    List Thread → (rest : Text) → (position : Nat) → Option Match → Option Match
  | threads, rest, position, found =>
    let going := threads.takeWhile fun t => !t.accepts program
    let found := match threads.find? (·.accepts program) with
      | some t => some ⟨start, position, t.slots⟩
      | none => found
    match rest with
    | [] => found
    | c :: rest =>
      match going.filterMap (Thread.read? program c) with
      | [] => found
      | moved =>
        advance program start (settle program (some c) rest (position + 1) moved) rest
          (position + 1) found

def matchAt (program : Array Instr) (slotCount : Nat) (before : Option Char) (rest : Text)
    (position : Nat) : Option Match :=
  let threads := settle program before rest position [⟨0, .replicate slotCount none⟩]
  advance program position threads rest position none

end Sweep.Regex

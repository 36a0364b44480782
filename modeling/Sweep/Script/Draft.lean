import Sweep.Script.Error
import Sweep.Script.Instruction
import Sweep.Script.Variables

/-!
Reading a script line by line.

A draft is what has been read so far. The front matter, at most one filter and any assignments,
ends where the first command block begins. A block is an optional file selection, a search and a
replacement; with the replacement it becomes a command.

A line is read either into a new draft, by `Draft.feed`, or in place, by `Drafting.feed`. In place
a line that is refused halfway has to put back what it took out.
-/

namespace Sweep

/-- The command block being read. -/
inductive Block where
  | idle
  | files (glob : Text)
  | search (files : Option Text) (pattern : Text) (mode : SearchMode)
  deriving DecidableEq, Repr

/-- A script under construction. -/
structure Draft where
  filter : Option Text := none
  block : Block := .idle
  table : VariableTable := {}
  commands : List Command := []
  deriving DecidableEq, Repr

/-- A script that has been read, with the variables of its front matter. -/
structure ParsedScript where
  script : Script
  «variables» : VariableTable
  deriving DecidableEq, Repr

namespace Draft

def inFrontMatter (draft : Draft) : Bool := draft.block == .idle && draft.commands.isEmpty

def globArgument (keyword : Keyword) (payload : Text) : Except LineFault Text :=
  let glob := Instruction.globOf payload
  if glob.isEmpty then .error (.invalid keyword) else .ok glob

/-- Opens the search of a block, if it has none yet. -/
def beginSearch (draft : Draft) (mode : SearchMode) (pattern : Text) : Except LineFault Draft :=
  match draft.block with
  | .idle => .ok { draft with block := .search none pattern mode }
  | .files glob => .ok { draft with block := .search (some glob) pattern mode }
  | .search .. => .error (.unexpected mode.keyword)

def complete (draft : Draft) (replacement : Text) : Except LineFault Draft :=
  match draft.block with
  | .search files pattern mode =>
    let command := ⟨files.getD everyFile, pattern, replacement, mode⟩
    .ok { draft with block := .idle, commands := draft.commands ++ [command] }
  | _ => .error (.unexpected .replacement)

/-- Takes one instruction into the draft. -/
def accept (draft : Draft) : Instruction → Except LineFault Draft
  | .filter payload =>
    if draft.filter.isNone && draft.inFrontMatter then
      (globArgument .filter payload).map fun glob => { draft with filter := some glob }
    else
      .error (.unexpected .filter)
  | .files payload =>
    if draft.block = .idle then
      (globArgument .files payload).map fun glob => { draft with block := .files glob }
    else
      .error (.unexpected .files)
  | .search mode payload => draft.beginSearch mode payload
  | .replacement payload => draft.complete payload
  | .assign name value =>
    if draft.inFrontMatter then
      .ok { draft with table := draft.table.define name value }
    else
      .error .unexpectedVariable
  | .unrecognized => .error .unrecognized

def feed (draft : Draft) (number : Nat) (raw : Text) : Except ScriptError Draft :=
  let line := raw.trim
  if Instruction.isIgnorable line then
    .ok draft
  else
    (draft.accept (Instruction.ofLine line)).mapError fun fault => ⟨fault, number, line⟩

def feedAll (draft : Draft) : List (Nat × Text) → Except ScriptError Draft
  | [] => .ok draft
  | (number, raw) :: others =>
    match draft.feed number raw with
    | .ok next => next.feedAll others
    | .error e => .error e

def resolveCommand (table : VariableTable) (command : Command) : Command :=
  { command with search := table.resolve command.search }

/-- The finished script. Searches are resolved against the final variables; a block that is still
open is dropped. -/
def finish (draft : Draft) : ParsedScript :=
  { script :=
      { filter := draft.filter.getD everyFile
        commands := draft.commands.map (resolveCommand draft.table) }
    «variables» := draft.table }

end Draft

/-- Reads into the draft in place. What a fault leaves behind is the draft as it was when the fault
came up. -/
abbrev Drafting (ε α : Type) := ExceptT ε (StateM Draft) α

namespace Drafting

variable {ε : Type}

/-- Takes the block out of the draft and leaves it idle. -/
def takeBlock : Drafting ε Block :=
  modifyGet fun draft => (draft.block, { draft with block := .idle })

def putBlock (block : Block) : Drafting ε Unit := modify fun draft => { draft with block }

def beginSearch (mode : SearchMode) (pattern : Text) : Drafting LineFault Unit := do
  match ← takeBlock with
  | .idle => putBlock (.search none pattern mode)
  | .files glob => putBlock (.search (some glob) pattern mode)
  | .search files current currentMode =>
    putBlock (.search files current currentMode)
    throw (.unexpected mode.keyword)

/-- Closes the block and hands out its command. -/
def complete (replacement : Text) : Drafting LineFault Command := do
  match ← takeBlock with
  | .search files pattern mode => return ⟨files.getD everyFile, pattern, replacement, mode⟩
  | other =>
    putBlock other
    throw (.unexpected .replacement)

def accept : Instruction → Drafting LineFault Unit
  | .filter payload => do
    let draft ← get
    unless draft.filter.isNone && draft.inFrontMatter do
      throw (.unexpected .filter)
    let glob ← MonadExcept.ofExcept (Draft.globArgument .filter payload)
    modify fun draft => { draft with filter := some glob }
  | .files payload => do
    unless (← get).block = .idle do
      throw (.unexpected .files)
    let glob ← MonadExcept.ofExcept (Draft.globArgument .files payload)
    putBlock (.files glob)
  | .search mode payload => beginSearch mode payload
  | .replacement payload => do
    let command ← complete payload
    modify fun draft => { draft with commands := draft.commands ++ [command] }
  | .assign name value => do
    unless (← get).inFrontMatter do
      throw .unexpectedVariable
    modify fun draft => { draft with table := draft.table.define name value }
  | .unrecognized => throw .unrecognized

def feed (number : Nat) (raw : Text) : Drafting ScriptError Unit :=
  let line := raw.trim
  unless Instruction.isIgnorable line do
    (accept (Instruction.ofLine line)).adapt fun fault => ⟨fault, number, line⟩

end Drafting

namespace Draft

/-- The error of a refused line, or none. -/
def outcomeOf : Except ScriptError Unit → Option ScriptError
  | .ok _ => none
  | .error e => some e

/-- Reads every line in place, and goes on after a refused one from where the draft then stands. -/
def feedEach (draft : Draft) : List (Nat × Text) → Draft × List (Option ScriptError)
  | [] => (draft, [])
  | (number, raw) :: others =>
    let (outcome, next) := (Drafting.feed number raw).run.run draft
    let (last, outcomes) := next.feedEach others
    (last, outcomeOf outcome :: outcomes)

end Draft

def numberLines (lines : List Text) : List (Nat × Text) :=
  (lines.zipIdx 1).map fun (line, number) => (number, line)

def ParsedScript.parse (source : Text) : Except ScriptError ParsedScript :=
  (Draft.feedAll {} (numberLines source.lines)).map Draft.finish

end Sweep

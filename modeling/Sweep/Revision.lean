import Sweep.Error
import Sweep.Substitution

/-!
Texts of files under revision.

Commands apply in order, each to the text that the earlier ones left. The initial text stays beside
the current one, so that in the end only files that differ from it count as changed.
-/

namespace Sweep

/-- A command whose search has been compiled. -/
structure CompiledCommand where
  command : Command
  substitution : Substitution

def Command.compile (command : Command) : Except SweepError CompiledCommand :=
  match Substitution.ofSearch? command.search command.replacement command.mode with
  | some substitution =>
    if substitution.fits then .ok ⟨command, substitution⟩
    else .error (.invalidPattern command.search .tooLarge)
  | none => .error (.invalidPattern command.search (Regex.faultOf command.search))

/-- Compiles every command, up to the first one whose search is invalid. -/
def compileAll : List Command → Except SweepError (List CompiledCommand)
  | [] => .ok []
  | command :: others =>
    match command.compile with
    | .error e => .error e
    | .ok first => (compileAll others).map (first :: ·)

/-- The text of a file before and after the commands applied so far. -/
structure Revision where
  initial : Text
  current : Text
  deriving DecidableEq, Repr

/-- The revisions of a sweep. -/
structure RevisionSet where
  entries : PathMap Revision := {}
  deriving DecidableEq, Repr

namespace RevisionSet

def contains (set : RevisionSet) (p : Path) : Bool := set.entries.contains p

/-- Tracks a path from its text. Nothing changes if it is tracked. -/
def track (set : RevisionSet) (p : Path) (text : Text) : RevisionSet :=
  ⟨set.entries.insertNew p ⟨text, text⟩⟩

def current? (set : RevisionSet) (p : Path) : Option Text := (set.entries.get? p).map (·.current)

/-- Applies a command to a path that is tracked, and tells whether its text has changed. -/
def revise (set : RevisionSet) (p : Path) (command : CompiledCommand) : RevisionSet × Bool :=
  match set.current? p with
  | none => (set, false)
  | some text =>
    match command.substitution.replaceIn? text with
    | none => (set, false)
    | some changed =>
      if changed = text then (set, false)
      else (⟨set.entries.modify p fun r => { r with current := changed }⟩, true)

/-- The paths whose text differs from the initial one, with that text. -/
def changes (set : RevisionSet) : List (Path × Text) :=
  (set.entries.entries.filter fun (_, r) => r.current != r.initial).map fun (p, r) => (p, r.current)

/-- Applies a command to a path, tracking it first if its content is known. -/
def visit (contents : PathMap Text) (command : CompiledCommand) (set : RevisionSet) (p : Path) :
    RevisionSet :=
  if set.contains p then
    (set.revise p command).1
  else
    match contents.get? p with
    | some text => ((set.track p text).revise p command).1
    | none => set

/-- Applies each command to its paths, in order. Paths without a known content are passed over. -/
def reviseAll (contents : PathMap Text) (steps : List (CompiledCommand × List Path)) :
    RevisionSet :=
  steps.foldl (fun set (command, paths) => paths.foldl (visit contents command) set) {}

end RevisionSet

end Sweep

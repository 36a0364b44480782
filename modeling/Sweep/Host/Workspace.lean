import Sweep.Configuration.Basic
import Sweep.Glob.Any
import Sweep.Host.Basic
import Sweep.Machine.Basic

/-!
Workspaces: the files of a machine below a root directory.

A glob selects a file by its path below the root or by its absolute path. Excluded files are never
selected; excludes look only at the path below the root. In a dry run nothing is written.
-/

namespace Sweep

variable {m : Type → Type} [Monad m]

/-- Where a script comes from. -/
inductive ScriptSource where
  | file (p : Path)
  | text (t : Text)
  deriving DecidableEq, Repr

def ScriptSource.read (machine : Machine m) : ScriptSource → m (Except HostError Text)
  | .text t => pure (.ok t)
  | .file p => do
    match ← machine.readText p with
    | .ok source => pure (.ok source)
    | .error fault =>
      pure (.error (.scriptUnavailable
        ("Could not read script ".toList ++ p.text ++ ": ".toList ++ fault.message)))

/-- A root directory with a script for the files below it. -/
structure Workspace where
  root : Location
  script : ScriptSource
  excludes : List Glob := []
  dryRun : Bool := false
  deriving DecidableEq, Repr

namespace Workspace

/-- Opens a workspace. Its root must be there, and the excludes must be valid globs. -/
def open? (machine : Machine m) (root : Path) (script : ScriptSource) (c : Configuration) :
    m (Except HostError Workspace) := do
  match ← machine.resolve root with
  | .error fault => pure (.error (.file root fault))
  | .ok l =>
    match Glob.compileAll c.exclude with
    | .error e => pure (.error (.invalidGlob e))
    | .ok excludes => pure (.ok ⟨l, script, excludes, c.dryRun⟩)

/-- The absolute path of a file below the root. -/
def pathOf (w : Workspace) (file : Location) : Path := Location.path (w.root ++ file)

def selects (w : Workspace) (g : Glob) (file : Location) : Bool :=
  !Glob.anyMatches w.excludes file.text &&
    (g.isMatch file.text || g.isMatch (w.pathOf file).text)

def find (machine : Machine m) (w : Workspace) (pattern : Text) :
    m (Except (Failure HostError) (List Path)) :=
  match Glob.compile pattern with
  | .error failure => pure (.error (failure.map .invalidGlob))
  | .ok g => do
    let files ← machine.filesUnder w.root
    pure (.ok (sortPaths ((files.filter (w.selects g)).map w.pathOf)))

def read (machine : Machine m) (p : Path) : m (Except HostError Text) := do
  let text ← machine.readText p
  pure (text.mapError fun fault => .file p fault)

def write (machine : Machine m) (w : Workspace) (p : Path) (text : Text) :
    m (Except HostError Unit) :=
  if w.dryRun then pure (.ok ())
  else do
    let result ← machine.write p text.bytes
    pure (result.mapError fun fault => .file p fault)

def errorLine (message : Text) : Text := "Error: ".toList ++ message ++ ['\n']

def infoLine (w : Workspace) (message : Text) : Text :=
  message ++ (if w.dryRun then " (dry run)\n".toList else ['\n'])

def host (machine : Machine m) (w : Workspace) : Host m where
  isWritable := machine.isWritable w.root
  script := w.script.read machine
  find := find machine w
  read := read machine
  write := write machine w
  reportError message := machine.printError (errorLine message)
  reportInfo message := machine.print (w.infoLine message)

end Workspace

end Sweep

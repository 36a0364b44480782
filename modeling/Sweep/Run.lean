import Sweep.Host.Basic
import Sweep.Revision
import Sweep.Script.Draft

/-!
Sweeps: running a script on the files of a host.

All searches are compiled before a file is touched, all files are selected before one is read, and
all are read before one is written. Each file is read at most once, and only files that change are
written.
-/

namespace Sweep

/-- What a sweep has written, in order. -/
structure Summary where
  modified : List Path := []
  deriving DecidableEq, Repr

def Summary.message (summary : Summary) : Text :=
  "Batch replace completed: ".toList ++ Text.ofNat summary.modified.length ++
    " file(s) modified.".toList

namespace Sweeper

variable {m : Type → Type} [Monad m]

abbrev Step (m : Type → Type) (α : Type) := ExceptT (Failure SweepError) m α

def ofExcept (result : Except SweepError α) : Step m α :=
  ExceptT.mk (pure (result.mapError .error))

def call (effect : m (Except HostError α)) : Step m α :=
  ExceptT.mk ((fun result => result.mapError fun e => .error (.host e)) <$> effect)

def lookUp (host : Host m) (pattern : Text) : Step m (List Path) :=
  ExceptT.mk ((fun result => result.mapError (Failure.map SweepError.host)) <$> host.find pattern)

/-- The files of each command: those that its own glob selects among the filtered ones. -/
def selectAll (host : Host m) (filtered : List Path) :
    List CompiledCommand → Step m (List (List Path))
  | [] => pure []
  | command :: others => do
    let found ← lookUp host command.command.files
    let rest ← selectAll host filtered others
    pure (found.filter (fun p => p.isIn filtered) :: rest)

def readAll (host : Host m) : List Path → PathMap Text → Step m (PathMap Text)
  | [], texts => pure texts
  | p :: others, texts =>
    if texts.contains p then
      readAll host others texts
    else do
      let text ← call (host.read p)
      readAll host others (texts.insert p text)

def writeAll (host : Host m) : List (Path × Text) → Step m Unit
  | [] => pure ()
  | (p, text) :: others => do
    call (host.write p text)
    writeAll host others

def run (host : Host m) (script : Script) : Step m Summary := do
  let commands ← ofExcept (compileAll script.commands)
  let filtered ← lookUp host script.filter
  let targets ← selectAll host filtered commands
  let contents ← readAll host targets.flatten {}
  let changes := (RevisionSet.reviseAll contents (commands.zip targets)).changes
  writeAll host changes
  pure ⟨changes.map (·.1)⟩

def loadAndRun (host : Host m) : Step m Summary := do
  let writable ← ExceptT.lift host.isWritable
  if writable then
    let source ← call host.script
    let parsed ← ofExcept ((ParsedScript.parse source).mapError SweepError.script)
    run host parsed.script
  else
    throw (.error .noWritableTarget)

/-- Runs the script of the host, and reports the summary or the error to it. A panic ends the
program before anything is reported. -/
def sweep (host : Host m) : m (Except (Failure SweepError) Summary) := do
  let result ← (loadAndRun host).run
  match result with
  | .ok summary => host.reportInfo summary.message
  | .error (.error e) => host.reportError e.message
  | .error .panic => pure ()
  pure result

end Sweeper

end Sweep

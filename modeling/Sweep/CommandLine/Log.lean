import Sweep.Machine.Basic

/-!
The log file.
-/

namespace Sweep.CommandLine

variable {m : Type → Type} [Monad m]

structure LogFile where
  directory : Path
  file : Path
  deriving DecidableEq, Repr

/-- The log file that a path stands for. A path that does not end in a name stands for the directory
of a file of the usual name. -/
def LogFile.of (p : Path) : LogFile :=
  let front := Path.ofComponents p.components.dropLast
  let name := match p.components.getLast? with
    | some (.normal name) => name
    | _ => "batchrep.log".toList
  ⟨front, front.join name⟩

/-- Makes the file, which must not be there yet, and the directories on the way to it. -/
def LogFile.create (machine : Machine m) (log : LogFile) : m (Except FileFault Unit) := do
  match ← machine.write log.file [] with
  | .ok () => pure (.ok ())
  | .error _ =>
    match ← machine.createDirectories log.directory with
    | .ok () => machine.write log.file []
    | .error fault => pure (.error fault)

def LogFile.ensure (machine : Machine m) (log : LogFile) : m (Except FileFault Unit) := do
  match ← machine.read log.file with
  | .ok _ => pure (.ok ())
  | .error _ => log.create machine

end Sweep.CommandLine

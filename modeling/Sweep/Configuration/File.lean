import Sweep.Configuration.Basic
import Sweep.Machine.Basic

/-!
The file that settings are kept in.
-/

namespace Sweep.Configuration

variable {m : Type → Type} [Monad m]

/-- The directory below a home directory that holds the settings. -/
def directoryIn (home : Path) : Path := home.join ".batchrep".toList

def fileIn (home : Path) : Path := (directoryIn home).join "config.json".toList

/-- The settings in a file, or the defaults if it cannot be read. -/
def loadFrom (machine : Machine m) (p : Path) : m Configuration := do
  match ← machine.read p with
  | .ok content => pure (load (some content))
  | .error _ => pure (load none)

/-- The settings of a user, or the defaults if there is no home directory. -/
def loadIn (machine : Machine m) : Option Path → m Configuration
  | some home => loadFrom machine (fileIn home)
  | none => pure (load none)

def saveTo (machine : Machine m) (c : Configuration) (p : Path) : m (Except FileFault Unit) :=
  machine.write p c.render.bytes

def saveIn (machine : Machine m) (c : Configuration) (home : Path) :
    m (Except FileFault Unit) := do
  match ← machine.createDirectories (directoryIn home) with
  | .ok () => c.saveTo machine (fileIn home)
  | .error fault => pure (.error fault)

end Sweep.Configuration

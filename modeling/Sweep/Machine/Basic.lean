import Sweep.FileTree

/-!
What the program needs from the machine it runs on.
-/

namespace Sweep

/-- Files and streams. Everything a machine does happens in the monad `m`. -/
structure Machine (m : Type → Type) where
  resolve : Path → m (Except FileFault Location)
  /-- Whether there is a directory that is not marked as read-only. -/
  isWritable : Location → m Bool
  /-- The files below a location, without the names that lead to it. -/
  filesUnder : Location → m (List Location)
  read : Path → m (Except FileFault Bytes)
  write : Path → Bytes → m (Except FileFault Unit)
  /-- Makes a directory and those on the way to it, unless they are there. -/
  createDirectories : Path → m (Except FileFault Unit)
  input : m Bytes
  print : Text → m Unit
  printError : Text → m Unit

namespace Machine

variable {m : Type → Type} [Monad m]

def readText (machine : Machine m) (p : Path) : m (Except FileFault Text) := do
  match ← machine.read p with
  | .error fault => pure (.error fault)
  | .ok bytes =>
    match Bytes.text? bytes with
    | some text => pure (.ok text)
    | none => pure (.error .notText)

end Machine

end Sweep

import Sweep.Machine.Basic

/-!
A machine held in memory.
-/

namespace Sweep

/-- The state of a machine in memory: its files, what is left to read and what has been printed. -/
structure MemoryMachine where
  tree : FileTree := {}
  input : Bytes := []
  output : Text := []
  errors : Text := []
  deriving DecidableEq, Repr

namespace MemoryMachine

def change (f : FileTree → Except FileFault FileTree) :
    StateM MemoryMachine (Except FileFault Unit) := fun s =>
  match f s.tree with
  | .ok tree => (.ok (), { s with tree })
  | .error fault => (.error fault, s)

def machine : Machine (StateM MemoryMachine) where
  resolve p s := (s.tree.resolve p, s)
  isWritable l s := (s.tree.isWritableDirectory l, s)
  filesUnder l s := (s.tree.filesUnder l, s)
  read p s := (s.tree.read p, s)
  write p content := change fun tree => tree.write p content
  createDirectories p := change fun tree => tree.createDirectories p
  input s := (s.input, { s with input := [] })
  print text s := ((), { s with output := s.output ++ text })
  printError text s := ((), { s with errors := s.errors ++ text })

end MemoryMachine

end Sweep

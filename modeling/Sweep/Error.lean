import Sweep.Glob.Compile
import Sweep.Path
import Sweep.Regex.Fault
import Sweep.Script.Error

/-!
Everything that can end a sweep, what the user is told, and the exit code of the program.
-/

namespace Sweep

/-- Why a file cannot be found, read or written. -/
inductive FileFault where
  | missing
  | isDirectory
  | notDirectory
  | alreadyExists
  | nameTooLong
  | tooManyLinks
  /-- A name holds a NUL character, which would end the path where the system reads it. -/
  | nulInName
  | notText
  | denied
  | other (message : Text)
  deriving DecidableEq, Repr

def FileFault.message : FileFault → Text
  | .missing => "No such file or directory (os error 2)".toList
  | .isDirectory => "Is a directory (os error 21)".toList
  | .notDirectory => "Not a directory (os error 20)".toList
  | .alreadyExists => "File exists (os error 17)".toList
  | .nameTooLong => "File name too long (os error 36)".toList
  | .tooManyLinks => "Too many levels of symbolic links (os error 40)".toList
  | .nulInName => "file name contained an unexpected NUL byte".toList
  | .notText => "stream did not contain valid UTF-8".toList
  | .denied => "permission denied".toList
  | .other message => message

/-- What a host cannot do. -/
inductive HostError where
  | scriptUnavailable (message : Text)
  | invalidGlob (e : GlobError)
  | notFound (p : Path)
  | file (p : Path) (fault : FileFault)
  deriving DecidableEq, Repr

def HostError.message : HostError → Text
  | .scriptUnavailable message => message
  | .invalidGlob e =>
    "Invalid file pattern '".toList ++ e.pattern ++ "': ".toList ++ e.fault.reason
  | .notFound p => "File not found: ".toList ++ p.text
  | .file p fault => "IO error on ".toList ++ p.text ++ ": ".toList ++ fault.message

/-- What ends a sweep before it is complete. -/
inductive SweepError where
  | noWritableTarget
  | script (e : ScriptError)
  | invalidPattern (pattern : Text) (fault : Regex.Fault)
  | host (e : HostError)
  deriving DecidableEq, Repr

def SweepError.message : SweepError → Text
  | .noWritableTarget => "No writable target to apply changes to".toList
  | .script e => e.message
  | .invalidPattern pattern fault =>
    "Invalid pattern '".toList ++ pattern ++ "': ".toList ++ fault.message
  | .host e => e.message

def SweepError.exitCode : SweepError → Nat
  | .invalidPattern _ _ => 1
  | .script _ => 2
  | .noWritableTarget => 3
  | .host (.scriptUnavailable _) => 3
  | .host _ => 4

/-- The exit code of the program after a panic. -/
def panicCode : Nat := 101

def Failure.exitCode : Failure SweepError → Nat
  | .error e => e.exitCode
  | .panic => panicCode

end Sweep

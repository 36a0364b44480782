import Sweep.Error

/-!
What a sweep needs from its surroundings.
-/

namespace Sweep

/-- Where files and the script come from, and where messages go. Everything it does happens in the
monad `m`. -/
structure Host (m : Type → Type) where
  /-- Whether there is a place that changes could be written to. -/
  isWritable : m Bool
  script : m (Except HostError Text)
  find : Text → m (Except (Failure HostError) (List Path))
  read : Path → m (Except HostError Text)
  write : Path → Text → m (Except HostError Unit)
  reportError : Text → m Unit
  reportInfo : Text → m Unit

def selectPaths (pattern : Text) (paths : List Path) (matched : Glob → Path → Bool) :
    Except (Failure HostError) (List Path) :=
  match Glob.compile pattern with
  | .ok g => .ok (paths.filter (matched g))
  | .error failure => .error (failure.map .invalidGlob)

end Sweep

import Sweep.Host.Basic

/-!
A host whose files are held in memory. It notes what is read, written and reported.
-/

namespace Sweep

/-- The state of a host in memory. -/
structure MemoryHost where
  script : Option Text := none
  writable : Bool := true
  files : PathMap Text := {}
  failingReads : List Path := []
  failingWrites : List Path := []
  /-- What was written last to each file that was written. -/
  written : PathMap Text := {}
  /-- Every attempt to read a file, in order. -/
  reads : List Path := []
  errors : List Text := []
  infos : List Text := []
  deriving DecidableEq, Repr

namespace MemoryHost

def find (h : MemoryHost) (pattern : Text) : Except (Failure HostError) (List Path) :=
  selectPaths pattern h.files.keys fun g p => g.isMatch p.text

def textOf (h : MemoryHost) (p : Path) : Except HostError Text :=
  if p.isIn h.failingReads then .error (.file p .denied)
  else
    match h.files.get? p with
    | some text => .ok text
    | none => .error (.notFound p)

def readCount (h : MemoryHost) (p : Path) : Nat := h.reads.countP fun q => q.same p

def read (p : Path) : StateM MemoryHost (Except HostError Text) := fun h =>
  (h.textOf p, { h with reads := h.reads ++ [p] })

def write (p : Path) (text : Text) : StateM MemoryHost (Except HostError Unit) := fun h =>
  if p.isIn h.failingWrites then (.error (.file p .denied), h)
  else (.ok (), { h with files := h.files.insert p text, written := h.written.insert p text })

def scriptText (h : MemoryHost) : Except HostError Text :=
  match h.script with
  | some text => .ok text
  | none => .error (.scriptUnavailable "No script text available".toList)

def host : Host (StateM MemoryHost) where
  isWritable h := (h.writable, h)
  script h := (h.scriptText, h)
  find pattern h := (h.find pattern, h)
  read := read
  write := write
  reportError message h := ((), { h with errors := h.errors ++ [message] })
  reportInfo message h := ((), { h with infos := h.infos ++ [message] })

end MemoryHost

end Sweep

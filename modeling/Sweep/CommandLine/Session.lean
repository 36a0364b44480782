import Sweep.CommandLine.Arguments
import Sweep.CommandLine.Log
import Sweep.CommandLine.Plan
import Sweep.Configuration.File
import Sweep.Run

/-!
What the program does once its arguments are read, up to the exit code.

A check reads and compiles a script as a sweep does, and touches no other file.
-/

namespace Sweep.CommandLine

variable {m : Type → Type} [Monad m]

/-- The source of the script. The standard input is read at once, a file only when the script is
needed. -/
def sourceOf (machine : Machine m) : Option Path → m (Except HostError ScriptSource)
  | some p => pure (.ok (.file p))
  | none => do
    match Bytes.text? (← machine.input) with
    | some t => pure (.ok (.text t))
    | none =>
      pure (.error (.scriptUnavailable
        ("Could not read script from stdin: ".toList ++ FileFault.notText.message)))

def fail (machine : Machine m) (e : SweepError) : m Nat := do
  machine.printError (Workspace.errorLine e.message)
  pure e.exitCode

/-- The settings of a run: those of the configuration, and more excludes and a dry run if the
options say so. -/
def settingsOf (c : Configuration) (o : Options) : Configuration :=
  { exclude := c.exclude ++ o.exclude, dryRun := c.dryRun || o.dryRun }

/-- Runs a script on the files below the root. The host reports what comes of it. -/
def run (machine : Machine m) (c : Configuration) (o : Options) : m Nat := do
  match ← sourceOf machine o.script with
  | .error e => fail machine (.host e)
  | .ok source =>
    let root := o.root.getD ⟨['.']⟩
    match ← Workspace.open? machine root source (settingsOf c o) with
    | .error e => fail machine (.host e)
    | .ok w =>
      match ← Sweeper.sweep (w.host machine) with
      | .ok _ => pure 0
      | .error failure => pure failure.exitCode

def scriptText (machine : Machine m) (script : Option Path) : m (Except HostError Text) := do
  match ← sourceOf machine script with
  | .error e => pure (.error e)
  | .ok source => source.read machine

def check (machine : Machine m) (o : Options) : m Nat := do
  match ← scriptText machine o.script with
  | .error e => fail machine (.host e)
  | .ok source =>
    match review source with
    | .error e => fail machine e
    | .ok parsed => do
      machine.print (plan parsed)
      pure 0

def perform (machine : Machine m) (home : Option Path) (action : Action) (o : Options) :
    m Nat := do
  let logged ← match o.logFile with
    | some p => (LogFile.of p).ensure machine
    | none => pure (.ok ())
  match logged with
  | .error fault => do
    let message := "Could not open the log file: ".toList ++ fault.message
    machine.printError (Workspace.errorLine message)
    pure panicCode
  | .ok () =>
    let c ← match o.config with
      | some p => Configuration.loadFrom machine p
      | none => Configuration.loadIn machine home
    match action with
    | .run => run machine c o
    | .check => check machine o

end Sweep.CommandLine

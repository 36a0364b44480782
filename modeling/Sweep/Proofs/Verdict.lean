import Sweep.CommandLine.Session
import Sweep.Proofs.DryRun

/-!
# What a check says about a run

A check reads, parses and compiles a script. A run on a directory comes through the same verdict on
the script before it looks at any file. So it fails as the check does, and once the check succeeds
all that is left to fail are the globs, which a check does not compile, and the work on the files.
-/

namespace Sweep

open Sweeper

/-! ### The failures of a sweep -/

namespace Sweeper

variable {σ α β : Type} {P : Failure SweepError → Prop}

/-- From any state the step fails, if at all, in one of some ways. -/
def FailsOnly (P : Failure SweepError → Prop) (step : Step (StateM σ) α) : Prop :=
  ∀ state e, (Step.on step state).1 = .error e → P e

namespace FailsOnly

theorem pure (a : α) : FailsOnly P (Pure.pure a : Step (StateM σ) α) := by
  intro state e h
  cases h

theorem call {effect : StateM σ (Except HostError α)}
    (h : ∀ state e, (effect state).1 = .error e → P (.error (.host e))) :
    FailsOnly P (Sweeper.call effect) := by
  intro state e he
  rw [Step.on_call] at he
  obtain ⟨e, heffect, rfl⟩ := mapError_eq_error_iff.1 he
  exact h state e heffect

theorem bind {step : Step (StateM σ) α} (h : FailsOnly P step) {next : α → Step (StateM σ) β}
    (hnext : ∀ a, FailsOnly P (next a)) : FailsOnly P (step >>= next) := by
  intro state e he
  rw [Step.on_bind] at he
  cases hstep : Step.on step state with
  | mk result state' =>
      rw [hstep] at he
      cases result with
      | ok a => exact hnext a state' e he
      | error e' =>
          obtain rfl : e' = e := Except.error.inj he
          exact h state e' (by rw [hstep])

variable {host : Host (StateM σ)}

theorem selectAll (hfind : ∀ pattern, globFault? pattern = none → FailsOnly P (lookUp host pattern))
    (filtered : List Path) {commands : List CompiledCommand}
    (h : commands.findSome? (fun c => globFault? c.command.files) = none) :
    FailsOnly P (Sweeper.selectAll host filtered commands) := by
  induction commands with
  | nil => exact pure []
  | cons command others ih =>
      obtain ⟨hfirst, hothers⟩ := List.forall_mem_cons.1 (List.findSome?_eq_none_iff.1 h)
      rw [Sweeper.selectAll]
      exact (hfind _ hfirst).bind fun found =>
        (ih (List.findSome?_eq_none_iff.2 hothers)).bind fun rest => pure _

theorem readAll (hread : ∀ p, FailsOnly P (Sweeper.call (host.read p))) (paths : List Path)
    (texts : PathMap Text) : FailsOnly P (Sweeper.readAll host paths texts) := by
  induction paths generalizing texts with
  | nil => exact pure texts
  | cons p others ih =>
      rw [Sweeper.readAll]
      split
      · exact ih texts
      · exact (hread p).bind fun text => ih _

theorem writeAll (hwrite : ∀ p t, FailsOnly P (Sweeper.call (host.write p t)))
    (changes : List (Path × Text)) : FailsOnly P (Sweeper.writeAll host changes) := by
  induction changes with
  | nil => exact pure ()
  | cons change others ih =>
      rw [Sweeper.writeAll]
      exact (hwrite _ _).bind fun _ => ih

/-- A script that is compiled, with its globs, fails only where the host does. -/
theorem run {script : Script} (hfault : script.fault? = none)
    (hfind : ∀ pattern, globFault? pattern = none → FailsOnly P (lookUp host pattern))
    (hread : ∀ p, FailsOnly P (Sweeper.call (host.read p)))
    (hwrite : ∀ p t, FailsOnly P (Sweeper.call (host.write p t))) :
    FailsOnly P (Sweeper.run host script) := by
  obtain ⟨hsearch, hfilter, hglobs⟩ := Script.fault?_eq_none_iff.1 hfault
  obtain ⟨compiled, hcompiled, hcommands, -⟩ := compileAll_of_no_fault hsearch
  rw [← hcommands, List.findSome?_map] at hglobs
  intro state e he
  rw [Sweeper.run, Step.on_bind, Step.on_ofExcept, hcompiled] at he
  refine (hfind _ hfilter).bind (fun filtered => ?_) state e he
  refine (selectAll hfind filtered hglobs).bind fun targets => ?_
  refine (readAll hread targets.flatten {}).bind fun contents => ?_
  exact (writeAll hwrite _).bind fun _ => pure _

end FailsOnly

end Sweeper

namespace Workspace

variable {σ : Type} (machine : Machine (StateM σ)) (w : Workspace)

end Workspace

/-! ### The verdict on a script -/

namespace ScriptSource

variable {tree : FileTree} {source : ScriptSource}

end ScriptSource

namespace Workspace

variable {w : Workspace} {s : MemoryMachine} {refusal? : Path → Option FileFault}

theorem on_loadAndRun (w : Workspace) (s : MemoryMachine) (refusal? : Path → Option FileFault)
    (hroot : s.tree.isWritableDirectory w.root = true) :
    Step.on (loadAndRun (w.host (MemoryMachine.refusing refusal?))) s =
      match w.script.textOn s.tree with
      | .error e => (.error (.error (.host e)), s)
      | .ok source =>
        match ParsedScript.parse source with
        | .error e => (.error (.error (.script e)), s)
        | .ok parsed =>
          Step.on (run (w.host (MemoryMachine.refusing refusal?)) parsed.script) s := by
  have hwritable : (w.host (MemoryMachine.refusing refusal?)).isWritable s =
      (s.tree.isWritableDirectory w.root, s) := rfl
  have hscript : (w.host (MemoryMachine.refusing refusal?)).script s =
      (w.script.textOn s.tree, s) := w.script.read_eq s
  rw [Sweeper.on_loadAndRun, hwritable, hroot]
  simp only [hscript]
  cases w.script.textOn s.tree with
  | error e => rfl
  | ok source => rfl

variable {parsed : ParsedScript}

end Workspace

/-! ### Checks and runs -/

namespace CommandLine

variable {s : MemoryMachine} {refusal? : Path → Option FileFault}

section Run

variable {c : Configuration} {o : Options} {root : Location} {excludes : List Glob}
  (hresolve : s.tree.resolve (o.root.getD ⟨['.']⟩) = .ok root)
  (hroot : s.tree.isWritableDirectory root = true)
  (hexcludes : Glob.compileAll (settingsOf c o).exclude = .ok excludes)

include hresolve hroot hexcludes

end Run

def withoutA : Configuration := ⟨[['a']], false⟩

end CommandLine

end Sweep

import Sweep.Proofs.Phases

/-!
# Recording what is read

Any host can be watched: beside its state stands a record of the paths that a sweep tries to read.
Watching a sweep changes neither how it ends nor what it leaves behind.
-/

namespace Sweep

open Sweeper

variable {σ α β : Type}

def beside (effect : StateM σ α) : StateM (σ × List Path) α := fun s =>
  ((effect s.1).1, (effect s.1).2, s.2)

/-- The host with a record of the paths that were to be read, in order. -/
def Host.recording (host : Host (StateM σ)) : Host (StateM (σ × List Path)) where
  isWritable := beside host.isWritable
  script := beside host.script
  find pattern := beside (host.find pattern)
  read p := fun s => ((host.read p s.1).1, (host.read p s.1).2, s.2 ++ [p])
  write p t := beside (host.write p t)
  reportError message := beside (host.reportError message)
  reportInfo message := beside (host.reportInfo message)

/-- A watched step ends like the step itself, with a longer record. -/
def Records (watched : Step (StateM (σ × List Path)) α) (step : Step (StateM σ) α) : Prop :=
  ∀ state read, ∃ more,
    Step.on watched (state, read) = ((Step.on step state).1, (Step.on step state).2, read ++ more)

namespace Records

theorem of_eq {watched : Step (StateM (σ × List Path)) α} {step : Step (StateM σ) α}
    (h : ∀ state read,
      Step.on watched (state, read) = ((Step.on step state).1, (Step.on step state).2, read)) :
    Records watched step := fun state read => ⟨[], by rw [h, List.append_nil]⟩

theorem on_eq {watched : Step (StateM (σ × List Path)) α} {step : Step (StateM σ) α}
    (h : Records watched step) {state state' : σ} {read read' : List Path}
    {result : Except (Failure SweepError) α}
    (hwatched : Step.on watched (state, read) = (result, state', read')) :
    Step.on step state = (result, state') := by
  obtain ⟨more, hmore⟩ := h state read
  rw [hwatched] at hmore
  obtain ⟨hresult, hrest⟩ := Prod.mk.inj hmore
  rw [hresult, (Prod.mk.inj hrest).1]

theorem pure (a : α) :
    Records (Pure.pure a : Step (StateM (σ × List Path)) α) (Pure.pure a : Step (StateM σ) α) :=
  of_eq fun _ _ => rfl

theorem ofExcept (result : Except SweepError α) :
    Records (Sweeper.ofExcept result : Step (StateM (σ × List Path)) α)
      (Sweeper.ofExcept result : Step (StateM σ) α) :=
  of_eq fun _ _ => rfl

theorem call_beside (effect : StateM σ (Except HostError α)) :
    Records (call (beside effect)) (call effect) :=
  of_eq fun _ _ => rfl

theorem lookUp (host : Host (StateM σ)) (pattern : Text) :
    Records (Sweeper.lookUp host.recording pattern) (Sweeper.lookUp host pattern) :=
  of_eq fun _ _ => rfl

theorem call_read (host : Host (StateM σ)) (p : Path) :
    Records (call (host.recording.read p)) (call (host.read p)) := fun _ _ => ⟨[p], rfl⟩

theorem bind {watched : Step (StateM (σ × List Path)) α} {step : Step (StateM σ) α}
    (h : Records watched step) {watchedNext : α → Step (StateM (σ × List Path)) β}
    {next : α → Step (StateM σ) β} (hnext : ∀ a, Records (watchedNext a) (next a)) :
    Records (watched >>= watchedNext) (step >>= next) := by
  intro state read
  obtain ⟨more, hmore⟩ := h state read
  rw [Step.on_bind, Step.on_bind, hmore]
  cases hstep : Step.on step state with
  | mk result state' =>
      cases result with
      | error e => exact ⟨more, rfl⟩
      | ok a =>
          obtain ⟨evenMore, hmore'⟩ := hnext a state' (read ++ more)
          exact ⟨more ++ evenMore, hmore'.trans (by rw [List.append_assoc])⟩

variable (host : Host (StateM σ))

theorem selectAll (filtered : List Path) (commands : List CompiledCommand) :
    Records (Sweeper.selectAll host.recording filtered commands)
      (Sweeper.selectAll host filtered commands) := by
  induction commands with
  | nil => exact pure []
  | cons command others ih =>
      rw [Sweeper.selectAll, Sweeper.selectAll]
      refine (lookUp host _).bind fun found => ih.bind fun rest => ?_
      exact pure _

theorem readAll (paths : List Path) (texts : PathMap Text) :
    Records (Sweeper.readAll host.recording paths texts) (Sweeper.readAll host paths texts) := by
  induction paths generalizing texts with
  | nil => exact pure texts
  | cons p others ih =>
      rw [Sweeper.readAll, Sweeper.readAll]
      split
      · exact ih texts
      · exact (call_read host p).bind fun text => ih (texts.insert p text)

theorem writeAll (changes : List (Path × Text)) :
    Records (Sweeper.writeAll host.recording changes) (Sweeper.writeAll host changes) := by
  induction changes with
  | nil => exact pure ()
  | cons change others ih =>
      rw [Sweeper.writeAll, Sweeper.writeAll]
      exact (call_beside _).bind fun _ => ih

theorem run (script : Script) : Records (Sweeper.run host.recording script)
    (Sweeper.run host script) := by
  rw [Sweeper.run, Sweeper.run]
  refine (ofExcept _).bind fun commands => (lookUp host _).bind fun filtered => ?_
  refine (selectAll host filtered commands).bind fun targets => ?_
  refine (readAll host targets.flatten {}).bind fun contents => ?_
  exact (writeAll host _).bind fun _ => pure _

end Records

end Sweep

import Mathlib.Data.List.Basic
import Sweep.Proofs.Snapshot

/-!
# The phases of a sweep

A host that shows a snapshot lets a sweep look through it: selecting leaves the state alone, and
reading leaves a trace of the paths read. The sweep then fails with the first fault of the
snapshot, or reads the files it needs once and goes on to write the changes.
-/

namespace Sweep

section MapError

variable {α ε ε' : Type} {result : Except ε α} {f : ε → ε'}

theorem mapError_eq_ok_iff {a : α} : result.mapError f = .ok a ↔ result = .ok a := by
  cases result <;> simp [Except.mapError]

theorem mapError_eq_error_iff {e' : ε'} :
    result.mapError f = .error e' ↔ ∃ e, result = .error e ∧ f e = e' := by
  cases result <;> simp [Except.mapError]

end MapError

theorem bind_of_eq {σ α β : Type} {effect : StateM σ α} {state state' : σ} {a : α}
    (h : effect state = (a, state')) (next : α → StateM σ β) :
    (effect >>= next) state = next a state' := by
  change next (effect state).1 (effect state).2 = _
  rw [h]

namespace Sweeper

variable {σ α β : Type}

/-- A step of a sweep from a state: how it ends and in which state. -/
def Step.on (step : Step (StateM σ) α) (state : σ) : Except (Failure SweepError) α × σ :=
  step.run.run state

theorem Step.on_bind (step : Step (StateM σ) α) (next : α → Step (StateM σ) β) (state : σ) :
    Step.on (step >>= next) state =
      match step.on state with
      | (.ok a, state) => Step.on (next a) state
      | (.error e, state) => (.error e, state) := by
  change (ExceptT.bindCont next (step state).1) (step state).2 = _
  unfold Step.on
  change _ = match step state with
    | (.ok a, state) => Step.on (next a) state
    | (.error e, state) => (.error e, state)
  cases step state with
  | mk result state =>
      cases result with
      | ok a => rfl
      | error e => rfl

@[simp]
theorem Step.on_pure (a : α) (state : σ) :
    Step.on (pure a : Step (StateM σ) α) state = (.ok a, state) := rfl

@[simp]
theorem Step.on_ofExcept (result : Except SweepError α) (state : σ) :
    Step.on (ofExcept result : Step (StateM σ) α) state = (result.mapError .error, state) := rfl

theorem Step.on_call (effect : StateM σ (Except HostError α)) (state : σ) :
    Step.on (call effect) state =
      ((effect state).1.mapError fun e => .error (.host e), (effect state).2) := rfl

theorem Step.on_lookUp (host : Host (StateM σ)) (pattern : Text) (state : σ) :
    Step.on (lookUp host pattern) state =
      ((host.find pattern state).1.mapError (Failure.map SweepError.host),
        (host.find pattern state).2) := rfl

end Sweeper

open Sweeper

/-- From a state a host finds the files that globs select, and the state stays. -/
def LooksUp {σ : Type} (host : Host (StateM σ)) (selected : Text → List Path) (state : σ) : Prop :=
  ∀ pattern, host.find pattern state =
    (match Glob.compile pattern with
      | .ok _ => .ok (selected pattern)
      | .error failure => .error (failure.map .invalidGlob),
    state)

namespace LooksUp

variable {σ : Type} {host : Host (StateM σ)} {selected : Text → List Path} {state : σ}

theorem on_lookUp_of_fault (H : LooksUp host selected state) {pattern : Text}
    {failure : Failure SweepError} (h : globFault? pattern = some failure) :
    Step.on (lookUp host pattern) state = (.error failure, state) := by
  obtain ⟨failure, hcompile, rfl⟩ := globFault?_eq_some_iff.1 h
  rw [Step.on_lookUp, H, hcompile]
  cases failure <;> rfl

theorem on_lookUp_of_no_fault (H : LooksUp host selected state) {pattern : Text}
    (h : globFault? pattern = none) :
    Step.on (lookUp host pattern) state = (.ok (selected pattern), state) := by
  obtain ⟨g, hcompile⟩ := globFault?_eq_none_iff.1 h
  rw [Step.on_lookUp, H, hcompile]
  rfl

theorem on_selectAll_of_fault (H : LooksUp host selected state) {commands : List CompiledCommand}
    {e : Failure SweepError} (h : commands.findSome? (fun c => globFault? c.command.files) = some e)
    (filtered : List Path) :
    Step.on (selectAll host filtered commands) state = (.error e, state) := by
  induction commands with
  | nil => cases h
  | cons command others ih =>
      rw [List.findSome?_cons] at h
      rw [selectAll, Step.on_bind]
      cases hglob : globFault? command.command.files with
      | some e' =>
          rw [hglob] at h
          rw [H.on_lookUp_of_fault hglob, ← Option.some.inj h]
      | none =>
          rw [hglob] at h
          rw [H.on_lookUp_of_no_fault hglob]
          simp only
          rw [Step.on_bind, ih h]

/-- What is wrong with the searches and globs of a script ends its sweep before a file is read. -/
theorem on_run_of_fault (H : LooksUp host selected state) {script : Script}
    {e : Failure SweepError} (h : script.fault? = some e) :
    Step.on (run host script) state = (.error e, state) := by
  rw [Script.fault?] at h
  cases hsearch : script.commands.findSome? Command.searchFault? with
  | some e' =>
      rw [hsearch] at h
      rw [run, Step.on_bind, Step.on_ofExcept, compileAll_of_fault hsearch, ← Option.some.inj h]
      rfl
  | none =>
  rw [hsearch, Option.map_none, Option.none_or] at h
  obtain ⟨compiled, hcompiled, hcommands, -⟩ := compileAll_of_no_fault hsearch
  rw [run, Step.on_bind, Step.on_ofExcept, hcompiled]
  simp only [Except.mapError]
  cases hfilter : globFault? script.filter with
  | some e' =>
      rw [hfilter] at h
      rw [Step.on_bind, H.on_lookUp_of_fault hfilter, ← Option.some.inj h]
  | none =>
      rw [hfilter, Option.none_or, ← hcommands, List.findSome?_map] at h
      rw [Step.on_bind, H.on_lookUp_of_no_fault hfilter]
      simp only
      rw [Step.on_bind, H.on_selectAll_of_fault h]

end LooksUp

/-- A host shows a snapshot as long as nothing is written: `after read` is its state when the paths
`read` have been read, in that order. -/
structure Presents {σ File : Type} (host : Host (StateM σ)) (s : Snapshot File)
    (after : List Path → σ) : Prop where
  find : ∀ read pattern, host.find pattern (after read) = (s.find pattern, after read)
  read : ∀ read, ∀ f ∈ s.files,
    host.read (s.path f) (after read) = (s.read f, after (read ++ [s.path f]))

namespace Presents

variable {σ File : Type} {host : Host (StateM σ)} {s : Snapshot File} {after : List Path → σ}

/-! ### Selecting -/

theorem looksUp (H : Presents host s after) (read : List Path) :
    LooksUp host (fun pattern => (s.files.filter (s.isSelected pattern)).map s.path)
      (after read) :=
  H.find read

theorem on_selectAll_of_no_fault (H : Presents host s after) {commands : List CompiledCommand}
    (h : commands.findSome? (fun c => globFault? c.command.files) = none) (filter : Text)
    (read : List Path) :
    Step.on (selectAll host ((s.files.filter (s.isSelected filter)).map s.path) commands)
        (after read) =
      (.ok (commands.map fun c => (s.files.filter fun f =>
        s.isSelected c.command.files f && s.isSelected filter f).map s.path), after read) := by
  induction commands with
  | nil => rfl
  | cons command others ih =>
      rw [List.findSome?_cons] at h
      cases hglob : globFault? command.command.files with
      | some e' =>
          rw [hglob] at h
          cases h
      | none =>
          rw [hglob] at h
          rw [selectAll, Step.on_bind, (H.looksUp read).on_lookUp_of_no_fault hglob]
          simp only
          rw [Step.on_bind, ih h]
          simp only [Step.on_pure]
          rw [List.map_cons, List.filter_map, List.filter_filter]
          congr 3
          congr 1
          apply List.filter_congr
          intro f hf
          rw [Function.comp_apply, Snapshot.isIn_map_path hf, Bool.and_comm]

/-! ### Reading -/

/-- Texts that have been read from the files of a snapshot. -/
def Holds (s : Snapshot File) (texts : PathMap Text) : Prop :=
  ∀ f ∈ s.files, ∀ t, texts.get? (s.path f) = some t → s.read f = .ok t

theorem Holds.empty : Holds s {} := by
  intro f _ t h
  cases h

theorem Holds.insert {texts : PathMap Text} (h : Holds s texts) {f : File} (hf : f ∈ s.files)
    {t : Text} (ht : s.read f = .ok t) : Holds s (texts.insert (s.path f) t) := by
  intro g hg u hu
  rw [PathMap.get?_insert] at hu
  split at hu
  · rename_i hkey
    rw [← Snapshot.eq_of_key_eq hf hg hkey, ht, Option.some.inj hu]
  · exact h g hg u hu

theorem on_readAll_of_fault (H : Presents host s after) {files : List File}
    (hfiles : ∀ f ∈ files, f ∈ s.files) {texts : PathMap Text} (htexts : Holds s texts)
    {e : Failure SweepError} (h : files.findSome? s.readFault? = some e) (read : List Path) :
    ∃ more, Step.on (readAll host (files.map s.path) texts) (after read) =
      (.error e, after (read ++ more)) := by
  induction files generalizing texts read with
  | nil => cases h
  | cons f others ih =>
      have hothers := fun g hg => hfiles g (List.mem_cons_of_mem _ hg)
      rw [List.findSome?_cons, Snapshot.readFault?] at h
      rw [List.map_cons, readAll]
      by_cases hcontains : texts.contains (s.path f) = true
      · rw [if_pos hcontains]
        rw [PathMap.contains_eq_isSome, Option.isSome_iff_exists] at hcontains
        obtain ⟨t, ht⟩ := hcontains
        rw [htexts f (hfiles f List.mem_cons_self) t ht] at h
        exact ih hothers htexts h read
      · rw [if_neg hcontains, Step.on_bind, Step.on_call, H.read _ f (hfiles f List.mem_cons_self)]
        cases hread : s.read f with
        | error e' =>
            rw [hread] at h
            exact ⟨[s.path f], by rw [← Option.some.inj h]; rfl⟩
        | ok t =>
            rw [hread] at h
            obtain ⟨more, hmore⟩ :=
              ih hothers (htexts.insert (hfiles f List.mem_cons_self) hread) h (read ++ [s.path f])
            refine ⟨s.path f :: more, hmore.trans ?_⟩
            rw [List.append_assoc]
            rfl

variable [DecidableEq File]

def unread (s : Snapshot File) (files : List File) (texts : PathMap Text) : List File :=
  (files.filter fun f => !texts.contains (s.path f)).eraseDups

theorem unread_cons_of_contains {f : File} {texts : PathMap Text}
    (h : texts.contains (s.path f) = true) (others : List File) :
    unread s (f :: others) texts = unread s others texts := by
  rw [unread, List.filter_cons_of_neg (by simpa using h)]
  rfl

theorem unread_cons_of_not_contains {f : File} (hf : f ∈ s.files) {texts : PathMap Text}
    (h : texts.contains (s.path f) = false) {others : List File}
    (hothers : ∀ g ∈ others, g ∈ s.files) (t : Text) :
    unread s (f :: others) texts = f :: unread s others (texts.insert (s.path f) t) := by
  rw [unread, List.filter_cons_of_pos (by simpa using h), List.eraseDups_cons, unread,
    List.filter_filter]
  congr 2
  apply List.filter_congr
  intro g hg
  rw [PathMap.contains_eq_isSome, PathMap.contains_eq_isSome, PathMap.get?_insert]
  by_cases heq : g = f
  · simp [heq]
  · have hkey : (s.path f).key ≠ (s.path g).key := fun hkey =>
      heq (Snapshot.eq_of_key_eq hf (hothers g hg) hkey).symm
    simp [heq, hkey]

theorem on_readAll_of_no_fault (H : Presents host s after) {files : List File}
    (hfiles : ∀ f ∈ files, f ∈ s.files) {texts : PathMap Text} (htexts : Holds s texts)
    (h : files.findSome? s.readFault? = none) (read : List Path) :
    ∃ known, Step.on (readAll host (files.map s.path) texts) (after read) =
        (.ok known, after (read ++ (unread s files texts).map s.path)) ∧ Holds s known ∧
      ∀ f ∈ s.files, f ∈ files ∨ texts.contains (s.path f) = true →
        known.contains (s.path f) = true := by
  induction files generalizing texts read with
  | nil =>
      refine ⟨texts, ?_, htexts, fun f _ hf => hf.resolve_left List.not_mem_nil⟩
      rw [List.map_nil, readAll, unread, List.filter_nil, List.eraseDups_nil, List.map_nil,
        List.append_nil]
      rfl
  | cons f others ih =>
      have hf := hfiles f List.mem_cons_self
      have hothers := fun g hg => hfiles g (List.mem_cons_of_mem _ hg)
      obtain ⟨hfirst, h⟩ := List.forall_mem_cons.1 (List.findSome?_eq_none_iff.1 h)
      rw [← List.findSome?_eq_none_iff] at h
      rw [List.map_cons, readAll]
      by_cases hcontains : texts.contains (s.path f) = true
      · rw [if_pos hcontains, unread_cons_of_contains hcontains]
        obtain ⟨known, hknown, hholds, hall⟩ := ih hothers htexts h read
        refine ⟨known, hknown, hholds, fun g hg hor => hall g hg ?_⟩
        rcases hor with hmem | hmem
        · rcases List.mem_cons.1 hmem with rfl | hmem
          · exact Or.inr hcontains
          · exact Or.inl hmem
        · exact Or.inr hmem
      · obtain ⟨t, ht⟩ := Snapshot.readFault?_eq_none_iff.1 hfirst
        rw [if_neg hcontains, Step.on_bind, Step.on_call, H.read _ f hf, ht]
        obtain ⟨known, hknown, hholds, hall⟩ :=
          ih hothers (htexts.insert hf ht) h (read ++ [s.path f])
        refine ⟨known, hknown.trans ?_, hholds, fun g hg hor => hall g hg ?_⟩
        · rw [unread_cons_of_not_contains hf (Bool.eq_false_iff.2 hcontains) hothers t,
            List.map_cons, List.append_assoc]
          rfl
        · rw [PathMap.contains_eq_isSome, PathMap.get?_insert]
          rcases hor with hmem | hmem
          · rcases List.mem_cons.1 hmem with rfl | hmem
            · exact Or.inr (by simp)
            · exact Or.inl hmem
          · rw [PathMap.contains_eq_isSome] at hmem
            refine Or.inr ?_
            split
            · rfl
            · exact hmem

end Presents

/-! ### The whole sweep -/

namespace Snapshot

variable {File : Type} (s : Snapshot File)

/-- The files that a script reads, in the order in which it reads them. -/
def readFiles [DecidableEq File] (script : Script) : List File :=
  (s.targets script).flatten.eraseDups

def named (change : File × Text) : Path × Text := (s.path change.1, change.2)

theorem count_eraseDups {α : Type} [DecidableEq α] (a : α) (l : List α) :
    l.eraseDups.count a = if a ∈ l then 1 else 0 := by
  match l with
  | [] => rfl
  | b :: l =>
      -- `eraseDups` goes on with a part of `l` that is not its tail, so the length decreases.
      have hlt : (l.filter fun c => !c == b).length < (b :: l).length :=
        Nat.lt_succ_of_le (List.length_filter_le _ _)
      rw [List.eraseDups_cons, List.count_cons, count_eraseDups a (l.filter fun c => !c == b)]
      by_cases heq : b = a
      · simp [heq]
      · simp [heq, Ne.symm heq]
termination_by l.length
decreasing_by exact hlt

variable {s}

theorem mem_readFiles [DecidableEq File] {script : Script} {f : File} :
    f ∈ s.readFiles script ↔ f ∈ s.files ∧ s.commandsFor script f ≠ [] := by
  rw [readFiles, List.mem_eraseDups, mem_targets_flatten]

/-- A file is read once if a command applies to it, and otherwise not at all. -/
theorem count_readFiles [DecidableEq File] {script : Script} {f : File} (hf : f ∈ s.files) :
    (s.readFiles script).count f = if s.commandsFor script f = [] then 0 else 1 := by
  rw [readFiles, count_eraseDups]
  by_cases hnil : s.commandsFor script f = []
  · rw [if_pos hnil, if_neg fun hmem => (mem_targets_flatten.1 hmem).2 hnil]
  · rw [if_neg hnil, if_pos (mem_targets_flatten.2 ⟨hf, hnil⟩)]

/-- Some compiled commands of a script, each with the paths it applies to. -/
def steps (s : Snapshot File) (script : Script) (compiled : List CompiledCommand) :
    List (CompiledCommand × List Path) :=
  compiled.map fun c => (c, (s.files.filter (s.isTarget script c.command)).map s.path)

section Steps

variable {script : Script} {compiled : List CompiledCommand} {known : PathMap Text} {f : File}

theorem commandsFor_steps (hf : f ∈ s.files) :
    RevisionSet.commandsFor (s.steps script compiled) (s.path f) =
      compiled.filter fun c => s.isTarget script c.command f := by
  rw [RevisionSet.commandsFor, steps, List.filter_map, List.map_map]
  refine (List.map_id _).trans ?_
  apply List.filter_congr
  intro c _
  exact isIn_map_path hf _

theorem commandsFor_eq_map (hcommands : compiled.map (·.command) = script.commands) :
    s.commandsFor script f =
      (compiled.filter fun c => s.isTarget script c.command f).map (·.command) := by
  rw [commandsFor, ← hcommands, List.filter_map]
  rfl

theorem rewriteAll_eq_swept (hcommands : compiled.map (·.command) = script.commands)
    (hrewrite : ∀ c ∈ compiled, c.rewrite = c.command.rewrite) (t : Text) :
    CompiledCommand.rewriteAll (compiled.filter fun c => s.isTarget script c.command f) t =
      s.swept script f t := by
  rw [swept, commandsFor_eq_map hcommands, List.foldl_map]
  apply List.foldl_ext
  intro u c hc
  rw [hrewrite c (List.mem_filter.1 hc).1]

/-- What the steps change at a file is what the snapshot says. -/
theorem changeAt_steps (hcommands : compiled.map (·.command) = script.commands)
    (hrewrite : ∀ c ∈ compiled, c.rewrite = c.command.rewrite) (hholds : Presents.Holds s known)
    (hf : f ∈ s.files)
    (hknown : s.commandsFor script f ≠ [] → known.contains (s.path f) = true) :
    RevisionSet.changeAt known (s.steps script compiled) (s.path f) =
      (s.change? script f).map s.named := by
  have hsource := commandsFor_eq_map (s := s) (f := f) hcommands
  rw [RevisionSet.changeAt, commandsFor_steps hf, change?]
  by_cases hnil : (compiled.filter fun c => s.isTarget script c.command f) = []
  · simp [hsource, hnil]
  · have hne : s.commandsFor script f ≠ [] := by rwa [hsource, Ne, List.map_eq_nil_iff]
    have hcontains := hknown hne
    rw [PathMap.contains_eq_isSome, Option.isSome_iff_exists] at hcontains
    obtain ⟨t, ht⟩ := hcontains
    rw [if_neg hnil, if_neg hne, ht, hholds f hf t ht, Option.bind_some]
    simp only [rewriteAll_eq_swept hcommands hrewrite]
    by_cases hswept : s.swept script f t = t
    · simp [Except.toOption, hswept]
    · simp [Except.toOption, hswept, named]

end Steps

/-- The revisions of what has been read come to the changes of the snapshot. -/
theorem changes_reviseAll (script : Script) {compiled : List CompiledCommand}
    (hcommands : compiled.map (·.command) = script.commands)
    (hrewrite : ∀ c ∈ compiled, c.rewrite = c.command.rewrite) {known : PathMap Text}
    (hholds : Presents.Holds s known)
    (hknown : ∀ f ∈ s.files, s.commandsFor script f ≠ [] → known.contains (s.path f) = true) :
    (RevisionSet.reviseAll known (s.steps script compiled)).changes =
      (s.changes script).map s.named := by
  have hascending : (s.files.map s.path).Pairwise fun p q => p.key < q.key :=
    List.pairwise_map.2 s.ascending
  have hsteps : ∀ step ∈ s.steps script compiled, step.2.Sublist (s.files.map s.path) := by
    intro step hstep
    obtain ⟨c, -, rfl⟩ := List.mem_map.1 hstep
    exact List.filter_sublist.map _
  rw [RevisionSet.changes_reviseAll hascending known hsteps, changes, List.filterMap_map,
    List.map_filterMap]
  apply List.filterMap_congr
  intro f hf
  exact changeAt_steps hcommands hrewrite hholds hf (hknown f hf)

end Snapshot

namespace Presents

variable {σ File : Type} {host : Host (StateM σ)} {s : Snapshot File} {after : List Path → σ}

/-- A script without a fault in a search or glob comes to read the files of its commands. -/
theorem on_run_of_no_glob_fault (H : Presents host s after) {script : Script}
    (hsearch : script.commands.findSome? Command.searchFault? = none)
    (hfilter : globFault? script.filter = none)
    (hglobs : (script.commands.findSome? fun command => globFault? command.files) = none) :
    ∃ compiled : List CompiledCommand, compiled.map (·.command) = script.commands ∧
      (∀ c ∈ compiled, c.rewrite = c.command.rewrite) ∧
      Step.on (run host script) (after []) = Step.on (do
        let contents ← readAll host ((s.targets script).flatten.map s.path) {}
        let changes := (RevisionSet.reviseAll contents (s.steps script compiled)).changes
        writeAll host changes
        pure ⟨changes.map (·.1)⟩) (after []) := by
  obtain ⟨compiled, hcompiled, hcommands, hrewrite⟩ := compileAll_of_no_fault hsearch
  rw [← hcommands, List.findSome?_map] at hglobs
  refine ⟨compiled, hcommands, hrewrite, ?_⟩
  rw [run, Step.on_bind, Step.on_ofExcept, hcompiled]
  simp only [Except.mapError]
  rw [Step.on_bind, (H.looksUp []).on_lookUp_of_no_fault hfilter]
  simp only
  rw [Step.on_bind, H.on_selectAll_of_no_fault hglobs]
  simp only
  have hflatten : (compiled.map fun c => (s.files.filter fun f =>
      s.isSelected c.command.files f && s.isSelected script.filter f).map s.path).flatten =
      (s.targets script).flatten.map s.path := by
    rw [Snapshot.targets, ← hcommands, List.map_flatten, List.map_map, List.map_map]
    rfl
  have hzip : (compiled.zip (compiled.map fun c => (s.files.filter fun f =>
      s.isSelected c.command.files f && s.isSelected script.filter f).map s.path)) =
      s.steps script compiled := by
    have h := List.zip_map' (f := id) (g := fun c : CompiledCommand => (s.files.filter fun f =>
      s.isSelected c.command.files f && s.isSelected script.filter f).map s.path) (l := compiled)
    rwa [List.map_id] at h
  rw [hflatten, hzip]

/-- A sweep ends with the first fault of the snapshot, having read and not written. -/
theorem on_run_of_fault (H : Presents host s after) {script : Script} {e : Failure SweepError}
    (h : s.fault? script = some e) :
    ∃ read, Step.on (run host script) (after []) = (.error e, after read) := by
  rw [Snapshot.fault?] at h
  cases hscript : script.fault? with
  | some e' =>
      rw [hscript] at h
      rw [← Option.some.inj h]
      exact ⟨[], (H.looksUp []).on_run_of_fault hscript⟩
  | none =>
      rw [hscript, Option.none_or] at h
      obtain ⟨hsearch, hfilter, hglobs⟩ := Script.fault?_eq_none_iff.1 hscript
      obtain ⟨compiled, -, -, hrun⟩ := H.on_run_of_no_glob_fault hsearch hfilter hglobs
      have hfiles : ∀ f ∈ (s.targets script).flatten, f ∈ s.files :=
        fun f hf => (Snapshot.mem_targets_flatten.1 hf).1
      obtain ⟨read, hread⟩ := H.on_readAll_of_fault hfiles Holds.empty h []
      refine ⟨read, ?_⟩
      rw [hrun, Step.on_bind, hread, List.nil_append]

/-- A sweep without a fault reads its files once and writes its changes. -/
theorem on_run_of_no_fault [DecidableEq File] (H : Presents host s after) {script : Script}
    (h : s.fault? script = none) :
    Step.on (run host script) (after []) = Step.on (do
        writeAll host ((s.changes script).map s.named)
        pure ⟨(s.changes script).map fun change => s.path change.1⟩)
      (after ((s.readFiles script).map s.path)) := by
  rw [Snapshot.fault?, Option.or_eq_none_iff, Script.fault?_eq_none_iff] at h
  obtain ⟨⟨hsearch, hfilter, hglobs⟩, hread⟩ := h
  obtain ⟨compiled, hcommands, hrewrite, hrun⟩ :=
    H.on_run_of_no_glob_fault hsearch hfilter hglobs
  have hfiles : ∀ f ∈ (s.targets script).flatten, f ∈ s.files :=
    fun f hf => (Snapshot.mem_targets_flatten.1 hf).1
  obtain ⟨known, hknown, hholds, hall⟩ := H.on_readAll_of_no_fault hfiles Holds.empty hread []
  have hunread : unread s (s.targets script).flatten {} = s.readFiles script := by
    rw [unread, List.filter_eq_self.2 (by simp)]
    rfl
  have hchanges := Snapshot.changes_reviseAll script hcommands hrewrite hholds fun f hf hne =>
    hall f hf (Or.inl (Snapshot.mem_targets_flatten.2 ⟨hf, hne⟩))
  rw [hrun, Step.on_bind, hknown, hunread, List.nil_append]
  simp only
  rw [hchanges, List.map_map]
  rfl

end Presents

/-! ### Loading the script -/

namespace Sweeper

variable {σ : Type} (host : Host (StateM σ)) (state : σ)

theorem on_loadAndRun :
    Step.on (loadAndRun host) state =
      match host.isWritable state with
      | (false, state) => (.error (.error .noWritableTarget), state)
      | (true, state) =>
        match host.script state with
        | (.error e, state) => (.error (.error (.host e)), state)
        | (.ok source, state) =>
          match ParsedScript.parse source with
          | .error e => (.error (.error (.script e)), state)
          | .ok parsed => Step.on (run host parsed.script) state := by
  have hwritable : Step.on (ExceptT.lift host.isWritable) state =
      (.ok (host.isWritable state).1, (host.isWritable state).2) := rfl
  rw [loadAndRun, Step.on_bind, hwritable]
  obtain ⟨writable, state⟩ := host.isWritable state
  cases writable with
  | false => rfl
  | true =>
      simp only [if_true]
      rw [Step.on_bind, Step.on_call]
      obtain ⟨source, state⟩ := host.script state
      cases source with
      | error e => rfl
      | ok source =>
          simp only [Except.mapError]
          rw [Step.on_bind, Step.on_ofExcept]
          cases ParsedScript.parse source with
          | error e => rfl
          | ok parsed => rfl

/-- What is told of the end of a sweep. A panic leaves nobody to tell it. -/
def report : Except (Failure SweepError) Summary → StateM σ Unit
  | .ok summary => host.reportInfo summary.message
  | .error (.error e) => host.reportError e.message
  | .error .panic => pure ()

theorem sweep_eq :
    sweep host state =
      ((Step.on (loadAndRun host) state).1,
        (report host (Step.on (loadAndRun host) state).1 (Step.on (loadAndRun host) state).2).2)
    := by
  cases hrun : Step.on (loadAndRun host) state with
  | mk result state' =>
      refine (bind_of_eq hrun _).trans ?_
      match result with
      | .ok summary => rfl
      | .error (.error e) => rfl
      | .error .panic => rfl

end Sweeper

end Sweep

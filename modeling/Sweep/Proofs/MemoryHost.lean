import Mathlib.Data.List.TakeWhile
import Sweep.Host.Memory
import Sweep.Proofs.Phases

/-!
# Sweeps of files in memory

A host in memory shows the snapshot of its files, so a sweep of it is settled before it writes: it
fails at the first stage that has a fault, or every file ends as the fold of the commands whose
globs select it. Writing goes through the changes in order and stops in front of the first one that
is refused.
-/

namespace Sweep

open Sweeper

/-- Whether a glob matches the text of a path. One that cannot be compiled matches none. -/
def Glob.matchesPath (pattern : Text) (p : Path) : Bool :=
  match Glob.compile pattern with
  | .ok g => g.isMatch p.text
  | .error _ => false

/-- What a script makes of a file in memory: the commands whose globs match its path apply in
order, if the filter matches it. -/
def Script.sweptText (script : Script) (p : Path) (t : Text) : Text :=
  if Glob.matchesPath script.filter p then
    (script.commands.filter fun command => Glob.matchesPath command.files p).foldl
      (fun t command => command.rewrite t) t
  else t

/-- Whether a script reads a file in memory: the filter and the glob of a command match its path. -/
def Script.reads (script : Script) (p : Path) : Bool :=
  Glob.matchesPath script.filter p &&
    script.commands.any fun command => Glob.matchesPath command.files p

theorem Script.sweptText_of_not_reads {script : Script} {p : Path} (h : script.reads p = false)
    (t : Text) : script.sweptText p t = t := by
  rw [Script.reads, Bool.and_eq_false_iff] at h
  rw [Script.sweptText]
  rcases h with hfilter | hcommands
  · rw [hfilter]
    rfl
  · have hnil : (script.commands.filter fun command => Glob.matchesPath command.files p) = [] := by
      rw [List.filter_eq_nil_iff]
      exact List.any_eq_false.1 hcommands
    rw [hnil, List.foldl_nil, ite_self]

namespace MemoryHost

def snapshot (h : MemoryHost) : Snapshot Path where
  files := h.files.keys
  path := id
  ascending := h.files.keys_ascending
  selects g p := g.isMatch p.text
  read := h.textOf

def afterReading (h : MemoryHost) (read : List Path) : MemoryHost :=
  { h with reads := h.reads ++ read }

@[simp]
theorem afterReading_nil (h : MemoryHost) : h.afterReading [] = h := by
  rw [afterReading, List.append_nil]

theorem presents (h : MemoryHost) : Presents host h.snapshot h.afterReading where
  find read pattern := by
    change (h.find pattern, h.afterReading read) = _
    unfold find selectPaths Snapshot.find Snapshot.isSelected
    cases Glob.compile pattern with
    | ok g => exact congrArg (fun paths => (Except.ok paths, _)) (List.map_id _).symm
    | error failure => rfl
  read read p hp := by
    change (h.textOf p, { h.afterReading read with reads := h.reads ++ read ++ [p] }) = _
    rw [List.append_assoc]
    rfl

section Snapshot

variable (h : MemoryHost) (script : Script) (p : Path)

theorem isSelected_snapshot (pattern : Text) :
    h.snapshot.isSelected pattern p = Glob.matchesPath pattern p := rfl

theorem swept_snapshot (t : Text) : h.snapshot.swept script p t = script.sweptText p t := by
  rw [Snapshot.swept, Snapshot.commandsFor, Script.sweptText]
  unfold Snapshot.isTarget
  simp only [isSelected_snapshot]
  cases Glob.matchesPath script.filter p with
  | true => simp
  | false => simp

theorem commandsFor_snapshot_ne_nil :
    h.snapshot.commandsFor script p ≠ [] ↔ script.reads p = true := by
  rw [Snapshot.commandsFor, Ne, List.filter_eq_nil_iff]
  unfold Snapshot.isTarget
  simp only [isSelected_snapshot, Script.reads]
  cases Glob.matchesPath script.filter p with
  | true => simp
  | false => simp

/-- The files that a sweep would change, with their new texts, in order of their paths. -/
def changes : List (Path × Text) :=
  h.files.entries.filterMap fun e =>
    if script.sweptText e.1 e.2 = e.2 then none else some (e.1, script.sweptText e.1 e.2)

end Snapshot

/-! ### Writing -/

def put (h : MemoryHost) (p : Path) (t : Text) : MemoryHost :=
  { h with files := h.files.insert p t, written := h.written.insert p t }

def putAll (h : MemoryHost) (changes : List (Path × Text)) : MemoryHost :=
  changes.foldl (fun h change => h.put change.1 change.2) h

def writeFault? (h : MemoryHost) (p : Path) : Option (Failure SweepError) :=
  if p.isIn h.failingWrites then some (.error (.host (.file p .denied))) else none

theorem writeFault?_afterReading (h : MemoryHost) (read : List Path) :
    (h.afterReading read).writeFault? = h.writeFault? := rfl

theorem findSome?_writeFault?_eq_none {h : MemoryHost} (hwrites : h.failingWrites = [])
    (changes : List (Path × Text)) :
    (changes.findSome? fun change => h.writeFault? change.1) = none := by
  rw [List.findSome?_eq_none_iff]
  intro change _
  rw [writeFault?, hwrites]
  rfl

theorem on_write (h : MemoryHost) (p : Path) (t : Text) :
    Step.on (call (host.write p t)) h =
      match h.writeFault? p with
      | some e => (.error e, h)
      | none => (.ok (), h.put p t) := by
  rw [Step.on_call]
  change ((write p t h).1.mapError _, (write p t h).2) = _
  unfold write writeFault?
  by_cases hdenied : p.isIn h.failingWrites = true
  · rw [if_pos hdenied, if_pos hdenied]
    rfl
  · rw [if_neg hdenied, if_neg hdenied]
    rfl

/-- Writing puts the changes in front of the first one that is refused. -/
theorem on_writeAll (h : MemoryHost) (changes : List (Path × Text)) :
    Step.on (writeAll host changes) h =
      (match changes.findSome? fun change => h.writeFault? change.1 with
        | some e => .error e
        | none => .ok (),
      h.putAll (changes.takeWhile fun change => (h.writeFault? change.1).isNone)) := by
  induction changes generalizing h with
  | nil => rfl
  | cons change others ih =>
      rw [writeAll, Step.on_bind, on_write, List.findSome?_cons, List.takeWhile_cons]
      cases hfault : h.writeFault? change.1 with
      | some e => rfl
      | none => exact ih (h.put change.1 change.2)

theorem files_putAll (h : MemoryHost) {changes : List (Path × Text)}
    (hchanges : PathMap.Ascending changes) (p : Path) :
    (h.putAll changes).files.get? p = (PathMap.lookup changes p).or (h.files.get? p) ∧
      (h.putAll changes).written.get? p =
        (PathMap.lookup changes p).or (h.written.get? p) := by
  induction changes generalizing h with
  | nil => exact ⟨rfl, rfl⟩
  | cons change others ih =>
      obtain ⟨hhead, htail⟩ := List.pairwise_cons.1 hchanges
      obtain ⟨hfiles, hwritten⟩ := ih (h.put change.1 change.2) htail
      rw [putAll, List.foldl_cons, ← putAll, hfiles, hwritten, put, PathMap.get?_insert,
        PathMap.get?_insert, PathMap.lookup_cons]
      by_cases hkey : change.1.key = p.key
      · have hnone : PathMap.lookup others p = none := by
          apply PathMap.lookup_eq_none
          intro e he heq
          have hlt := hhead e he
          rw [hkey, heq] at hlt
          exact List.lt_irrefl _ hlt
        simp [hkey, hnone]
      · simp [hkey]

theorem keys_putAll (h : MemoryHost) {changes : List (Path × Text)}
    (hchanges : ∀ change ∈ changes, change.1 ∈ h.files.keys) :
    (h.putAll changes).files.keys = h.files.keys := by
  induction changes generalizing h with
  | nil => rfl
  | cons change others ih =>
      have hcontains : h.files.contains change.1 = true := by
        obtain ⟨t, ht⟩ := PathMap.mem_keys_iff.1 (hchanges change List.mem_cons_self)
        rw [PathMap.contains_eq_isSome, PathMap.get?_of_mem ht]
        rfl
      have hkeys : (h.put change.1 change.2).files.keys = h.files.keys :=
        PathMap.keys_insert_of_contains hcontains _
      rw [putAll, List.foldl_cons, ← putAll, ih (h.put change.1 change.2), hkeys]
      intro c hc
      rw [hkeys]
      exact hchanges c (List.mem_cons_of_mem _ hc)

/-- Writing touches the files and what has been written, and nothing else. -/
theorem putAll_frame (h : MemoryHost) (changes : List (Path × Text)) :
    h.putAll changes = { h with
      files := (h.putAll changes).files
      written := (h.putAll changes).written } := by
  induction changes generalizing h with
  | nil => rfl
  | cons change others ih =>
      rw [putAll, List.foldl_cons, ← putAll, ih]
      rfl

theorem takeWhile_writeFault?_eq_self {h : MemoryHost} {changes : List (Path × Text)}
    (hfault : (changes.findSome? fun change => h.writeFault? change.1) = none) :
    (changes.takeWhile fun change => (h.writeFault? change.1).isNone) = changes := by
  rw [List.takeWhile_eq_self_iff]
  intro change hchange
  rw [List.findSome?_eq_none_iff.1 hfault change hchange]
  rfl

/-! ### Sweeping -/

theorem textOf_of_mem {h : MemoryHost} {p : Path} {t : Text} (hmem : (p, t) ∈ h.files.entries) :
    h.textOf p = if p.isIn h.failingReads then .error (.file p .denied) else .ok t := by
  rw [textOf, PathMap.get?_of_mem hmem]

theorem changes_ascending (h : MemoryHost) (script : Script) :
    PathMap.Ascending (h.changes script) := by
  refine List.Pairwise.filterMap _ ?_ h.files.ascending
  intro e f hlt c hc d hd
  split at hc
  · cases hc
  · split at hd
    · cases hd
    · rw [← Option.some.inj hc, ← Option.some.inj hd]
      exact hlt

theorem mem_changes_iff {h : MemoryHost} {script : Script} {p : Path} {t : Text} :
    (p, t) ∈ h.changes script ↔
      ∃ before, (p, before) ∈ h.files.entries ∧ script.sweptText p before = t ∧ t ≠ before := by
  rw [changes, List.mem_filterMap]
  constructor
  · rintro ⟨e, he, hchange⟩
    split at hchange
    · cases hchange
    · rename_i hne
      obtain ⟨rfl, rfl⟩ := Prod.mk.inj (Option.some.inj hchange)
      exact ⟨e.2, he, rfl, hne⟩
  · rintro ⟨before, he, rfl, hne⟩
    exact ⟨(p, before), he, if_neg hne⟩

theorem mem_keys_of_mem_changes {h : MemoryHost} {script : Script} {change : Path × Text}
    (hchange : change ∈ h.changes script) : change.1 ∈ h.files.keys := by
  obtain ⟨before, hbefore, -⟩ := mem_changes_iff.1 hchange
  exact PathMap.mem_keys_iff.2 ⟨before, hbefore⟩

/-- Where every file of the script can be read, the snapshot shows the changes. -/
theorem changes_snapshot {h : MemoryHost} {script : Script}
    (hread : (h.snapshot.targets script).flatten.findSome? h.snapshot.readFault? = none) :
    (h.snapshot.changes script).map h.snapshot.named = h.changes script := by
  refine (List.map_id _).trans ?_
  rw [Snapshot.changes, changes]
  change (h.files.entries.map (·.1)).filterMap _ = _
  rw [List.filterMap_map]
  apply List.filterMap_congr
  intro e he
  have hkey : e.1 ∈ h.files.keys := PathMap.mem_keys_iff.2 ⟨e.2, he⟩
  rw [Function.comp_apply, Snapshot.change?]
  by_cases hreads : script.reads e.1 = true
  · have hne := (h.commandsFor_snapshot_ne_nil script e.1).2 hreads
    have hnone := List.findSome?_eq_none_iff.1 hread e.1
      (Snapshot.mem_targets_flatten.2 ⟨hkey, hne⟩)
    have htext : h.snapshot.read e.1 = .ok e.2 := by
      obtain ⟨t, ht⟩ := Snapshot.readFault?_eq_none_iff.1 hnone
      have htextOf := textOf_of_mem (h := h) he
      split at htextOf
      · cases htextOf.symm.trans ht
      · exact htextOf
    rw [if_neg hne, htext, ← swept_snapshot]
    rfl
  · have hnil : h.snapshot.commandsFor script e.1 = [] := by
      by_contra hne
      exact hreads ((h.commandsFor_snapshot_ne_nil script e.1).1 hne)
    rw [if_pos hnil, Script.sweptText_of_not_reads (Bool.eq_false_iff.2 hreads), if_pos rfl]

def afterLooking (h : MemoryHost) (script : Script) : MemoryHost :=
  h.afterReading (h.snapshot.readFiles script)

theorem fault?_eq_none_read {h : MemoryHost} {script : Script}
    (hfault : h.snapshot.fault? script = none) :
    (h.snapshot.targets script).flatten.findSome? h.snapshot.readFault? = none := by
  rw [Snapshot.fault?, Option.or_eq_none_iff] at hfault
  exact hfault.2

/-- A sweep that has no fault while it looks writes its changes up to the first one that is
refused. -/
theorem on_run_of_no_fault {h : MemoryHost} {script : Script}
    (hfault : h.snapshot.fault? script = none) :
    Step.on (run host script) h =
      (match (h.changes script).findSome? fun change => h.writeFault? change.1 with
        | some e => .error e
        | none => .ok ⟨(h.changes script).map (·.1)⟩,
      (h.afterLooking script).putAll
        ((h.changes script).takeWhile fun change => (h.writeFault? change.1).isNone)) := by
  have hrun := h.presents.on_run_of_no_fault hfault
  rw [afterReading_nil] at hrun
  have hpaths : (h.snapshot.changes script).map (fun change => h.snapshot.path change.1) =
      (h.changes script).map (·.1) := by
    rw [← changes_snapshot (fault?_eq_none_read hfault), List.map_map]
    rfl
  have hreads : (h.snapshot.readFiles script).map h.snapshot.path =
      h.snapshot.readFiles script := List.map_id _
  rw [hrun, Step.on_bind, hpaths, changes_snapshot (fault?_eq_none_read hfault), hreads,
    on_writeAll, writeFault?_afterReading]
  cases (h.changes script).findSome? fun change => h.writeFault? change.1 with
  | some e => rfl
  | none => rfl

end MemoryHost

end Sweep

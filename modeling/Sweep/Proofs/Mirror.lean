import Sweep.Proofs.Agreement
import Sweep.Proofs.MemoryHost
import Sweep.Proofs.Workspace

/-!
# The same files on a machine and in memory

A host in memory can hold the files below the root of a workspace under their relative paths. A
workspace also looks at absolute paths, and a glob that asks for no particular place may match one
of these because of where the root is. So a script need not do the same on both. It does exactly if
no command comes to apply to a file, or ceases to, because of the absolute path.
-/

namespace Sweep

open Sweeper

/-- A host in memory has the files below a root, each under its relative path, and does not fail. -/
structure Mirrors (tree : FileTree) (root : Location) (h : MemoryHost) : Prop where
  files : ∀ p t, (p, t) ∈ h.files.entries ↔
    ∃ f : Location, (root ++ f, t.bytes) ∈ tree.files ∧ f.relative = p
  isText : ∀ (f : Location) content, (root ++ f, content) ∈ tree.files →
    ∃ t : Text, t.bytes = content
  noFailingReads : h.failingReads = []
  noFailingWrites : h.failingWrites = []

namespace Mirrors

variable {tree : FileTree} {root : Location} {h : MemoryHost}

theorem exists_text (H : Mirrors tree root h) (hplain : tree.PlainBelow root) {f : Location}
    (hf : f ∈ tree.filesBelow root) :
    ∃ t : Text, (root ++ f, t.bytes) ∈ tree.files ∧ (f.relative, t) ∈ h.files.entries := by
  obtain ⟨⟨l, content⟩, hmem, hl⟩ := List.mem_map.1 (hplain.mem_filesBelow_iff.1 hf)
  obtain rfl : l = root ++ f := hl
  obtain ⟨t, rfl⟩ := H.isText f content hmem
  exact ⟨t, hmem, (H.files _ _).2 ⟨f, hmem, rfl⟩⟩

theorem mem_keys_iff (H : Mirrors tree root h) (hplain : tree.PlainBelow root) {p : Path} :
    p ∈ h.files.keys ↔ ∃ f ∈ tree.filesBelow root, f.relative = p := by
  rw [PathMap.mem_keys_iff]
  constructor
  · rintro ⟨t, ht⟩
    obtain ⟨f, hf, hp⟩ := (H.files p t).1 ht
    exact ⟨f, hplain.mem_filesBelow_iff.2 (List.mem_map_of_mem hf), hp⟩
  · rintro ⟨f, hf, rfl⟩
    obtain ⟨t, -, ht⟩ := H.exists_text hplain hf
    exact ⟨t, ht⟩

theorem relative_ascending (htree : tree.WellFormed) :
    (tree.filesBelow root).Pairwise fun f g => f.relative.key < g.relative.key := by
  apply (FileTree.filesBelow_ascending htree).imp_of_mem
  intro f g hf hg hlt
  rwa [Location.key_relative (FileTree.isProper_of_mem_filesBelow htree hf).2,
    Location.key_relative (FileTree.isProper_of_mem_filesBelow htree hg).2]

theorem keys_eq (H : Mirrors tree root h) (hplain : tree.PlainBelow root)
    (htree : tree.WellFormed) :
    h.files.keys = (tree.filesBelow root).map Location.relative := by
  refine eq_of_ascending_of_mem_iff Path.key h.files.keys_ascending
    (List.pairwise_map.2 (relative_ascending htree)) fun p => ?_
  rw [H.mem_keys_iff hplain, List.mem_map]

def snapshot (h : MemoryHost) (root : Location) (htree : tree.WellFormed) :
    Snapshot Location where
  files := tree.filesBelow root
  path := Location.relative
  ascending := relative_ascending htree
  selects g f := g.isMatch f.text
  read f := h.textOf f.relative

theorem presents (H : Mirrors tree root h) (hplain : tree.PlainBelow root)
    (htree : tree.WellFormed) :
    Presents MemoryHost.host (snapshot h root htree) h.afterReading where
  find read pattern := by
    rw [h.presents.find]
    unfold Snapshot.find Snapshot.isSelected
    cases Glob.compile pattern with
    | error failure => rfl
    | ok g =>
        change (Except.ok ((h.files.keys.filter fun p => g.isMatch p.text).map id), _) = _
        rw [H.keys_eq hplain htree, List.map_id, List.filter_map]
        rfl
  read read f hf := by
    have hkey : f.relative ∈ h.snapshot.files := (H.mem_keys_iff hplain).2 ⟨f, hf, rfl⟩
    exact h.presents.read read f.relative hkey

theorem read_snapshot (H : Mirrors tree root h) (htree : tree.WellFormed) {f : Location}
    {t : Text} (hf : (root ++ f, t.bytes) ∈ tree.files) :
    (snapshot h root htree).read f = .ok t := by
  have hentry := (H.files f.relative t).2 ⟨f, hf, rfl⟩
  change h.textOf f.relative = .ok t
  rw [MemoryHost.textOf_of_mem hentry, H.noFailingReads]
  rfl

/-! ### Writing the same on both sides -/

theorem relative_key_eq_iff (htree : tree.WellFormed) {f g : Location}
    (hf : f ∈ tree.filesBelow root) (hg : g ∈ tree.filesBelow root) :
    f.relative.key = g.relative.key ↔ g = f := by
  rw [Location.key_relative (FileTree.isProper_of_mem_filesBelow htree hf).2,
    Location.key_relative (FileTree.isProper_of_mem_filesBelow htree hg).2]
  exact ⟨fun hkey => (Location.key_inj hkey).symm, fun heq => by rw [heq]⟩

theorem contains_relative (H : Mirrors tree root h) (hplain : tree.PlainBelow root) {f : Location}
    (hf : f ∈ tree.filesBelow root) : h.files.contains f.relative = true := by
  obtain ⟨t, -, ht⟩ := H.exists_text hplain hf
  rw [PathMap.contains_eq_isSome, PathMap.get?_of_mem ht]
  rfl

theorem mem_putFile_iff (htree : tree.WellFormed) (hplain : tree.PlainBelow root) {f : Location}
    (hf : f ∈ tree.filesBelow root) (t : Text) (g : Location) (content : Bytes) :
    (root ++ g, content) ∈ (tree.putFile (root ++ f) t.bytes).files ↔
      if g = f then content = t.bytes else (root ++ g, content) ∈ tree.files := by
  have hfile := hplain.mem_filesBelow_iff.1 hf
  rw [FileTree.putFile, FileTree.mem_put_iff htree.distinct_files hfile]
  simp only [List.append_cancel_left_eq]

/-- The step: writing the same text to a file and to its mirror. -/
theorem put (H : Mirrors tree root h) (htree : tree.WellFormed) (hplain : tree.PlainBelow root)
    {f : Location} (hf : f ∈ tree.filesBelow root) (t : Text) :
    Mirrors (tree.putFile (root ++ f) t.bytes) root (h.put f.relative t) := by
  constructor
  · intro p u
    change (p, u) ∈ (h.files.insert f.relative t).entries ↔ _
    rw [PathMap.mem_entries_iff, PathMap.keys_insert_of_contains (H.contains_relative hplain hf),
      H.mem_keys_iff hplain, PathMap.get?_insert]
    constructor
    · rintro ⟨⟨g, hg, rfl⟩, hget⟩
      refine ⟨g, (mem_putFile_iff htree hplain hf t g u.bytes).2 ?_, rfl⟩
      simp only [relative_key_eq_iff htree hf hg] at hget
      by_cases heq : g = f
      · rw [if_pos heq] at hget ⊢
        rw [Option.some.inj hget]
      · obtain ⟨v, hv, hentry⟩ := H.exists_text hplain hg
        rw [if_neg heq, PathMap.get?_of_mem hentry] at hget
        rw [if_neg heq, ← Option.some.inj hget]
        exact hv
    · rintro ⟨g, hg, rfl⟩
      rw [mem_putFile_iff htree hplain hf] at hg
      by_cases heq : g = f
      · rw [if_pos heq] at hg
        rw [heq, Text.bytes_inj hg]
        exact ⟨⟨f, hf, rfl⟩, if_pos rfl⟩
      · rw [if_neg heq] at hg
        have hgmem : g ∈ tree.filesBelow root :=
          hplain.mem_filesBelow_iff.2 (List.mem_map_of_mem hg)
        refine ⟨⟨g, hgmem, rfl⟩, ?_⟩
        rw [if_neg fun hkey => heq ((relative_key_eq_iff htree hf hgmem).1 hkey)]
        exact PathMap.get?_of_mem ((H.files _ _).2 ⟨g, hg, rfl⟩)
  · intro g content hg
    rw [mem_putFile_iff htree hplain hf] at hg
    by_cases heq : g = f
    · rw [if_pos heq] at hg
      exact ⟨t, hg.symm⟩
    · rw [if_neg heq] at hg
      exact H.isText g content hg
  · exact H.noFailingReads
  · exact H.noFailingWrites

/-- The run: writing the same changes on both sides. -/
theorem putAll {s : MemoryMachine} (H : Mirrors s.tree root h) (htree : s.tree.WellFormed)
    (hplain : s.tree.PlainBelow root) {changes : List (Location × Text)}
    (hchanges : ∀ change ∈ changes, change.1 ∈ s.tree.filesBelow root) :
    Mirrors (Workspace.putAll s (changes.map fun change => (root ++ change.1, change.2))).tree root
      (h.putAll (changes.map fun change => (change.1.relative, change.2))) := by
  induction changes generalizing s h with
  | nil => exact H
  | cons change others ih =>
      have hf := hchanges change List.mem_cons_self
      have hmem := hplain.mem_filesBelow_iff.1 hf
      refine ih (s := { s with tree := s.tree.putFile (root ++ change.1) change.2.bytes })
        (H.put htree hplain hf change.2) (htree.putFile hmem _) hplain fun other hother => ?_
      have hother := hchanges other (List.mem_cons_of_mem _ hother)
      rwa [FileTree.mem_filesBelow_iff, FileTree.leaves_putFile hmem,
        ← FileTree.mem_filesBelow_iff]

end Mirrors

/-! ### Selecting the same -/

/-- The files that a glob selects on a host among those that the filter selects. -/
def selectedBy {σ : Type} (host : Host (StateM σ)) (state : σ) (filter files : Text) :
    Except (Failure HostError) (List Path) := do
  let filtered ← (host.find filter state).1
  let found ← (host.find files state).1
  pure (found.filter fun p => p.isIn filtered)

theorem Presents.selectedBy_eq {σ File : Type} {host : Host (StateM σ)} {s : Snapshot File}
    {after : List Path → σ} (H : Presents host s after) (read : List Path) (filter files : Text) :
    selectedBy host (after read) filter files =
      match Glob.compile filter, Glob.compile files with
      | .error failure, _ => .error (failure.map .invalidGlob)
      | .ok _, .error failure => .error (failure.map .invalidGlob)
      | .ok _, .ok _ => .ok ((s.files.filter fun f =>
          s.isSelected files f && s.isSelected filter f).map s.path) := by
  rw [selectedBy, H.find, H.find, Snapshot.find, Snapshot.find]
  cases Glob.compile filter with
  | error failure => rfl
  | ok g =>
  cases Glob.compile files with
  | error failure => rfl
  | ok g' =>
      change Except.ok _ = Except.ok _
      rw [List.filter_map, List.filter_filter]
      congr 2
      apply List.filter_congr
      intro f hf
      rw [Function.comp_apply, Snapshot.isIn_map_path hf, Bool.and_comm]

namespace Workspace

variable {w : Workspace} {s : MemoryMachine} {h : MemoryHost} {script : Script}

/-- The path of a file in memory, within the root of the workspace. -/
def absolute (w : Workspace) (p : Path) : Path := w.root.path.join p.text

/-- A sweep of the workspace with a record of what it reads. -/
def watchedRun (w : Workspace) (script : Script) (s : MemoryMachine) :
    Except (Failure SweepError) Summary × MemoryMachine × List Path :=
  Step.on (run (w.host MemoryMachine.machine).recording script) (s, [])

/-- A script does the same on a workspace and in memory: its commands select the same files, it
ends the same way, it reads the same files, and the files are the same afterwards. -/
structure SameSweep (w : Workspace) (s : MemoryMachine) (h : MemoryHost) (script : Script) :
    Prop where
  selected : ∀ command ∈ script.commands,
    selectedBy (w.host MemoryMachine.machine) s script.filter command.files =
      (selectedBy MemoryHost.host h script.filter command.files).map (List.map w.absolute)
  result : (Step.on (run (w.host MemoryMachine.machine) script) s).1 =
    (Step.on (run MemoryHost.host script) h).1.map fun summary =>
      ⟨summary.modified.map w.absolute⟩
  read : ∃ read, (Step.on (run MemoryHost.host script) h).2.reads = h.reads ++ read ∧
    (w.watchedRun script s).2.2 = read.map w.absolute
  files : Mirrors (Step.on (run (w.host MemoryMachine.machine) script) s).2.tree w.root
    (Step.on (run MemoryHost.host script) h).2

theorem eq_of_open? {R : Path} {source : ScriptSource}
    (hopen : open? MemoryMachine.machine R source ⟨[], false⟩ s = (.ok w, s)) :
    w.excludes = [] ∧ w.dryRun = false := by
  obtain ⟨-, hexcludes, -, hwrites⟩ := open?_eq_ok_iff.1 hopen
  exact ⟨(Except.ok.inj hexcludes).symm, hwrites⟩

theorem isSelected_snapshot (hexcludes : w.excludes = []) (htree : s.tree.WellFormed)
    (pattern : Text) (f : Location) :
    (w.snapshot s htree).isSelected pattern f =
      (s.tree.leadsToFile (w.pathOf f) &&
        (Glob.matchesPath pattern f.relative || Glob.matchesPath pattern (w.pathOf f))) := by
  unfold Snapshot.isSelected Glob.matchesPath
  cases Glob.compile pattern with
  | error failure => simp
  | ok g =>
      change (_ && (!Glob.anyMatches w.excludes f.text && _)) = _
      rw [hexcludes]
      rfl

theorem read_snapshot (htree : s.tree.WellFormed) {f : Location} {t : Text}
    (hne : w.root ++ f ≠ []) (hf : (w.root ++ f, t.bytes) ∈ s.tree.files)
    (hreachable : FileTree.isReachable (w.root ++ f) = true) :
    (w.snapshot s htree).read f = .ok t := by
  change (s.tree.textAt (w.pathOf f)).mapError _ = _
  rw [FileTree.textAt, pathOf, FileTree.read_path htree hne hf hreachable]
  simp only [Bytes.text?_bytes]
  rfl

theorem append_ne_nil (hroot : s.tree.isDirectory w.root = true) {f : Location}
    (hf : f ∈ s.tree.filesBelow w.root) : f ≠ [] ∧ w.root ++ f ≠ [] := by
  have hne : f ≠ [] := by
    rintro rfl
    have hleaf := FileTree.mem_filesBelow_iff.1 hf
    rw [List.append_nil] at hleaf
    exact (FileTree.isDirectory_iff.1 hroot).1 hleaf
  exact ⟨hne, fun hnil => hne (List.append_eq_nil_iff.1 hnil).2⟩

/-- The path of a file leads to it, unless it is too long. -/
theorem leadsToFile_pathOf (htree : s.tree.WellFormed) (hplain : s.tree.PlainBelow w.root)
    (hroot : s.tree.isDirectory w.root = true) {f : Location}
    (hf : f ∈ s.tree.filesBelow w.root) :
    s.tree.leadsToFile (w.pathOf f) = FileTree.isReachable (w.root ++ f) :=
  FileTree.leadsToFile_path htree (append_ne_nil hroot hf).2 (hplain.mem_filesBelow_iff.1 hf)

theorem absolute_relative (htree : s.tree.WellFormed) (hroot : s.tree.isDirectory w.root = true)
    {f : Location} (hf : f ∈ s.tree.filesBelow w.root) :
    w.absolute f.relative = w.pathOf f := by
  obtain ⟨hproper, hfproper⟩ := FileTree.isProper_of_mem_filesBelow htree hf
  exact Location.join_relative hproper hfproper (append_ne_nil hroot hf).1

theorem map_pathOf (htree : s.tree.WellFormed) (hroot : s.tree.isDirectory w.root = true)
    {files : List Location} (hfiles : ∀ f ∈ files, f ∈ s.tree.filesBelow w.root) :
    files.map w.pathOf = (files.map Location.relative).map w.absolute := by
  rw [List.map_map]
  exact List.map_congr_left fun f hf => (absolute_relative htree hroot (hfiles f hf)).symm

/-! ### Sweeping the same -/

section Agreement

variable (htree : s.tree.WellFormed) (hplain : s.tree.PlainBelow w.root)
  (hroot : s.tree.isDirectory w.root = true) (hmirror : Mirrors s.tree w.root h)
include hplain hroot hmirror

theorem agree_of_isTarget
    (htarget : ∀ command ∈ script.commands, ∀ f ∈ s.tree.filesBelow w.root,
      (Mirrors.snapshot h w.root htree).isTarget script command f =
        (w.snapshot s htree).isTarget script command f) :
    (w.snapshot s htree).Agree (Mirrors.snapshot h w.root htree) script where
  files := rfl
  isTarget := htarget
  read f hf hne := by
    obtain ⟨t, ht, -⟩ := hmirror.exists_text hplain hf
    have hreachable := leadsToFile_of_commandsFor htree hne
    rw [leadsToFile_pathOf htree hplain hroot hf] at hreachable
    rw [hmirror.read_snapshot htree ht,
      read_snapshot htree (append_ne_nil hroot hf).2 ht hreachable]

theorem fault?_eq_none (hfault : script.fault? = none) :
    (w.snapshot s htree).fault? script = none := by
  rw [Snapshot.fault?, hfault, Option.none_or, List.findSome?_eq_none_iff]
  intro f hf
  obtain ⟨hfiles, hne⟩ := Snapshot.mem_targets_flatten.1 hf
  obtain ⟨t, ht, -⟩ := hmirror.exists_text hplain hfiles
  have hreachable := leadsToFile_of_commandsFor htree hne
  rw [leadsToFile_pathOf htree hplain hroot hfiles] at hreachable
  have hread := read_snapshot htree (append_ne_nil hroot hfiles).2 ht hreachable
  exact Snapshot.readFault?_eq_none_iff.2 ⟨t, hread⟩

theorem watchedRun_of_no_fault (hwrites : w.dryRun = false)
    (hfault : script.fault? = none) :
    w.watchedRun script s =
      (.ok ⟨((w.snapshot s htree).changes script).map fun change => w.pathOf change.1⟩,
        putAll s (((w.snapshot s htree).changes script).map fun change =>
          (w.root ++ change.1, change.2)),
        ((w.snapshot s htree).readFiles script).map w.pathOf) := by
  have hnone := fault?_eq_none htree hplain hroot hmirror hfault
  have hcommit := commit_of_plain htree hplain script
  rw [hwrites, if_neg Bool.false_ne_true] at hcommit
  rw [← hcommit]
  exact on_watchedRun_of_no_fault htree hnone

omit hroot in
theorem on_run_of_no_fault (hfault : (Mirrors.snapshot h w.root htree).fault? script = none) :
    Step.on (run MemoryHost.host script) h =
      (.ok ⟨((Mirrors.snapshot h w.root htree).changes script).map fun change =>
          change.1.relative⟩,
        (h.afterReading (((Mirrors.snapshot h w.root htree).readFiles script).map
          Location.relative)).putAll
          (((Mirrors.snapshot h w.root htree).changes script).map fun change =>
            (change.1.relative, change.2))) := by
  have hrun := (hmirror.presents hplain htree).on_run_of_no_fault hfault
  have hwrites := MemoryHost.findSome?_writeFault?_eq_none hmirror.noFailingWrites
  rw [MemoryHost.afterReading_nil] at hrun
  refine hrun.trans ?_
  rw [Step.on_bind, MemoryHost.on_writeAll, MemoryHost.writeFault?_afterReading, hwrites,
    MemoryHost.takeWhile_writeFault?_eq_self (hwrites _)]
  rfl

theorem selectedBy_eq_of_isTarget {command : Command}
    (htarget : ∀ f ∈ s.tree.filesBelow w.root,
      (Mirrors.snapshot h w.root htree).isTarget script command f =
        (w.snapshot s htree).isTarget script command f) :
    selectedBy (w.host MemoryMachine.machine) s script.filter command.files =
      (selectedBy MemoryHost.host h script.filter command.files).map (List.map w.absolute) := by
  have hfs := (w.presents s htree).selectedBy_eq [] script.filter command.files
  have hmem := (hmirror.presents hplain htree).selectedBy_eq [] script.filter command.files
  rw [MemoryHost.afterReading_nil] at hmem
  refine Eq.trans hfs ?_
  rw [hmem]
  cases Glob.compile script.filter with
  | error failure => rfl
  | ok g =>
  cases Glob.compile command.files with
  | error failure => rfl
  | ok g' =>
      change Except.ok _ = Except.ok _
      refine congrArg Except.ok ((map_pathOf htree hroot fun f hf =>
        (List.mem_filter.1 hf).1).trans ?_)
      congr 2
      apply List.filter_congr
      intro f hf
      exact (htarget f hf).symm

/-- Where the commands apply to the same files, the sweeps do the same. -/
theorem sameSweep_of_isTarget (hwrites : w.dryRun = false)
    (htarget : ∀ command ∈ script.commands, ∀ f ∈ s.tree.filesBelow w.root,
      (Mirrors.snapshot h w.root htree).isTarget script command f =
        (w.snapshot s htree).isTarget script command f) : SameSweep w s h script := by
  have hagree := agree_of_isTarget htree hplain hroot hmirror htarget
  have hselected := fun command hcommand =>
    selectedBy_eq_of_isTarget htree hplain hroot hmirror (htarget command hcommand)
  -- A faulty script stops both hosts at once; any other one meets no fault, since all files are
  -- texts and can be reached.
  cases hfault : script.fault? with
  | some e =>
      have hfs : w.watchedRun script s = (.error e, s, []) :=
        ((w.presents s htree).looksUp []).on_run_of_fault hfault
      have hunwatched := (Records.run (w.host MemoryMachine.machine) script).on_eq hfs
      have hmem := ((hmirror.presents hplain htree).looksUp []).on_run_of_fault hfault
      rw [MemoryHost.afterReading_nil] at hmem
      refine ⟨hselected, ?_, ⟨[], ?_, ?_⟩, ?_⟩
      · rw [hunwatched, hmem]
        rfl
      · rw [hmem, List.append_nil]
      · rw [hfs]
        rfl
      · rw [hunwatched, hmem]
        exact hmirror
  | none =>
      have hnone := fault?_eq_none htree hplain hroot hmirror hfault
      have hfs := watchedRun_of_no_fault htree hplain hroot hmirror hwrites hfault
      have hunwatched := (Records.run (w.host MemoryMachine.machine) script).on_eq hfs
      have hmem := on_run_of_no_fault htree hplain hmirror (hagree.fault?.trans hnone)
      rw [hagree.changes, hagree.readFiles] at hmem
      have hchanges : ∀ change ∈ (w.snapshot s htree).changes script,
          change.1 ∈ s.tree.filesBelow w.root := fun change hchange =>
        (Snapshot.mem_files_of_mem_changes hchange).1
      have hmodified : (((w.snapshot s htree).changes script).map fun change =>
          w.pathOf change.1) = (((w.snapshot s htree).changes script).map fun change =>
            change.1.relative).map w.absolute := by
        rw [List.map_map]
        exact List.map_congr_left fun change hchange =>
          (absolute_relative htree hroot (hchanges change hchange)).symm
      refine ⟨hselected, ?_, ⟨((w.snapshot s htree).readFiles script).map Location.relative,
        ?_, ?_⟩, ?_⟩
      · rw [hunwatched, hmem]
        exact congrArg (fun paths => Except.ok (Summary.mk paths)) hmodified
      · rw [hmem, MemoryHost.putAll_frame]
        rfl
      · rw [hfs]
        exact map_pathOf htree hroot fun f hf => (Snapshot.mem_readFiles.1 hf).1
      · rw [hunwatched, hmem]
        refine Mirrors.putAll ?_ htree hplain hchanges
        exact ⟨hmirror.files, hmirror.isText, hmirror.noFailingReads, hmirror.noFailingWrites⟩

/-- Where the sweeps do the same, the commands apply to the same files. -/
theorem isTarget_of_sameSweep (hsame : SameSweep w s h script) {command : Command}
    (hcommand : command ∈ script.commands) {f : Location}
    (hf : f ∈ s.tree.filesBelow w.root) :
    (Mirrors.snapshot h w.root htree).isTarget script command f =
      (w.snapshot s htree).isTarget script command f := by
  have hfs := (w.presents s htree).selectedBy_eq [] script.filter command.files
  have hmem := (hmirror.presents hplain htree).selectedBy_eq [] script.filter command.files
  have hselected := hsame.selected command hcommand
  rw [MemoryHost.afterReading_nil] at hmem
  rw [hmem] at hselected
  replace hselected := hfs.symm.trans hselected
  rw [Snapshot.isTarget, Snapshot.isTarget]
  cases hfilter : Glob.compile script.filter with
  | error failure =>
      rw [Snapshot.isSelected_of_compile_eq_error hfilter,
        Snapshot.isSelected_of_compile_eq_error hfilter, Bool.and_false, Bool.and_false]
  | ok g =>
  cases hfiles : Glob.compile command.files with
  | error failure =>
      rw [Snapshot.isSelected_of_compile_eq_error hfiles,
        Snapshot.isSelected_of_compile_eq_error hfiles, Bool.false_and, Bool.false_and]
  | ok g' =>
      rw [hfilter, hfiles] at hselected
      have hpaths := (Except.ok.inj hselected).trans
        (map_pathOf htree hroot fun f hf => (List.mem_filter.1 hf).1).symm
      have hwatched := Snapshot.isIn_map_path (s := w.snapshot s htree) hf fun f =>
        (w.snapshot s htree).isSelected command.files f &&
          (w.snapshot s htree).isSelected script.filter f
      have hmirrored := Snapshot.isIn_map_path (s := w.snapshot s htree) hf fun f =>
        (Mirrors.snapshot h w.root htree).isSelected command.files f &&
          (Mirrors.snapshot h w.root htree).isSelected script.filter f
      rw [← hwatched, ← hmirrored]
      exact congrArg (Path.isIn _) hpaths.symm

end Agreement

theorem isTarget_eq_iff (htree : s.tree.WellFormed) (hplain : s.tree.PlainBelow w.root)
    (hroot : s.tree.isDirectory w.root = true) (hexcludes : w.excludes = []) (command : Command)
    {f : Location} (hf : f ∈ s.tree.filesBelow w.root) :
    (Mirrors.snapshot h w.root htree).isTarget script command f =
        (w.snapshot s htree).isTarget script command f ↔
      ((FileTree.isReachable (w.root ++ f) = true ∧
          (Glob.matchesPath script.filter f.relative = true ∨
            Glob.matchesPath script.filter (w.pathOf f) = true) ∧
          (Glob.matchesPath command.files f.relative = true ∨
            Glob.matchesPath command.files (w.pathOf f) = true)) ↔
        (Glob.matchesPath script.filter f.relative = true ∧
          Glob.matchesPath command.files f.relative = true)) := by
  have hmirrored : (Mirrors.snapshot h w.root htree).isTarget script command f = true ↔
      Glob.matchesPath script.filter f.relative = true ∧
        Glob.matchesPath command.files f.relative = true :=
    Bool.and_eq_true_iff.trans and_comm
  have hwatched : (w.snapshot s htree).isTarget script command f = true ↔
      FileTree.isReachable (w.root ++ f) = true ∧
        (Glob.matchesPath script.filter f.relative = true ∨
          Glob.matchesPath script.filter (w.pathOf f) = true) ∧
        (Glob.matchesPath command.files f.relative = true ∨
          Glob.matchesPath command.files (w.pathOf f) = true) := by
    rw [Snapshot.isTarget, isSelected_snapshot hexcludes, isSelected_snapshot hexcludes,
      leadsToFile_pathOf htree hplain hroot hf]
    simp only [Bool.and_eq_true, Bool.or_eq_true]
    constructor
    · rintro ⟨⟨hreachable, hfiles⟩, -, hfilter⟩
      exact ⟨hreachable, hfilter, hfiles⟩
    · rintro ⟨hreachable, hfilter, hfiles⟩
      exact ⟨⟨hreachable, hfiles⟩, hreachable, hfilter⟩
  rw [Bool.eq_iff_iff, hmirrored, hwatched]
  exact Iff.comm

/-- **Where a script does the same.** On a workspace without excludes and links, and on a host in
memory with the same files, a script does the same exactly if no absolute path makes a difference:
each of its commands applies to a file of the workspace if it applies to the relative path of the
file. -/
theorem sameSweep_iff {R : Path} {source : ScriptSource} (htree : s.tree.WellFormed)
    (hplain : s.tree.PlainBelow w.root)
    (hopen : open? MemoryMachine.machine R source ⟨[], false⟩ s = (.ok w, s))
    (hroot : s.tree.isDirectory w.root = true) (hmirror : Mirrors s.tree w.root h)
    (script : Script) :
    SameSweep w s h script ↔
      ∀ command ∈ script.commands, ∀ f : Location, w.root ++ f ∈ s.tree.files.map (·.1) →
        ((FileTree.isReachable (w.root ++ f) = true ∧
            (Glob.matchesPath script.filter f.relative = true ∨
              Glob.matchesPath script.filter (w.pathOf f) = true) ∧
            (Glob.matchesPath command.files f.relative = true ∨
              Glob.matchesPath command.files (w.pathOf f) = true)) ↔
          (Glob.matchesPath script.filter f.relative = true ∧
            Glob.matchesPath command.files f.relative = true)) := by
  obtain ⟨hexcludes, hwrites⟩ := eq_of_open? hopen
  constructor
  · intro hsame command hcommand f hf
    have hbelow := hplain.mem_filesBelow_iff.2 hf
    exact (isTarget_eq_iff htree hplain hroot hexcludes command hbelow).1
      (isTarget_of_sameSweep htree hplain hroot hmirror hsame hcommand hbelow)
  · intro hcondition
    refine sameSweep_of_isTarget htree hplain hroot hmirror hwrites
      fun command hcommand f hf => ?_
    exact (isTarget_eq_iff htree hplain hroot hexcludes command hf).2
      (hcondition command hcommand f (hplain.mem_filesBelow_iff.1 hf))

/-! ### A root that a glob names -/

def oneFile : MemoryMachine where
  tree := { files := [([['w'], ['a']], [0x78])], directories := [[['w']]] }

def oneFileWorkspace : Workspace := ⟨[['w']], .text [], [], false⟩

def oneFileInMemory : MemoryHost where
  files := PathMap.ofList [(⟨['a']⟩, ['x'])]

def replaceIn (files : Text) : Script where
  filter := ['*', '*']
  commands := [⟨files, ['x'], ['y'], .literal⟩]

theorem wellFormed_oneFile : oneFile.tree.WellFormed where
  names := by decide
  parents := by decide
  distinct := by decide

theorem mirrors_oneFile : Mirrors oneFile.tree oneFileWorkspace.root oneFileInMemory where
  files p t := by
    change (p, t) ∈ [(⟨['a']⟩, ['x'])] ↔ ∃ f : Location,
      ([['w']] ++ f, t.bytes) ∈ [([['w'], ['a']], [0x78])] ∧ f.relative = p
    simp only [List.mem_singleton, Prod.mk.injEq]
    constructor
    · rintro ⟨rfl, rfl⟩
      exact ⟨[['a']], ⟨rfl, by decide⟩, rfl⟩
    · rintro ⟨f, ⟨hf, ht⟩, rfl⟩
      obtain rfl : f = [['a']] := (List.cons.inj hf).2
      exact ⟨rfl, Text.bytes_inj ht⟩
  isText f content hf := by
    rw [(Prod.mk.inj (List.mem_singleton.1 hf)).2]
    exact ⟨['x'], by decide⟩
  noFailingReads := rfl
  noFailingWrites := rfl

theorem plainBelow_oneFile : oneFile.tree.PlainBelow oneFileWorkspace.root :=
  fun _ => List.not_mem_nil

theorem sameSweep_replaceIn_star :
    open? MemoryMachine.machine ⟨['/', 'w']⟩ (.text []) ⟨[], false⟩ oneFile =
        (.ok oneFileWorkspace, oneFile) ∧
      SameSweep oneFileWorkspace oneFile oneFileInMemory (replaceIn ['*']) := by
  have hopen : open? MemoryMachine.machine ⟨['/', 'w']⟩ (.text []) ⟨[], false⟩ oneFile =
      (.ok oneFileWorkspace, oneFile) := by rfl
  have hroot : oneFile.tree.isDirectory oneFileWorkspace.root = true := by decide
  refine ⟨hopen,
    (sameSweep_iff wellFormed_oneFile plainBelow_oneFile hopen hroot mirrors_oneFile _).2 ?_⟩
  intro command hcommand f hf
  obtain rfl := List.mem_singleton.1 hcommand
  obtain rfl : f = [['a']] := (List.cons.inj (List.mem_singleton.1 hf)).2
  decide

/-- The root is `/w`, so the glob `**/w/a` selects the file there and nothing in memory. -/
theorem not_sameSweep_of_root_in_glob :
    oneFile.tree.WellFormed ∧ oneFile.tree.PlainBelow oneFileWorkspace.root ∧
      open? MemoryMachine.machine ⟨['/', 'w']⟩ (.text []) ⟨[], false⟩ oneFile =
        (.ok oneFileWorkspace, oneFile) ∧
      oneFile.tree.isDirectory oneFileWorkspace.root = true ∧
      Mirrors oneFile.tree oneFileWorkspace.root oneFileInMemory ∧
      (replaceIn ['*', '*', '/', 'w', '/', 'a']).fault? = none ∧
      (Step.on (run (oneFileWorkspace.host MemoryMachine.machine)
        (replaceIn ['*', '*', '/', 'w', '/', 'a'])) oneFile).1 = .ok ⟨[⟨['/', 'w', '/', 'a']⟩]⟩ ∧
      (Step.on (run MemoryHost.host (replaceIn ['*', '*', '/', 'w', '/', 'a']))
        oneFileInMemory).1 = .ok ⟨[]⟩ ∧
      ¬SameSweep oneFileWorkspace oneFile oneFileInMemory
        (replaceIn ['*', '*', '/', 'w', '/', 'a']) := by
  have hmachine : (Step.on (run (oneFileWorkspace.host MemoryMachine.machine)
      (replaceIn ['*', '*', '/', 'w', '/', 'a'])) oneFile).1 =
      .ok ⟨[⟨['/', 'w', '/', 'a']⟩]⟩ := by rfl
  have hmemory : (Step.on (run MemoryHost.host (replaceIn ['*', '*', '/', 'w', '/', 'a']))
      oneFileInMemory).1 = .ok ⟨[]⟩ := by rfl
  refine ⟨wellFormed_oneFile, plainBelow_oneFile, rfl, by decide, mirrors_oneFile, by decide,
    hmachine, hmemory, ?_⟩
  intro hsame
  have hresult := hsame.result
  rw [hmachine, hmemory] at hresult
  cases hresult

end Workspace

end Sweep

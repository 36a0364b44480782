import Mathlib.Data.List.Nodup
import Sweep.Host.Workspace
import Sweep.Machine.Memory
import Sweep.Proofs.Following
import Sweep.Proofs.Recording

/-!
# Sweeps of a workspace

A workspace on a machine in memory shows the snapshot of the files and links below its root. Those
whose absolute path leads to no file are there as well, but no glob selects them. What is written to
a link goes to the file that the link leads to.
-/

namespace Sweep

open Sweeper

namespace FileTree

variable {tree : FileTree} {root f : Location}

/-- Whether no link is at a location or below it. -/
def PlainBelow (tree : FileTree) (root : Location) : Prop :=
  ∀ f, root ++ f ∉ tree.links.map (·.1)

/-- The files and links below a location, in order. -/
def filesBelow (tree : FileTree) (root : Location) : List Location :=
  (tree.leaves.filterMap fun l =>
    if root.isPrefixOf l then some (l.drop root.length) else none).mergeSort
      fun f g : Location => decide ¬g.key < f.key

theorem drop_eq_some_iff {l : Location} :
    (if root.isPrefixOf l then some (l.drop root.length) else none) = some f ↔ root ++ f = l := by
  constructor
  · intro h
    split at h
    · rename_i hfront
      obtain ⟨back, rfl⟩ := List.isPrefixOf_iff_prefix.1 hfront
      rw [List.drop_left] at h
      rw [Option.some.inj h]
    · cases h
  · rintro rfl
    rw [if_pos (List.isPrefixOf_iff_prefix.2 (List.prefix_append _ _)), List.drop_left]

theorem mem_filesBelow_iff : f ∈ tree.filesBelow root ↔ root ++ f ∈ tree.leaves := by
  rw [filesBelow, List.mem_mergeSort, List.mem_filterMap]
  constructor
  · rintro ⟨l, hl, hplace⟩
    rwa [drop_eq_some_iff.1 hplace]
  · intro hf
    exact ⟨root ++ f, hf, drop_eq_some_iff.2 rfl⟩

theorem PlainBelow.mem_filesBelow_iff (hplain : tree.PlainBelow root) :
    f ∈ tree.filesBelow root ↔ root ++ f ∈ tree.files.map (·.1) := by
  rw [FileTree.mem_filesBelow_iff, leaves, List.mem_append]
  exact or_iff_left (hplain f)

theorem isProper_of_mem_filesBelow (htree : tree.WellFormed) (hf : f ∈ tree.filesBelow root) :
    root.IsProper ∧ f.IsProper := by
  have hproper := htree.names _ (List.mem_append_left _ (mem_filesBelow_iff.1 hf))
  exact ⟨fun name hname => hproper name (List.mem_append_left _ hname),
    fun name hname => hproper name (List.mem_append_right _ hname)⟩

theorem nodup_filesBelow (htree : tree.WellFormed) : (tree.filesBelow root).Nodup := by
  rw [filesBelow, (List.mergeSort_perm _ _).nodup_iff]
  apply htree.distinct.filterMap
  intro k l f hk hl
  rw [← drop_eq_some_iff.1 hk, drop_eq_some_iff.1 hl]

theorem filesBelow_ascending (htree : tree.WellFormed) :
    (tree.filesBelow root).Pairwise fun f g => f.key < g.key := by
  have hsorted : (tree.filesBelow root).Pairwise fun f g => ¬g.key < f.key := by
    refine (List.pairwise_mergeSort ?_ ?_ _).imp fun h => of_decide_eq_true h
    · intro f g k hfg hgk
      exact decide_eq_true (List.le_trans (of_decide_eq_true hfg) (of_decide_eq_true hgk))
    · intro f g
      rw [Bool.or_eq_true, decide_eq_true_iff, decide_eq_true_iff]
      exact List.le_total f.key g.key
  apply (hsorted.and (nodup_filesBelow htree)).imp
  intro f g h
  refine Decidable.byContradiction fun hnlt => h.2 (Location.key_inj ?_)
  exact Std.Trichotomous.trichotomous _ _ hnlt h.1

def textAt (tree : FileTree) (p : Path) : Except FileFault Text :=
  match tree.read p with
  | .error fault => .error fault
  | .ok bytes =>
    match Bytes.text? bytes with
    | some text => .ok text
    | none => .error .notText

theorem exists_read_of_textAt {p : Path} {t : Text} (h : tree.textAt p = .ok t) :
    ∃ content, tree.read p = .ok content ∧ Bytes.text? content = some t := by
  unfold textAt at h
  split at h
  · cases h
  · rename_i content hread
    split at h
    · rename_i htext
      rw [← Except.ok.inj h]
      exact ⟨content, hread, htext⟩
    · cases h

end FileTree

theorem MemoryMachine.readText_eq (s : MemoryMachine) (p : Path) :
    MemoryMachine.machine.readText p s = (s.tree.textAt p, s) := by
  have hread : MemoryMachine.machine.read p s = (s.tree.read p, s) := rfl
  refine (bind_of_eq hread _).trans ?_
  unfold FileTree.textAt
  cases s.tree.read p with
  | error fault => rfl
  | ok bytes =>
  simp only
  cases Bytes.text? bytes with
  | none => rfl
  | some text => rfl

/-- The text of a script, or what the user is told where there is none. -/
def ScriptSource.textOn (tree : FileTree) : ScriptSource → Except HostError Text
  | .text t => .ok t
  | .file p => (tree.textAt p).mapError fun fault => .scriptUnavailable
      ("Could not read script ".toList ++ p.text ++ ": ".toList ++ fault.message)

theorem ScriptSource.read_eq (source : ScriptSource) (s : MemoryMachine) :
    source.read MemoryMachine.machine s = (source.textOn s.tree, s) := by
  cases source with
  | text t => rfl
  | file p =>
      refine (bind_of_eq (MemoryMachine.readText_eq s p) _).trans ?_
      rw [ScriptSource.textOn]
      cases s.tree.textAt p with
      | error fault => rfl
      | ok text => rfl

namespace Workspace

variable {w : Workspace} {s : MemoryMachine}

def snapshot (w : Workspace) (s : MemoryMachine) (htree : s.tree.WellFormed) :
    Snapshot Location where
  files := s.tree.filesBelow w.root
  path := w.pathOf
  ascending := by
    apply (FileTree.filesBelow_ascending htree).imp_of_mem
    intro f g hf hg hlt
    obtain ⟨hroot, hf⟩ := FileTree.isProper_of_mem_filesBelow htree hf
    obtain ⟨-, hg⟩ := FileTree.isProper_of_mem_filesBelow htree hg
    exact Location.key_path_append_lt hroot hf hg hlt
  selects g f := s.tree.leadsToFile (w.pathOf f) && w.selects g f
  read f := (s.tree.textAt (w.pathOf f)).mapError fun fault => .file (w.pathOf f) fault

theorem sortPaths_filesUnder (htree : s.tree.WellFormed) (choose : Location → Bool) :
    sortPaths (((s.tree.filesUnder w.root).filter choose).map w.pathOf) =
      ((s.tree.filesBelow w.root).filter fun f =>
        s.tree.leadsToFile (w.pathOf f) && choose f).map w.pathOf := by
  refine sortPaths_eq ?_ fun p => ?_
  · exact List.pairwise_map.2 ((w.snapshot s htree).ascending.filter _)
  · rw [List.mem_map, List.mem_map]
    refine exists_congr fun f => and_congr_left fun _ => ?_
    rw [List.mem_filter, List.mem_filter, FileTree.mem_filesBelow_iff,
      FileTree.mem_filesUnder_iff, Bool.and_eq_true, and_assoc]
    rfl

/-- A watched workspace shows its files until something is written. -/
theorem presents (w : Workspace) (s : MemoryMachine) (htree : s.tree.WellFormed) :
    Presents (w.host MemoryMachine.machine).recording (w.snapshot s htree)
      (fun read => (s, read)) where
  find read pattern := by
    change ((find MemoryMachine.machine w pattern s).1, (find MemoryMachine.machine w pattern s).2,
      read) = _
    unfold find Snapshot.find Snapshot.isSelected
    cases Glob.compile pattern with
    | error failure => rfl
    | ok g =>
        change (Except.ok (sortPaths (((s.tree.filesUnder w.root).filter (w.selects g)).map
          w.pathOf)), s, read) = _
        rw [sortPaths_filesUnder htree]
        rfl
  read read f _ := by
    have hread : Workspace.read MemoryMachine.machine (w.pathOf f) s =
        ((w.snapshot s htree).read f, s) :=
      bind_of_eq (MemoryMachine.readText_eq s _) _
    change ((Workspace.read MemoryMachine.machine (w.pathOf f) s).1,
      (Workspace.read MemoryMachine.machine (w.pathOf f) s).2, read ++ [w.pathOf f]) = _
    rw [hread]
    rfl

/-! ### Opening -/

theorem open?_eq (R : Path) (source : ScriptSource) (c : Configuration) (s : MemoryMachine) :
    open? MemoryMachine.machine R source c s =
      (match s.tree.resolve R, Glob.compileAll c.exclude with
        | .error fault, _ => .error (.file R fault)
        | .ok _, .error e => .error (.invalidGlob e)
        | .ok l, .ok excludes => .ok ⟨l, source, excludes, c.dryRun⟩, s) := by
  have hresolve : MemoryMachine.machine.resolve R s = (s.tree.resolve R, s) := rfl
  refine (bind_of_eq hresolve _).trans ?_
  cases s.tree.resolve R with
  | error fault => rfl
  | ok l =>
      cases Glob.compileAll c.exclude with
      | error e => rfl
      | ok excludes => rfl

theorem open?_eq_ok_iff {R : Path} {source : ScriptSource} {c : Configuration} :
    open? MemoryMachine.machine R source c s = (.ok w, s) ↔
      s.tree.resolve R = .ok w.root ∧ Glob.compileAll c.exclude = .ok w.excludes ∧
        w.script = source ∧ w.dryRun = c.dryRun := by
  rw [open?_eq]
  constructor
  · intro h
    have hresult := (Prod.mk.inj h).1
    split at hresult
    · cases hresult
    · cases hresult
    · rename_i l excludes hl hexcludes
      obtain rfl := Except.ok.inj hresult
      exact ⟨hl, hexcludes, rfl, rfl⟩
  · rintro ⟨hl, hexcludes, rfl, hdry⟩
    rw [hl, hexcludes, ← hdry]

/-! ### What a script changes -/

theorem leadsToFile_of_commandsFor (htree : s.tree.WellFormed) {script : Script} {f : Location}
    (hne : (w.snapshot s htree).commandsFor script f ≠ []) :
    s.tree.leadsToFile (w.pathOf f) = true := by
  obtain ⟨g, hg⟩ := Snapshot.exists_selects_of_commandsFor hne
  exact (Bool.and_eq_true_iff.1 hg).1

theorem anyMatches_of_commandsFor (htree : s.tree.WellFormed) {script : Script} {f : Location}
    (hne : (w.snapshot s htree).commandsFor script f ≠ []) :
    Glob.anyMatches w.excludes f.text = false := by
  obtain ⟨g, hg⟩ := Snapshot.exists_selects_of_commandsFor hne
  have hselects := (Bool.and_eq_true_iff.1 hg).2
  exact Bool.not_inj (Bool.and_eq_true_iff.1 hselects).1

theorem textAt_of_read (htree : s.tree.WellFormed) {f : Location} {t : Text}
    (hread : (w.snapshot s htree).read f = .ok t) : s.tree.textAt (w.pathOf f) = .ok t :=
  mapError_eq_ok_iff.1 hread

/-- The location that the path of a file or link below the root leads to. -/
def target (w : Workspace) (s : MemoryMachine) (f : Location) : Location :=
  (s.tree.resolve (w.pathOf f)).toOption.getD (w.root ++ f)

theorem target_eq {f l : Location} (h : s.tree.resolve (w.pathOf f) = .ok l) :
    w.target s f = l := by
  rw [target, h]
  rfl

/-- What a sweep writes goes to files that are there, and is not what they hold. -/
theorem exists_content_of_mem_changes (htree : s.tree.WellFormed) {script : Script}
    {change : Location × Text} (hchange : change ∈ (w.snapshot s htree).changes script) :
    s.tree.resolve (w.pathOf change.1) = .ok (w.target s change.1) ∧
      s.tree.placeOf (w.pathOf change.1) = .ok (w.target s change.1) ∧
      ∃ content, s.tree.entry? (w.target s change.1) = some (.file content) ∧
        content ≠ change.2.bytes := by
  obtain ⟨-, -, before, hread, -, hchanged⟩ := Snapshot.mem_changes_iff.1 hchange
  obtain ⟨content, hcontent, htext⟩ := FileTree.exists_read_of_textAt (textAt_of_read htree hread)
  obtain ⟨l, hresolve, hplace, hentry⟩ := FileTree.exists_placeOf_of_read hcontent
  rw [target_eq hresolve]
  refine ⟨hresolve, hplace, content, hentry, ?_⟩
  rintro rfl
  rw [Bytes.text?_bytes] at htext
  exact hchanged (Option.some.inj htext)

/-- Where no link is, a sweep writes to the files themselves. -/
theorem target_of_mem_changes (htree : s.tree.WellFormed) (hplain : s.tree.PlainBelow w.root)
    {script : Script} {change : Location × Text}
    (hchange : change ∈ (w.snapshot s htree).changes script) :
    w.target s change.1 = w.root ++ change.1 := by
  obtain ⟨hf, -, before, hread, -⟩ := Snapshot.mem_changes_iff.1 hchange
  obtain ⟨content, hcontent, -⟩ := FileTree.exists_read_of_textAt (textAt_of_read htree hread)
  have hne : w.root ++ change.1 ≠ [] := by
    intro hnil
    rw [pathOf, hnil] at hcontent
    exact FileTree.read_path_nil_ne_ok s.tree content hcontent
  obtain ⟨⟨l, b⟩, hmem, hl⟩ := List.mem_map.1 (hplain.mem_filesBelow_iff.1 hf)
  obtain rfl : l = w.root ++ change.1 := hl
  exact target_eq (FileTree.resolve_path htree hne hmem)

/-! ### Writing -/

/-- The machine after texts have been written to files, in order. -/
def putAll (s : MemoryMachine) (writes : List (Location × Text)) : MemoryMachine :=
  writes.foldl (fun s write => { s with tree := s.tree.putFile write.1 write.2.bytes }) s

theorem on_write (hwrites : w.dryRun = false) {f l : Location}
    (hplace : s.tree.placeOf (w.pathOf f) = .ok l) (t : Text) (read : List Path) :
    Step.on (call ((w.host MemoryMachine.machine).recording.write (w.pathOf f) t)) (s, read) =
      (.ok (), { s with tree := s.tree.putFile l t.bytes }, read) := by
  have hmachine : MemoryMachine.machine.write (w.pathOf f) t.bytes s =
      (.ok (), { s with tree := s.tree.putFile l t.bytes }) := by
    change MemoryMachine.change (fun tree => tree.write (w.pathOf f) t.bytes) s = _
    rw [MemoryMachine.change, FileTree.write_eq_ok_iff.2 ⟨l, hplace, rfl⟩]
  have hwrite : Workspace.write MemoryMachine.machine w (w.pathOf f) t s =
      (.ok (), { s with tree := s.tree.putFile l t.bytes }) := by
    rw [Workspace.write, hwrites, if_neg Bool.false_ne_true]
    exact bind_of_eq hmachine _
  change Step.on (call (beside (Workspace.write MemoryMachine.machine w (w.pathOf f) t)))
    (s, read) = _
  rw [Step.on_call]
  change (((Workspace.write MemoryMachine.machine w (w.pathOf f) t s).1.mapError _,
    (Workspace.write MemoryMachine.machine w (w.pathOf f) t s).2, read) : _ × _) = _
  rw [hwrite]
  rfl

/-- Writing to files that are there leaves every path where it leads, so the changes go to the
files that their paths led to in the beginning. -/
theorem on_writeAll (hwrites : w.dryRun = false) {changes : List (Location × Text)}
    {target : Location → Location}
    (hchanges : ∀ change ∈ changes, s.tree.placeOf (w.pathOf change.1) = .ok (target change.1) ∧
      ∃ content, s.tree.entry? (target change.1) = some (.file content)) (read : List Path) :
    Step.on (writeAll (w.host MemoryMachine.machine).recording
        (changes.map fun change => (w.pathOf change.1, change.2))) (s, read) =
      (.ok (), putAll s (changes.map fun change => (target change.1, change.2)), read) := by
  induction changes generalizing s with
  | nil => rfl
  | cons change others ih =>
      obtain ⟨hplace, content, hentry⟩ := hchanges change List.mem_cons_self
      have hshape := FileTree.SameShape.putFile hentry change.2.bytes
      rw [List.map_cons, writeAll, Step.on_bind, on_write hwrites hplace]
      refine ih fun other hother => ?_
      obtain ⟨hplace, content, hentry⟩ := hchanges other (List.mem_cons_of_mem _ hother)
      exact ⟨hshape.placeOf_eq_ok_iff.2 hplace, hshape.exists_file hentry⟩

/-- A dry run accepts all changes and makes none. -/
theorem on_writeAll_of_dryRun (hdry : w.dryRun = true) (changes : List (Path × Text))
    (read : List Path) :
    Step.on (writeAll (w.host MemoryMachine.machine).recording changes) (s, read) =
      (.ok (), s, read) := by
  induction changes with
  | nil => rfl
  | cons change others ih =>
      have hwrite : Step.on (call ((w.host MemoryMachine.machine).recording.write
          change.1 change.2)) (s, read) = (.ok (), s, read) := by
        change Step.on (call (beside (Workspace.write MemoryMachine.machine w change.1
          change.2))) (s, read) = _
        rw [Workspace.write, if_pos hdry]
        rfl
      rw [writeAll, Step.on_bind, hwrite]
      exact ih

theorem entry?_putAll_of_not_mem {l : Location} {writes : List (Location × Text)}
    (hl : l ∉ writes.map (·.1)) : FileTree.entry? (putAll s writes).tree l = s.tree.entry? l := by
  induction writes generalizing s with
  | nil => rfl
  | cons write others ih =>
      obtain ⟨hne, hothers⟩ := not_or.1 (mt List.mem_cons.2 hl)
      rw [putAll, List.foldl_cons, ← putAll, ih hothers, FileTree.entry?_putFile, if_neg hne]

/-- A file holds what was written to it last. -/
theorem exists_entry?_putAll {l : Location} {writes : List (Location × Text)}
    (hl : l ∈ writes.map (·.1)) : ∃ write ∈ writes, write.1 = l ∧
      FileTree.entry? (putAll s writes).tree l = some (.file write.2.bytes) := by
  induction writes generalizing s with
  | nil => cases hl
  | cons write others ih =>
      rw [putAll, List.foldl_cons, ← putAll]
      by_cases hothers : l ∈ others.map (·.1)
      · obtain ⟨last, hlast, hplace, hentry⟩ := ih hothers
        exact ⟨last, List.mem_cons_of_mem _ hlast, hplace, hentry⟩
      · obtain rfl : l = write.1 := (List.mem_cons.1 hl).resolve_right hothers
        refine ⟨write, List.mem_cons_self, rfl, ?_⟩
        rw [entry?_putAll_of_not_mem hothers, FileTree.entry?_putFile, if_pos rfl]

/-! ### Sweeping -/

/-- The machine after the changes of a sweep, of which a dry run makes none. -/
def commit (w : Workspace) (s : MemoryMachine) (changes : List (Location × Text)) :
    MemoryMachine :=
  if w.dryRun then s else putAll s (changes.map fun change => (w.target s change.1, change.2))

theorem commit_of_plain (htree : s.tree.WellFormed) (hplain : s.tree.PlainBelow w.root)
    (script : Script) : w.commit s ((w.snapshot s htree).changes script) =
      if w.dryRun then s
      else putAll s (((w.snapshot s htree).changes script).map fun change =>
        (w.root ++ change.1, change.2)) := by
  have htargets : (((w.snapshot s htree).changes script).map fun change =>
      (w.target s change.1, change.2)) =
      ((w.snapshot s htree).changes script).map fun change => (w.root ++ change.1, change.2) :=
    List.map_congr_left fun change hchange => by rw [target_of_mem_changes htree hplain hchange]
  rw [commit, htargets]

theorem on_watchedRun_of_no_fault (htree : s.tree.WellFormed) {script : Script}
    (hfault : (w.snapshot s htree).fault? script = none) :
    Step.on (run (w.host MemoryMachine.machine).recording script) (s, []) =
      (.ok ⟨((w.snapshot s htree).changes script).map fun change => w.pathOf change.1⟩,
        w.commit s ((w.snapshot s htree).changes script),
        ((w.snapshot s htree).readFiles script).map w.pathOf) := by
  have hrun := (w.presents s htree).on_run_of_no_fault hfault
  have hwriteAll : Step.on (writeAll (w.host MemoryMachine.machine).recording
      (((w.snapshot s htree).changes script).map fun change => (w.pathOf change.1, change.2)))
      (s, ((w.snapshot s htree).readFiles script).map w.pathOf) =
      (.ok (), w.commit s ((w.snapshot s htree).changes script),
        ((w.snapshot s htree).readFiles script).map w.pathOf) := by
    rw [commit]
    cases hdry : w.dryRun with
    | true => exact on_writeAll_of_dryRun hdry _ _
    | false =>
        refine on_writeAll hdry (fun change hchange => ?_) _
        obtain ⟨-, hplace, content, hentry, -⟩ := exists_content_of_mem_changes htree hchange
        exact ⟨hplace, content, hentry⟩
  change Step.on (writeAll _ (List.map (w.snapshot s htree).named _))
    (s, List.map (w.snapshot s htree).path _) = _ at hwriteAll
  refine hrun.trans ?_
  rw [Step.on_bind, hwriteAll]
  rfl

/-- **What a sweep of a workspace does.** It ends with the first fault of the snapshot and leaves
the machine alone, or it reports and makes the changes of the snapshot. -/
theorem on_run (w : Workspace) (s : MemoryMachine) (htree : s.tree.WellFormed)
    (script : Script) :
    Step.on (run (w.host MemoryMachine.machine) script) s =
      match (w.snapshot s htree).fault? script with
      | some e => (.error e, s)
      | none =>
        (.ok ⟨((w.snapshot s htree).changes script).map fun change => w.pathOf change.1⟩,
          w.commit s ((w.snapshot s htree).changes script)) := by
  have hrecords := Records.run (w.host MemoryMachine.machine) script
  cases hfault : (w.snapshot s htree).fault? script with
  | some e =>
      obtain ⟨read, hread⟩ := (w.presents s htree).on_run_of_fault hfault
      exact hrecords.on_eq hread
  | none => exact hrecords.on_eq (on_watchedRun_of_no_fault htree hfault)

end Workspace

end Sweep

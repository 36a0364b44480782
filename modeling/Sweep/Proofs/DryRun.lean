import Sweep.Proofs.Workspace

/-!
# Dry runs

A dry run looks at the files as the real run does, and writes nothing. So it tells how the real run
will end, as long as the machine lets that run write, and which files it will change: those that the
paths in its summary lead to.
-/

namespace Sweep

open Sweeper

theorem Sweeper.writeAll_congr {m : Type → Type} [Monad m] {host host' : Host m}
    {changes : List (Path × Text)}
    (h : ∀ change ∈ changes, host.write change.1 change.2 = host'.write change.1 change.2) :
    writeAll host changes = writeAll host' changes := by
  induction changes with
  | nil => rfl
  | cons change others ih =>
      obtain ⟨hfirst, hothers⟩ := List.forall_mem_cons.1 h
      rw [writeAll, writeAll, hfirst, ih hothers]

/-- The machine in memory if it does not let the program write to some paths. -/
def MemoryMachine.refusing (refusal? : Path → Option FileFault) : Machine (StateM MemoryMachine) :=
  { MemoryMachine.machine with
    write := fun p content =>
      match refusal? p with
      | some fault => pure (.error fault)
      | none => MemoryMachine.machine.write p content }

namespace Workspace

variable {w : Workspace} {s : MemoryMachine} {script : Script}
  {refusal? : Path → Option FileFault}

/-! ### Machines that refuse to write -/

theorem presents_refusing (w : Workspace) (refusal? : Path → Option FileFault)
    (htree : s.tree.WellFormed) :
    Presents (w.host (MemoryMachine.refusing refusal?)).recording (w.snapshot s htree)
      (fun read => (s, read)) where
  find := (w.presents s htree).find
  read := (w.presents s htree).read

theorem write_refusing {p : Path} (h : refusal? p = none) (t : Text) :
    Workspace.write (MemoryMachine.refusing refusal?) w p t =
      Workspace.write MemoryMachine.machine w p t := by
  have hmachine : (MemoryMachine.refusing refusal?).write p t.bytes =
      MemoryMachine.machine.write p t.bytes := by
    change (match refusal? p with
      | some fault => pure (Except.error fault)
      | none => MemoryMachine.machine.write p t.bytes) = _
    rw [h]
  rw [Workspace.write, Workspace.write, hmachine]

/-- A run that fails while it looks does so on every machine. -/
theorem on_run_refusing_of_fault (htree : s.tree.WellFormed) {e : Failure SweepError}
    (hfault : (w.snapshot s htree).fault? script = some e) :
    Step.on (run (w.host (MemoryMachine.refusing refusal?)) script) s = (.error e, s) := by
  obtain ⟨read, hread⟩ := (w.presents_refusing refusal? htree).on_run_of_fault hfault
  exact (Records.run _ script).on_eq hread

theorem on_run_refusing_of_no_fault (htree : s.tree.WellFormed)
    (hfault : (w.snapshot s htree).fault? script = none)
    (hwrites : ∀ change ∈ (w.snapshot s htree).changes script,
      refusal? (w.pathOf change.1) = none) :
    Step.on (run (w.host (MemoryMachine.refusing refusal?)) script) s =
      (.ok ⟨((w.snapshot s htree).changes script).map fun change => w.pathOf change.1⟩,
        w.commit s ((w.snapshot s htree).changes script)) := by
  have hrefusing := (w.presents_refusing refusal? htree).on_run_of_no_fault hfault
  have hwriteAll : writeAll (w.host (MemoryMachine.refusing refusal?)).recording
      (((w.snapshot s htree).changes script).map (w.snapshot s htree).named) =
      writeAll (w.host MemoryMachine.machine).recording
        (((w.snapshot s htree).changes script).map (w.snapshot s htree).named) := by
    apply writeAll_congr
    intro named hnamed
    obtain ⟨change, hchange, rfl⟩ := List.mem_map.1 hnamed
    exact congrArg beside (write_refusing (hwrites change hchange) change.2)
  rw [hwriteAll, ← (w.presents s htree).on_run_of_no_fault hfault,
    on_watchedRun_of_no_fault htree hfault] at hrefusing
  exact (Records.run _ script).on_eq hrefusing

/-! ### The preview -/

theorem sameShape_putAll {writes : List (Location × Text)}
    (hwrites : ∀ write ∈ writes, ∃ content, s.tree.entry? write.1 = some (.file content)) :
    FileTree.SameShape s.tree (putAll s writes).tree := by
  induction writes generalizing s with
  | nil => exact .refl _
  | cons write others ih =>
      obtain ⟨content, hentry⟩ := hwrites write List.mem_cons_self
      have hshape := FileTree.SameShape.putFile hentry write.2.bytes
      refine hshape.trans (ih (s := { s with tree := s.tree.putFile write.1 write.2.bytes })
        fun other hother => ?_)
      obtain ⟨content, hentry⟩ := hwrites other (List.mem_cons_of_mem _ hother)
      exact hshape.exists_file hentry

section Commit

variable (htree : s.tree.WellFormed) (hwrites : w.dryRun = false)

theorem sameShape_commit :
    FileTree.SameShape s.tree (w.commit s ((w.snapshot s htree).changes script)).tree := by
  rw [commit]
  split
  · exact .refl _
  · refine sameShape_putAll fun write hwrite => ?_
    obtain ⟨change, hchange, rfl⟩ := List.mem_map.1 hwrite
    obtain ⟨-, -, content, hentry, -⟩ := exists_content_of_mem_changes htree hchange
    exact ⟨content, hentry⟩

include hwrites

/-- Where a path of the summary leads, a real run leaves other bytes. -/
theorem exists_bytes_of_mem_changes {change : Location × Text}
    (hchange : change ∈ (w.snapshot s htree).changes script) :
    ∃ before after, before ≠ after ∧
      s.tree.entry? (w.target s change.1) = some (.file before) ∧
      FileTree.entry? (w.commit s ((w.snapshot s htree).changes script)).tree
        (w.target s change.1) = some (.file after) := by
  rw [commit, hwrites, if_neg Bool.false_ne_true]
  have hwritten : w.target s change.1 ∈ (((w.snapshot s htree).changes script).map fun change =>
      (w.target s change.1, change.2)).map (·.1) := by
    rw [List.map_map]
    exact List.mem_map_of_mem hchange
  obtain ⟨write, hwrite, hplace, hafter⟩ := exists_entry?_putAll (s := s) hwritten
  -- Several paths may lead to the file. The last one settles what it holds.
  obtain ⟨last, hlast, rfl⟩ := List.mem_map.1 hwrite
  obtain ⟨-, -, content, hbefore, hne⟩ := exists_content_of_mem_changes htree hlast
  change w.target s last.1 = w.target s change.1 at hplace
  rw [hplace] at hbefore
  exact ⟨content, last.2.bytes, hne, hbefore, hafter⟩

/-- A real run leaves something else at the locations that the paths of the summary lead to, and
nowhere else. -/
theorem entry?_commit_ne_iff {l : Location} :
    FileTree.entry? (w.commit s ((w.snapshot s htree).changes script)).tree l ≠ s.tree.entry? l ↔
      ∃ p ∈ ((w.snapshot s htree).changes script).map fun change => w.pathOf change.1,
        s.tree.resolve p = .ok l := by
  constructor
  · intro hchanged
    have hmem : l ∈ (((w.snapshot s htree).changes script).map fun change =>
        (w.target s change.1, change.2)).map (·.1) := by
      by_contra hnone
      rw [commit, hwrites, if_neg Bool.false_ne_true, entry?_putAll_of_not_mem hnone] at hchanged
      exact hchanged rfl
    obtain ⟨write, hwrite, rfl⟩ := List.mem_map.1 hmem
    obtain ⟨change, hchange, rfl⟩ := List.mem_map.1 hwrite
    exact ⟨w.pathOf change.1, List.mem_map_of_mem hchange,
      (exists_content_of_mem_changes htree hchange).1⟩
  · rintro ⟨p, hp, hresolve⟩
    obtain ⟨change, hchange, rfl⟩ := List.mem_map.1 hp
    obtain ⟨before, after, hne, hbefore, hafter⟩ :=
      exists_bytes_of_mem_changes htree hwrites hchange
    rw [target_eq hresolve] at hbefore hafter
    rw [hbefore, hafter]
    intro heq
    exact hne (Entry.file.inj (Option.some.inj heq)).symm

theorem exists_read_of_mem_modified {p : Path}
    (hp : p ∈ ((w.snapshot s htree).changes script).map fun change => w.pathOf change.1) :
    ∃ before after, before ≠ after ∧ s.tree.read p = .ok before ∧
      FileTree.read (w.commit s ((w.snapshot s htree).changes script)).tree p = .ok after := by
  obtain ⟨change, hchange, rfl⟩ := List.mem_map.1 hp
  obtain ⟨before, after, hne, hbefore, hafter⟩ := exists_bytes_of_mem_changes htree hwrites hchange
  obtain ⟨hresolve, hplace, -⟩ := exists_content_of_mem_changes htree hchange
  have hpath := (FileTree.placeOf_eq_ok_iff.1 hplace).1
  have hshape : FileTree.SameShape s.tree
      (w.commit s ((w.snapshot s htree).changes script)).tree := sameShape_commit htree
  exact ⟨before, after, hne, FileTree.read_eq_ok_iff.2 ⟨hpath, _, hresolve, hbefore⟩,
    FileTree.read_eq_ok_iff.2 ⟨hpath, _, hshape.resolve_eq_ok_iff.2 hresolve, hafter⟩⟩

/-- Where no link is, the summary lists the very files that change. -/
theorem mem_modified_iff_of_plain (hplain : s.tree.PlainBelow w.root) {p : Path} :
    (p ∈ ((w.snapshot s htree).changes script).map fun change => w.pathOf change.1) ↔
      ∃ l : Location, l.path = p ∧
        FileTree.entry? (w.commit s ((w.snapshot s htree).changes script)).tree l ≠
          s.tree.entry? l := by
  simp only [entry?_commit_ne_iff htree hwrites]
  have hplace : ∀ change ∈ (w.snapshot s htree).changes script,
      s.tree.resolve (w.pathOf change.1) = .ok (w.root ++ change.1) := by
    intro change hchange
    rw [← target_of_mem_changes htree hplain hchange]
    exact (exists_content_of_mem_changes htree hchange).1
  constructor
  · intro hp
    obtain ⟨change, hchange, rfl⟩ := List.mem_map.1 hp
    exact ⟨w.root ++ change.1, rfl, _, hp, hplace change hchange⟩
  · rintro ⟨l, rfl, q, hq, hresolve⟩
    obtain ⟨change, hchange, rfl⟩ := List.mem_map.1 hq
    rw [hplace change hchange] at hresolve
    rw [← Except.ok.inj hresolve]
    exact hq

end Commit

/-- **A dry run is a faithful preview.** It leaves the machine as it is. If it fails, the real run
fails in the same way. Otherwise the real run, as long as the machine lets it write, ends with the
same summary. The files that it changes are those that the paths of the summary lead to, and under
each of these paths other bytes are read afterwards. Where no link is below the root, the summary
lists the files that change by their own paths. -/
theorem run_dryRun (htree : s.tree.WellFormed) (w : Workspace) (script : Script)
    (refusal? : Path → Option FileFault) :
    ∃ outcome,
      Step.on (run ({ w with dryRun := true }.host (MemoryMachine.refusing refusal?)) script) s =
        (outcome, s) ∧
      match outcome with
      | .error e =>
        Step.on (run ({ w with dryRun := false }.host (MemoryMachine.refusing refusal?)) script) s =
          (.error e, s)
      | .ok summary =>
        (∀ p ∈ summary.modified, refusal? p = none) →
          ∃ after,
            Step.on (run ({ w with dryRun := false }.host (MemoryMachine.refusing refusal?))
              script) s = (.ok summary, after) ∧
            (∀ l, FileTree.entry? after.tree l ≠ s.tree.entry? l ↔
              ∃ p ∈ summary.modified, s.tree.resolve p = .ok l) ∧
            (∀ p ∈ summary.modified, ∃ old new, old ≠ new ∧
              s.tree.read p = .ok old ∧ after.tree.read p = .ok new) ∧
            (s.tree.PlainBelow w.root → ∀ p, p ∈ summary.modified ↔ ∃ l : Location, l.path = p ∧
              FileTree.entry? after.tree l ≠ s.tree.entry? l) := by
  have hdry : Step.on
      (run ({ w with dryRun := true }.host (MemoryMachine.refusing refusal?)) script) s = _ :=
    on_run { w with dryRun := true } s htree script
  -- Both runs look at the same snapshot.
  cases hfault : ({ w with dryRun := true }.snapshot s htree).fault? script with
  | some e =>
      rw [hfault] at hdry
      exact ⟨.error e, hdry, on_run_refusing_of_fault htree hfault⟩
  | none =>
      rw [hfault] at hdry
      refine ⟨_, hdry, fun hwrites => ⟨_, on_run_refusing_of_no_fault htree hfault ?_,
        fun l => ?_, fun p hp => ?_, fun hplain p => ?_⟩⟩
      · intro change hchange
        exact hwrites _ (List.mem_map_of_mem hchange)
      · exact entry?_commit_ne_iff (w := { w with dryRun := false }) htree rfl
      · exact exists_read_of_mem_modified (w := { w with dryRun := false }) htree rfl hp
      · exact mem_modified_iff_of_plain (w := { w with dryRun := false }) htree rfl hplain

/-- A directory with three texts, and with a link to the first one. -/
def linkedTexts : MemoryMachine where
  tree :=
    { files := [([['w'], ['a']], [0x78]), ([['w'], ['b']], [0x7A]), ([['w'], ['c']], [0x7A])]
      links := [([['w'], ['d']], ⟨['a']⟩)]
      directories := [[['w']]] }

/-- The workspace in which the text that the link leads to is excluded. -/
def withoutA : Workspace := ⟨[['w']], .text [], [.piece (.literal 'a')], false⟩

/-- A script that selects all files. -/
def replaceX : Script where
  filter := ['*', '*']
  commands := [⟨['*'], ['x'], ['y'], .literal⟩]

/-- Only the link may be written. -/
def onlyD (p : Path) : Option FileFault := if p = ⟨['/', 'w', '/', 'd']⟩ then none else some .denied

theorem wellFormed_linkedTexts : linkedTexts.tree.WellFormed where
  names := by decide
  parents := by decide
  distinct := by decide

theorem run_dryRun_linkedTexts :
    (∀ p ∈ [(⟨['/', 'w', '/', 'd']⟩ : Path)], onlyD p = none) ∧
      Step.on (run ({ withoutA with dryRun := true }.host (MemoryMachine.refusing onlyD))
        replaceX) linkedTexts = (.ok ⟨[⟨['/', 'w', '/', 'd']⟩]⟩, linkedTexts) ∧
      ∃ after,
        Step.on (run ({ withoutA with dryRun := false }.host (MemoryMachine.refusing onlyD))
          replaceX) linkedTexts = (.ok ⟨[⟨['/', 'w', '/', 'd']⟩]⟩, after) ∧
        FileTree.entry? after.tree [['w'], ['a']] ≠ linkedTexts.tree.entry? [['w'], ['a']] := by
  have hmodified : Step.on (run ({ withoutA with dryRun := true }.host
      (MemoryMachine.refusing onlyD)) replaceX) linkedTexts =
      (.ok ⟨[⟨['/', 'w', '/', 'd']⟩]⟩, linkedTexts) := by rfl
  obtain ⟨outcome, hdry, hreal⟩ := run_dryRun wellFormed_linkedTexts withoutA replaceX onlyD
  rw [hmodified] at hdry
  obtain rfl := (Prod.mk.inj hdry).1
  obtain ⟨after, hafter, hchanged, -⟩ := hreal (by decide)
  refine ⟨by decide, hmodified, after, hafter, (hchanged _).2 ?_⟩
  exact ⟨_, List.mem_singleton_self _, by rfl⟩

end Workspace

end Sweep

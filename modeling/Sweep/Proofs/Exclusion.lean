import Sweep.Proofs.Agreement
import Sweep.Proofs.Workspace

/-!
# Excluded files

Taking files out of a tree leaves the others where they are, with what they hold. A workspace
without excludes therefore shows, on the tree without the excluded files, what the workspace with
its excludes shows on the whole tree: no glob selects an excluded file there. So a script does the
same on both, and the excluded files stay as they are.
-/

namespace Sweep

open Sweeper

/-! ### Trees without some of their files -/

namespace FileTree

variable {tree : FileTree} {drop : Location → Bool} {l : Location} {content : Bytes}

/-- The tree without the files at some locations. All directories stay. -/
def withoutFiles (tree : FileTree) (drop : Location → Bool) : FileTree :=
  { tree with files := tree.files.filter fun e => !drop e.1 }

theorem mem_withoutFiles_iff :
    (l, content) ∈ (tree.withoutFiles drop).files ↔
      (l, content) ∈ tree.files ∧ drop l = false := by
  rw [withoutFiles, List.mem_filter, Bool.not_eq_true']

theorem mem_map_withoutFiles_iff :
    l ∈ (tree.withoutFiles drop).files.map (·.1) ↔
      l ∈ tree.files.map (·.1) ∧ drop l = false := by
  simp only [List.mem_map]
  constructor
  · rintro ⟨⟨k, content⟩, hmem, rfl⟩
    obtain ⟨hfile, hkept⟩ := mem_withoutFiles_iff.1 hmem
    exact ⟨⟨_, hfile, rfl⟩, hkept⟩
  · rintro ⟨⟨⟨k, content⟩, hfile, rfl⟩, hkept⟩
    exact ⟨_, mem_withoutFiles_iff.2 ⟨hfile, hkept⟩, rfl⟩

theorem mem_leaves_of_withoutFiles (h : l ∈ (tree.withoutFiles drop).leaves) : l ∈ tree.leaves := by
  rcases List.mem_append.1 h with hfile | hlink
  · exact List.mem_append_left _ (mem_map_withoutFiles_iff.1 hfile).1
  · exact List.mem_append_right _ hlink

theorem isDirectory_withoutFiles (h : tree.isDirectory l = true) :
    (tree.withoutFiles drop).isDirectory l = true := by
  obtain ⟨hleaf, hdirectory⟩ := isDirectory_iff.1 h
  exact isDirectory_iff.2 ⟨fun hmem => hleaf (mem_leaves_of_withoutFiles hmem), hdirectory⟩

theorem mem_locations_of_withoutFiles (h : l ∈ (tree.withoutFiles drop).locations) :
    l ∈ tree.locations := by
  rcases List.mem_append.1 h with hleaf | hdirectory
  · exact List.mem_append_left _ (mem_leaves_of_withoutFiles hleaf)
  · exact List.mem_append_right _ hdirectory

theorem WellFormed.withoutFiles (htree : tree.WellFormed) (drop : Location → Bool) :
    (tree.withoutFiles drop).WellFormed where
  names l hl := htree.names l (mem_locations_of_withoutFiles hl)
  parents l hl := (htree.parents l (mem_locations_of_withoutFiles hl)).imp_right
    isDirectory_withoutFiles
  distinct := htree.distinct.sublist ((List.filter_sublist.map _).append_right _)

theorem entry?_withoutFiles_eq_link_iff (htree : tree.WellFormed) {target : Path} :
    FileTree.entry? (tree.withoutFiles drop) l = some (.link target) ↔
      tree.entry? l = some (.link target) := by
  have hlink : ∀ {tree : FileTree}, tree.WellFormed →
      (tree.entry? l = some (.link target) ↔ (l, target) ∈ tree.links) := by
    intro tree htree
    refine ⟨fun hentry => mem_links_of_entry? hentry, fun hmem => ?_⟩
    obtain ⟨-, hlinks, hdisjoint⟩ := List.nodup_append.1 htree.distinct
    have hnone : tree.files.find? (·.1 == l) = none :=
      find?_fst_eq_none_iff.2 fun hfile => hdisjoint l hfile l (List.mem_map_of_mem hmem) rfl
    unfold entry?
    rw [hnone, find?_fst_of_mem hlinks hmem]
  rw [hlink htree, hlink (htree.withoutFiles drop)]
  rfl

theorem filesBelow_withoutFiles (htree : tree.WellFormed) {root : Location}
    (hplain : tree.PlainBelow root) :
    (tree.withoutFiles drop).filesBelow root =
      (tree.filesBelow root).filter fun f => !drop (root ++ f) := by
  have hplain' : (tree.withoutFiles drop).PlainBelow root := hplain
  refine eq_of_ascending_of_mem_iff Location.key
    (filesBelow_ascending (htree.withoutFiles drop))
    ((filesBelow_ascending htree).filter _) fun f => ?_
  rw [List.mem_filter, hplain.mem_filesBelow_iff, hplain'.mem_filesBelow_iff,
    mem_map_withoutFiles_iff, Bool.not_eq_true']

/-! #### Following a path -/

/-- A path leads to where it led, if that is still there: on the way there are only directories and
links. -/
theorem Leads.withoutFiles (htree : tree.WellFormed) {start last : Location} {links : Nat}
    {parts : List Text} (h : Leads tree .find last links start parts)
    (hlast : (FileTree.entry? (tree.withoutFiles drop) last).isSome) :
    Leads (tree.withoutFiles drop) .find last links start parts := by
  have harrive_find : ∀ {l next : Location} {part : Text} {others : List Text},
      tree.arrive .find l part others = .ok next →
      (FileTree.entry? (tree.withoutFiles drop) next).isSome →
      (tree.withoutFiles drop).arrive .find l part others = .ok next := by
    intro l next part others harrive hnext
    rw [arrive_find] at harrive ⊢
    exact enter_of_entries harrive (isDirectory_withoutFiles (isDirectory_of_enter harrive))
      fun _ => hnext
  induction h with
  | here => exact .here
  | @step _ _ next _ others harrive hentry h ih =>
      refine .step (harrive_find harrive ?_)
        (fun target => mt (entry?_withoutFiles_eq_link_iff htree).1 (hentry target)) ih
      cases h with
      | here => exact hlast
      | step henter =>
          rw [arrive_find] at henter
          exact isSome_of_isDirectory (isDirectory_withoutFiles (isDirectory_of_enter henter))
      | jump henter =>
          rw [arrive_find] at henter
          exact isSome_of_isDirectory (isDirectory_withoutFiles (isDirectory_of_enter henter))
  | jump harrive hentry _ ih =>
      have hlink : FileTree.entry? (tree.withoutFiles drop) _ = some (.link _) :=
        (entry?_withoutFiles_eq_link_iff htree).2 hentry
      refine .jump (harrive_find harrive ?_) hlink ih
      rw [hlink]
      rfl

theorem resolve_withoutFiles (htree : tree.WellFormed) {p : Path} (h : tree.resolve p = .ok l)
    (hlast : (FileTree.entry? (tree.withoutFiles drop) l).isSome) :
    (tree.withoutFiles drop).resolve p = .ok l := by
  obtain ⟨htext, hleads⟩ := resolve_eq_ok_iff.1 h
  exact resolve_eq_ok_iff.2 ⟨htext, hleads.withoutFiles htree hlast⟩

/-! #### Reading and writing -/

theorem leadsToFile_withoutFiles (htree : tree.WellFormed) (h : l ∈ tree.files.map (·.1))
    (hkept : drop l = false) :
    (tree.withoutFiles drop).leadsToFile l.path = tree.leadsToFile l.path := by
  by_cases hnil : l = []
  · subst hnil
    rw [Bool.eq_iff_iff, leadsToFile_iff, leadsToFile_iff]
    exact iff_of_false (fun ⟨content, hread⟩ => read_path_nil_ne_ok _ content hread)
      fun ⟨content, hread⟩ => read_path_nil_ne_ok _ content hread
  · rw [leadsToFile_path htree hnil h, leadsToFile_path (htree.withoutFiles drop) hnil
      (mem_map_withoutFiles_iff.2 ⟨h, hkept⟩)]

theorem textAt_withoutFiles (htree : tree.WellFormed) (h : (l, content) ∈ tree.files)
    (hkept : drop l = false) (hleads : tree.leadsToFile l.path = true) :
    (tree.withoutFiles drop).textAt l.path = tree.textAt l.path := by
  have hmem : (l, content) ∈ (tree.withoutFiles drop).files := mem_withoutFiles_iff.2 ⟨h, hkept⟩
  have hnil : l ≠ [] := by
    rintro rfl
    obtain ⟨b, hread⟩ := leadsToFile_iff.1 hleads
    exact read_path_nil_ne_ok _ b hread
  have hreachable : isReachable l = true := by
    rwa [leadsToFile_path htree hnil (List.mem_map_of_mem h)] at hleads
  rw [textAt, textAt, read_path htree hnil h hreachable,
    read_path (htree.withoutFiles drop) hnil hmem hreachable]

theorem filter_put (hkept : drop l = false) (new : Bytes) (files : List (Location × Bytes)) :
    (put l new files).filter (fun e => !drop e.1) =
      put l new (files.filter fun e => !drop e.1) := by
  induction files with
  | nil => simp [put, hkept]
  | cons file files ih =>
      by_cases heq : file.1 = l
      · simp [put, heq, hkept]
      · by_cases hdrop : drop file.1 = true
        · simp [put, heq, hdrop, ih]
        · simp [put, heq, hdrop, ih]

theorem withoutFiles_putFile (hkept : drop l = false) (new : Bytes) :
    (tree.putFile l new).withoutFiles drop = (tree.withoutFiles drop).putFile l new := by
  rw [withoutFiles, putFile, filter_put hkept]
  rfl

end FileTree

/-! ### Looking up excludes -/

theorem Location.isSome_fileName? {f : Location} (hf : f.IsProper) :
    (Glob.fileName? f.text).isSome := by
  by_cases hnil : f = []
  · rw [hnil]
    rfl
  · have hlast := List.getLast?_eq_some_getLast hnil
    have hdots := (hf _ (List.getLast_mem hnil)).ne_dots
    rw [Glob.fileName?, Location.split_text hf hnil, hlast]
    simp [Option.filter, hdots]

/-- Globs that are looked up together match a location if one of them does. -/
theorem Glob.anyMatches_text (globs : List Glob) {f : Location} (hf : f.IsProper) :
    Glob.anyMatches globs f.text = globs.any fun g => g.isMatch f.text := by
  rw [Glob.anyMatches, Location.isSome_fileName? hf]
  simp

namespace Workspace

variable {w : Workspace} {s : MemoryMachine} {script : Script}

/-- Whether an exclude matches the path of a location below the root. -/
def isExcluded (w : Workspace) (l : Location) : Bool :=
  w.root.isPrefixOf l &&
    w.excludes.any fun g => g.isMatch (Location.text (l.drop w.root.length))

/-- The machine without the excluded files. -/
def prune (w : Workspace) (s : MemoryMachine) : MemoryMachine :=
  { s with tree := s.tree.withoutFiles w.isExcluded }

theorem isExcluded_append (w : Workspace) {f : Location} (hf : f.IsProper) :
    w.isExcluded (w.root ++ f) = Glob.anyMatches w.excludes f.text := by
  have hfront : w.root.isPrefixOf (w.root ++ f) = true :=
    List.isPrefixOf_iff_prefix.2 (List.prefix_append _ _)
  rw [isExcluded, hfront, List.drop_left, Bool.true_and, Glob.anyMatches_text _ hf]

/-- No command applies to an excluded file. -/
theorem isExcluded_of_commandsFor (htree : s.tree.WellFormed) {f : Location}
    (hf : f ∈ s.tree.filesBelow w.root)
    (hne : (w.snapshot s htree).commandsFor script f ≠ []) :
    w.isExcluded (w.root ++ f) = false := by
  rw [w.isExcluded_append (FileTree.isProper_of_mem_filesBelow htree hf).2]
  exact anyMatches_of_commandsFor htree hne

section Prune

variable (htree : s.tree.WellFormed) (hplain : s.tree.PlainBelow w.root)

theorem selects_withoutExcludes {f : Location} (h : Glob.anyMatches w.excludes f.text = false)
    (g : Glob) : { w with excludes := [] }.selects g f = w.selects g f := by
  rw [selects, selects, h]
  rfl

include hplain in
/-- Without the excluded files a workspace shows, without excludes, what it shows with them. -/
theorem agree_prune (script : Script) :
    ((w.snapshot s htree).restrict fun f => !w.isExcluded (w.root ++ f)).Agree
      ({ w with excludes := [] }.snapshot (w.prune s) (htree.withoutFiles _)) script where
  files := FileTree.filesBelow_withoutFiles htree hplain
  isTarget command _ f hf := by
    obtain ⟨hbelow, hkept⟩ := List.mem_filter.1 hf
    have hkept := (Bool.not_eq_true' _).mp hkept
    have hleads :=
      FileTree.leadsToFile_withoutFiles htree (hplain.mem_filesBelow_iff.1 hbelow) hkept
    have hproper := (FileTree.isProper_of_mem_filesBelow htree hbelow).2
    rw [w.isExcluded_append hproper] at hkept
    have hselected : ∀ pattern,
        ({ w with excludes := [] }.snapshot (w.prune s) (htree.withoutFiles _)).isSelected pattern f
          = (w.snapshot s htree).isSelected pattern f := by
      intro pattern
      unfold Snapshot.isSelected
      cases Glob.compile pattern with
      | error failure => rfl
      | ok g => exact congrArg₂ (· && ·) hleads (selects_withoutExcludes hkept g)
    exact congrArg₂ (· && ·) (hselected command.files) (hselected script.filter)
  read f hf hne := by
    obtain ⟨hbelow, hkept⟩ := List.mem_filter.1 hf
    obtain ⟨⟨l, content⟩, hmem, hl⟩ := List.mem_map.1 (hplain.mem_filesBelow_iff.1 hbelow)
    obtain rfl : l = w.root ++ f := hl
    have htext := FileTree.textAt_withoutFiles htree hmem ((Bool.not_eq_true' _).mp hkept)
      (leadsToFile_of_commandsFor htree hne)
    exact congrArg (Except.mapError fun fault => HostError.file (w.pathOf f) fault) htext

theorem selects_of_isExcluded (g : Glob) (f : Location) (hf : f ∈ (w.snapshot s htree).files)
    (hexcluded : (!w.isExcluded (w.root ++ f)) = false) :
    (w.snapshot s htree).selects g f = false := by
  rw [w.isExcluded_append (FileTree.isProper_of_mem_filesBelow htree hf).2] at hexcluded
  change (_ && (!Glob.anyMatches w.excludes f.text && _)) = false
  rw [hexcluded, Bool.false_and, Bool.and_false]

end Prune

theorem prune_putAll {writes : List (Location × Text)}
    (hkept : ∀ write ∈ writes, w.isExcluded write.1 = false) :
    w.prune (putAll s writes) = putAll (w.prune s) writes := by
  induction writes generalizing s with
  | nil => rfl
  | cons write others ih =>
      rw [putAll, putAll, List.foldl_cons, List.foldl_cons, ← putAll, ← putAll,
        ih fun other hother => hkept other (List.mem_cons_of_mem _ hother), prune,
        FileTree.withoutFiles_putFile (hkept write List.mem_cons_self)]
      rfl

theorem open?_prune (htree : s.tree.WellFormed) {R : Path} {source : ScriptSource}
    {c : Configuration} (hopen : open? MemoryMachine.machine R source c s = (.ok w, s))
    (hroot : (FileTree.entry? (w.prune s).tree w.root).isSome) :
    open? MemoryMachine.machine R source { c with exclude := [] } (w.prune s) =
      (.ok { w with excludes := [] }, w.prune s) := by
  obtain ⟨hresolve, -, hsource, hdry⟩ := open?_eq_ok_iff.1 hopen
  exact open?_eq_ok_iff.2 ⟨FileTree.resolve_withoutFiles htree hresolve hroot, rfl, hsource, hdry⟩

/-- **Excluded files might as well not be there.** Where no link is below the root, a script ends
the same way on the workspace and, without its excludes, on the machine without the excluded files,
and leaves the other files the same. The excluded files stay as they are. The workspace can also be
opened without them, unless its root is such a file. -/
theorem run_prune (htree : s.tree.WellFormed) (w : Workspace) (hplain : s.tree.PlainBelow w.root)
    (script : Script) :
    Step.on (run ({ w with excludes := [] }.host MemoryMachine.machine) script) (w.prune s) =
        ((Step.on (run (w.host MemoryMachine.machine) script) s).1,
          w.prune (Step.on (run (w.host MemoryMachine.machine) script) s).2) ∧
      (∀ l, w.isExcluded l = true →
        FileTree.entry? (Step.on (run (w.host MemoryMachine.machine) script) s).2.tree l =
          s.tree.entry? l) ∧
      ∀ R source c, open? MemoryMachine.machine R source c s = (.ok w, s) →
        (FileTree.entry? (w.prune s).tree w.root).isSome →
        open? MemoryMachine.machine R source { c with exclude := [] } (w.prune s) =
          (.ok { w with excludes := [] }, w.prune s) := by
  have hselects := selects_of_isExcluded (w := w) htree
  have hagree := agree_prune htree hplain script
  have hfault := hagree.fault?.trans (Snapshot.fault?_restrict hselects)
  have hchanges := hagree.changes.trans (Snapshot.changes_restrict hselects)
  have hcommit := commit_of_plain htree hplain script
  have hcommit' := commit_of_plain (w := { w with excludes := [] }) (s := w.prune s)
    (htree.withoutFiles _) hplain script
  have hkept : ∀ write ∈ ((w.snapshot s htree).changes script).map fun change =>
      (w.root ++ change.1, change.2), w.isExcluded write.1 = false := by
    intro write hwrite
    obtain ⟨change, hchange, rfl⟩ := List.mem_map.1 hwrite
    obtain ⟨hf, hne⟩ := Snapshot.mem_files_of_mem_changes hchange
    exact isExcluded_of_commandsFor htree hf hne
  refine ⟨?_, fun l hl => ?_, fun R source c => open?_prune htree⟩
  · rw [on_run _ _ (htree.withoutFiles _), on_run _ _ htree, hcommit', hcommit, hfault, hchanges]
    cases (w.snapshot s htree).fault? script with
    | some e => rfl
    | none =>
        simp only
        cases w.dryRun with
        | true => rfl
        | false =>
            simp only [Bool.false_eq_true, if_false, prune_putAll hkept]
            rfl
  · rw [on_run _ _ htree, hcommit]
    cases (w.snapshot s htree).fault? script with
    | some e => rfl
    | none =>
        simp only
        split
        · rfl
        · refine entry?_putAll_of_not_mem fun hmem => ?_
          obtain ⟨write, hwrite, rfl⟩ := List.mem_map.1 hmem
          rw [hkept write hwrite] at hl
          cases hl

/-- A directory with a text and with a file that is no text. -/
def textAndBytes : MemoryMachine where
  tree :=
    { files := [([['w'], ['a']], [0x78]), ([['w'], ['b']], [0xFF])]
      directories := [[['w']]] }

/-- The workspace in which only the text may be touched. -/
def textOnly : Workspace := ⟨[['w']], .text [], [.piece (.literal 'b')], false⟩

/-- A script that selects both files by their absolute paths. -/
def rewriteBoth : Script where
  filter := ['*', '*']
  commands := [⟨['/', 'w', '/', '*'], ['x'], ['y'], .literal⟩]

theorem wellFormed_textAndBytes : textAndBytes.tree.WellFormed where
  names := by decide
  parents := by decide
  distinct := by decide

theorem run_prune_textOnly :
    textAndBytes.tree.PlainBelow textOnly.root ∧
      open? MemoryMachine.machine ⟨['/', 'w']⟩ (.text []) ⟨[['b']], false⟩ textAndBytes =
        (.ok textOnly, textAndBytes) ∧
      (Step.on (run (textOnly.host MemoryMachine.machine) rewriteBoth) textAndBytes).1 =
        .ok ⟨[⟨['/', 'w', '/', 'a']⟩]⟩ ∧
      (Step.on (run ({ textOnly with excludes := [] }.host MemoryMachine.machine) rewriteBoth)
        (textOnly.prune textAndBytes)).1 = .ok ⟨[⟨['/', 'w', '/', 'a']⟩]⟩ ∧
      FileTree.entry? (Step.on (run (textOnly.host MemoryMachine.machine) rewriteBoth)
        textAndBytes).2.tree [['w'], ['b']] = some (.file [0xFF]) := by
  have hrun : (Step.on (run (textOnly.host MemoryMachine.machine) rewriteBoth) textAndBytes).1 =
      .ok ⟨[⟨['/', 'w', '/', 'a']⟩]⟩ := by rfl
  have hplain : textAndBytes.tree.PlainBelow textOnly.root := fun _ => List.not_mem_nil
  obtain ⟨hpruned, hexcluded, -⟩ := run_prune wellFormed_textAndBytes textOnly hplain rewriteBoth
  refine ⟨hplain, rfl, hrun, ?_, hexcluded [['w'], ['b']] (by decide)⟩
  rw [hpruned]
  exact hrun

end Workspace

end Sweep

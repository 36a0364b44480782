import Sweep.Proofs.GlobHeight
import Sweep.Proofs.Revision
import Sweep.Run

/-!
# What a sweep will do

Until it writes, a sweep only looks: it compiles, selects and reads. All it can see is a snapshot
of the files, and the snapshot settles what fails first and, if nothing does, which files change
and into what. Every host is treated through its snapshot.
-/

namespace Sweep

/-! ### Faults that need no file -/

/-- What a command makes of a text. -/
def Command.rewrite (command : Command) (t : Text) : Text :=
  match Substitution.ofSearch? command.search command.replacement command.mode with
  | some substitution => substitution.replaceIn t
  | none => t

/-- What is wrong with the search of a command. -/
def Command.searchFault? (command : Command) : Option SweepError :=
  match command.compile with
  | .ok _ => none
  | .error e => some e

/-- What comes of a glob that cannot be compiled. -/
def globFault? (pattern : Text) : Option (Failure SweepError) :=
  match Glob.compile pattern with
  | .ok _ => none
  | .error failure => some (failure.map fun e => .host (.invalidGlob e))

theorem globFault?_eq_none_iff {pattern : Text} :
    globFault? pattern = none ↔ ∃ g, Glob.compile pattern = .ok g := by
  rw [globFault?]
  cases Glob.compile pattern <;> simp

theorem globFault?_eq_some_iff {pattern : Text} {e : Failure SweepError} :
    globFault? pattern = some e ↔ ∃ failure : Failure GlobError,
      Glob.compile pattern = .error failure ∧
        failure.map (fun e => .host (.invalidGlob e)) = e := by
  rw [globFault?]
  cases Glob.compile pattern <;> simp

def Script.fault? (script : Script) : Option (Failure SweepError) :=
  ((script.commands.findSome? Command.searchFault?).map .error).or <|
    (globFault? script.filter).or <|
      script.commands.findSome? fun command => globFault? command.files

theorem Script.fault?_eq_none_iff {script : Script} :
    script.fault? = none ↔ script.commands.findSome? Command.searchFault? = none ∧
      globFault? script.filter = none ∧
      (script.commands.findSome? fun command => globFault? command.files) = none := by
  rw [fault?, Option.or_eq_none_iff, Option.or_eq_none_iff, Option.map_eq_none_iff]

theorem Command.compile_eq_ok_iff {command : Command} {compiled : CompiledCommand} :
    command.compile = .ok compiled ↔ compiled.command = command ∧
      Substitution.ofSearch? command.search command.replacement command.mode =
        some compiled.substitution ∧ compiled.substitution.fits = true := by
  unfold compile
  cases Substitution.ofSearch? command.search command.replacement command.mode with
  | none => simp
  | some substitution =>
      simp only [Option.some.injEq]
      constructor
      · intro h
        split at h
        · rename_i hfits
          obtain rfl := Except.ok.inj h
          exact ⟨rfl, rfl, hfits⟩
        · cases h
      · rintro ⟨rfl, rfl, hfits⟩
        rw [if_pos hfits]

theorem compileAll_of_fault {commands : List Command} {e : SweepError}
    (h : commands.findSome? Command.searchFault? = some e) : compileAll commands = .error e := by
  induction commands with
  | nil => cases h
  | cons command others ih =>
      rw [List.findSome?_cons, Command.searchFault?] at h
      rw [compileAll]
      cases hcompile : command.compile with
      | error e' =>
          rw [hcompile] at h
          rw [← Option.some.inj h]
      | ok first =>
          rw [hcompile] at h
          simp only
          rw [ih h]
          rfl

theorem compileAll_of_no_fault {commands : List Command}
    (h : commands.findSome? Command.searchFault? = none) :
    ∃ compiled, compileAll commands = .ok compiled ∧ compiled.map (·.command) = commands ∧
      ∀ c ∈ compiled, c.rewrite = c.command.rewrite := by
  induction commands with
  | nil => exact ⟨[], rfl, rfl, by simp⟩
  | cons command others ih =>
      rw [List.findSome?_cons, Command.searchFault?] at h
      cases hcompile : command.compile with
      | error e =>
          rw [hcompile] at h
          cases h
      | ok first =>
          rw [hcompile] at h
          obtain ⟨compiled, hcompiled, hcommands, hrewrite⟩ := ih h
          obtain ⟨rfl, hsearch, -⟩ := Command.compile_eq_ok_iff.1 hcompile
          refine ⟨first :: compiled, ?_, ?_, ?_⟩
          · rw [compileAll, hcompile]
            simp only
            rw [hcompiled]
            rfl
          · rw [List.map_cons, hcommands]
          · intro c hc
            rcases List.mem_cons.1 hc with rfl | hc
            · funext t
              rw [Command.rewrite, hsearch]
              rfl
            · exact hrewrite c hc

/-! ### Snapshots -/

/-- The files of a host at one time, in ascending order of their paths: which of them a glob
selects, and what reading them gives. -/
structure Snapshot (File : Type) where
  files : List File
  path : File → Path
  ascending : files.Pairwise fun f g => (path f).key < (path g).key
  selects : Glob → File → Bool
  read : File → Except HostError Text

namespace Snapshot

variable {File : Type} (s : Snapshot File)

/-- Whether a glob selects a file. One that cannot be compiled selects none. -/
def isSelected (pattern : Text) (f : File) : Bool :=
  match Glob.compile pattern with
  | .ok g => s.selects g f
  | .error _ => false

def find (pattern : Text) : Except (Failure HostError) (List Path) :=
  match Glob.compile pattern with
  | .ok _ => .ok ((s.files.filter (s.isSelected pattern)).map s.path)
  | .error failure => .error (failure.map .invalidGlob)

/-- Whether a command of a script applies to a file: its own glob and the filter select it. -/
def isTarget (script : Script) (command : Command) (f : File) : Bool :=
  s.isSelected command.files f && s.isSelected script.filter f

def targets (script : Script) : List (List File) :=
  script.commands.map fun command => s.files.filter (s.isTarget script command)

/-- The commands that apply to a file, in order. -/
def commandsFor (script : Script) (f : File) : List Command :=
  script.commands.filter fun command => s.isTarget script command f

def swept (script : Script) (f : File) (t : Text) : Text :=
  (s.commandsFor script f).foldl (fun t command => command.rewrite t) t

/-- The change of a file, if the script reads it and makes another text of it. -/
def change? (script : Script) (f : File) : Option (File × Text) :=
  if s.commandsFor script f = [] then none
  else (s.read f).toOption.bind fun t =>
    if s.swept script f t = t then none else some (f, s.swept script f t)

/-- The files that change, with their texts, in order of their paths. -/
def changes (script : Script) : List (File × Text) := s.files.filterMap (s.change? script)

def readFault? (f : File) : Option (Failure SweepError) :=
  match s.read f with
  | .ok _ => none
  | .error e => some (.error (.host e))

def fault? (script : Script) : Option (Failure SweepError) :=
  script.fault?.or ((s.targets script).flatten.findSome? s.readFault?)

variable {s}

theorem isSelected_of_compile_eq_error {pattern : Text} {failure : Failure GlobError}
    (h : Glob.compile pattern = .error failure) (f : File) : s.isSelected pattern f = false := by
  rw [isSelected, h]

theorem exists_selects_of_isTarget {script : Script} {command : Command} {f : File}
    (h : s.isTarget script command f = true) : ∃ g, s.selects g f = true := by
  have hselected := (Bool.and_eq_true_iff.1 h).1
  unfold isSelected at hselected
  split at hselected
  · exact ⟨_, hselected⟩
  · cases hselected

theorem exists_selects_of_commandsFor {script : Script} {f : File}
    (h : s.commandsFor script f ≠ []) : ∃ g, s.selects g f = true := by
  obtain ⟨command, hcommand⟩ := List.exists_mem_of_ne_nil _ h
  exact exists_selects_of_isTarget (List.mem_filter.1 hcommand).2

theorem readFault?_eq_none_iff {f : File} : s.readFault? f = none ↔ ∃ t, s.read f = .ok t := by
  unfold readFault?
  cases s.read f with
  | ok t => simp
  | error e => simp

theorem eq_of_key_eq {f g : File} (hf : f ∈ s.files) (hg : g ∈ s.files)
    (h : (s.path f).key = (s.path g).key) : f = g :=
  eq_of_ascending_of_key_eq (fun f => (s.path f).key) s.ascending hf hg h

theorem isIn_map_path {f : File} (hf : f ∈ s.files) (choose : File → Bool) :
    (s.path f).isIn ((s.files.filter choose).map s.path) = choose f := by
  rw [Bool.eq_iff_iff, Path.isIn_iff]
  constructor
  · rintro ⟨q, hq, hkey⟩
    obtain ⟨g, hg, rfl⟩ := List.mem_map.1 hq
    obtain ⟨hgfiles, hchoose⟩ := List.mem_filter.1 hg
    rwa [eq_of_key_eq hgfiles hf hkey] at hchoose
  · intro h
    exact ⟨s.path f, List.mem_map_of_mem (List.mem_filter.2 ⟨hf, h⟩), rfl⟩

theorem mem_targets_flatten {script : Script} {f : File} :
    f ∈ (s.targets script).flatten ↔ f ∈ s.files ∧ s.commandsFor script f ≠ [] := by
  have hcommands : s.commandsFor script f ≠ [] ↔
      ∃ command ∈ script.commands, s.isTarget script command f = true := by
    rw [commandsFor, Ne, List.filter_eq_nil_iff]
    simp
  rw [hcommands, List.mem_flatten]
  constructor
  · rintro ⟨l, hl, hf⟩
    obtain ⟨command, hcommand, rfl⟩ := List.mem_map.1 hl
    obtain ⟨hfiles, htarget⟩ := List.mem_filter.1 hf
    exact ⟨hfiles, command, hcommand, htarget⟩
  · rintro ⟨hfiles, command, hcommand, htarget⟩
    exact ⟨_, List.mem_map_of_mem hcommand, List.mem_filter.2 ⟨hfiles, htarget⟩⟩

theorem change?_eq_some_iff {script : Script} {f : File} {change : File × Text} :
    s.change? script f = some change ↔ change.1 = f ∧ s.commandsFor script f ≠ [] ∧
      ∃ before, s.read f = .ok before ∧ s.swept script f before = change.2 ∧
        change.2 ≠ before := by
  rw [change?]
  constructor
  · intro h
    split at h
    · cases h
    · rename_i hne
      obtain ⟨before, hread, h⟩ := Option.bind_eq_some_iff.1 h
      split at h
      · cases h
      · rename_i hswept
        obtain rfl := Option.some.inj h
        refine ⟨rfl, hne, before, ?_, rfl, hswept⟩
        cases hresult : s.read f with
        | ok u => rw [hresult] at hread; rw [Option.some.inj hread]
        | error e => rw [hresult] at hread; cases hread
  · rintro ⟨rfl, hne, before, hread, hswept, hchanged⟩
    rw [if_neg hne, hread]
    change (if s.swept script change.1 before = before then none else
      some (change.1, s.swept script change.1 before)) = some change
    rw [hswept, if_neg hchanged]

/-- A file changes if a command applies to it and it can be read and becomes another text. -/
theorem mem_changes_iff {script : Script} {change : File × Text} :
    change ∈ s.changes script ↔
      change.1 ∈ s.files ∧ s.commandsFor script change.1 ≠ [] ∧
        ∃ before, s.read change.1 = .ok before ∧ s.swept script change.1 before = change.2 ∧
          change.2 ≠ before := by
  rw [changes, List.mem_filterMap]
  constructor
  · rintro ⟨f, hf, h⟩
    obtain ⟨rfl, hrest⟩ := change?_eq_some_iff.1 h
    exact ⟨hf, hrest⟩
  · rintro ⟨hf, hrest⟩
    exact ⟨change.1, hf, change?_eq_some_iff.2 ⟨rfl, hrest⟩⟩

theorem mem_files_of_mem_changes {script : Script} {change : File × Text}
    (h : change ∈ s.changes script) :
    change.1 ∈ s.files ∧ s.commandsFor script change.1 ≠ [] := by
  obtain ⟨hf, hne, -⟩ := mem_changes_iff.1 h
  exact ⟨hf, hne⟩

end Snapshot

end Sweep

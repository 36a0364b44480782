import Sweep.Proofs.Instruction
import Sweep.Proofs.Refusal

/-!
# What reading leaves as it is

Lines may be refused at any point, and reading goes on. Whatever has been read, a draft that comes
later has what an earlier one had: its filter, the variables of a front matter that is over, and its
commands, to which only the end of an open block can add one.
-/

namespace Sweep

def Block.glob? : Block → Option Text
  | .idle => none
  | .files glob => some glob
  | .search glob? _ _ => glob?

/-- Something is left of the glob, and no blanks are around it. -/
def Text.IsTrimmedGlob (glob : Text) : Prop := glob ≠ [] ∧ glob.trim = glob

namespace Draft

/-- A block is open, or a command has been read. -/
def PastFrontMatter (draft : Draft) : Prop := draft.block ≠ .idle ∨ draft.commands ≠ []

structure HoldsTrimmedGlobs (draft : Draft) : Prop where
  filter : ∀ glob, draft.filter = some glob → glob.IsTrimmedGlob
  block : ∀ glob, draft.block.glob? = some glob → glob.IsTrimmedGlob
  commands : ∀ command ∈ draft.commands, command.files.IsTrimmedGlob

/-- What an earlier draft leaves to a later one. -/
structure Grows (before after : Draft) : Prop where
  filter : ∀ glob, before.filter = some glob → after.filter = some glob
  commands : before.commands <+: after.commands
  past : before.PastFrontMatter →
    after.PastFrontMatter ∧ after.filter = before.filter ∧ after.table = before.table

/-- The instruction closes the open search of a draft, which becomes one more command. -/
structure Closes (draft : Draft) (i : Instruction) (next : Draft) : Prop where
  replacement : ∃ payload files pattern mode, i = .replacement payload ∧
    draft.block = .search files pattern mode ∧
      next.commands = draft.commands ++ [⟨files.getD everyFile, pattern, payload, mode⟩]
  idle : next.block = .idle

theorem Grows.refl (draft : Draft) : Grows draft draft :=
  ⟨fun _ h => h, List.prefix_rfl, fun h => ⟨h, rfl, rfl⟩⟩

theorem Grows.trans {first second third : Draft} (h : Grows first second)
    (h' : Grows second third) : Grows first third where
  filter glob hglob := h'.filter glob (h.filter glob hglob)
  commands := h.commands.trans h'.commands
  past hpast := by
    obtain ⟨hsecond, hfilter, htable⟩ := h.past hpast
    obtain ⟨hthird, hfilter', htable'⟩ := h'.past hsecond
    exact ⟨hthird, hfilter'.trans hfilter, htable'.trans htable⟩

/-! ### One instruction -/

section Accept

variable {draft next : Draft} {i : Instruction}

theorem not_pastFrontMatter (hblock : draft.block = .idle) (hcommands : draft.commands = []) :
    ¬draft.PastFrontMatter :=
  fun h => h.elim (fun hne => hne hblock) fun hne => hne hcommands

theorem grows_accept (h : draft.accept i = .ok next) : Grows draft next := by
  cases i with
  | filter payload =>
      obtain ⟨⟨hfilter, hblock, hcommands⟩, -, rfl⟩ := accept_filter_eq_ok_iff.1 h
      refine ⟨fun glob hglob => ?_, List.prefix_rfl,
        fun hpast => absurd hpast (not_pastFrontMatter hblock hcommands)⟩
      rw [hfilter] at hglob
      cases hglob
  | files payload =>
      obtain ⟨-, -, rfl⟩ := accept_files_eq_ok_iff.1 h
      exact ⟨fun _ hglob => hglob, List.prefix_rfl, fun _ => ⟨.inl nofun, rfl, rfl⟩⟩
  | search mode payload =>
      obtain ⟨files, -, rfl⟩ := accept_search_eq_ok_iff.1 h
      exact ⟨fun _ hglob => hglob, List.prefix_rfl, fun _ => ⟨.inl nofun, rfl, rfl⟩⟩
  | replacement payload =>
      obtain ⟨files, pattern, mode, -, rfl⟩ := accept_replacement_eq_ok_iff.1 h
      exact ⟨fun _ hglob => hglob, List.prefix_append _ _, fun _ => ⟨.inr (by simp), rfl, rfl⟩⟩
  | assign name value =>
      obtain ⟨⟨hblock, hcommands⟩, rfl⟩ := accept_assign_eq_ok_iff.1 h
      exact ⟨fun _ hglob => hglob, List.prefix_rfl,
        fun hpast => absurd hpast (not_pastFrontMatter hblock hcommands)⟩
  | unrecognized => cases h

theorem commands_accept (h : draft.accept i = .ok next) :
    next.commands = draft.commands ∨ Closes draft i next := by
  cases i with
  | filter payload =>
      obtain ⟨-, -, rfl⟩ := accept_filter_eq_ok_iff.1 h
      exact .inl rfl
  | files payload =>
      obtain ⟨-, -, rfl⟩ := accept_files_eq_ok_iff.1 h
      exact .inl rfl
  | search mode payload =>
      obtain ⟨files, -, rfl⟩ := accept_search_eq_ok_iff.1 h
      exact .inl rfl
  | replacement payload =>
      obtain ⟨files, pattern, mode, hblock, rfl⟩ := accept_replacement_eq_ok_iff.1 h
      exact .inr ⟨⟨payload, files, pattern, mode, rfl, hblock, rfl⟩, rfl⟩
  | assign name value =>
      obtain ⟨-, rfl⟩ := accept_assign_eq_ok_iff.1 h
      exact .inl rfl
  | unrecognized => cases h

theorem isTrimmedGlob_globOf {payload glob : Text} (h : Instruction.globOf payload ≠ [])
    (hglob : some (Instruction.globOf payload) = some glob) : glob.IsTrimmedGlob := by
  obtain rfl := Option.some.inj hglob
  exact ⟨h, Instruction.trim_globOf payload⟩

theorem holdsTrimmedGlobs_accept (hdraft : draft.HoldsTrimmedGlobs)
    (h : draft.accept i = .ok next) : next.HoldsTrimmedGlobs := by
  cases i with
  | filter payload =>
      obtain ⟨-, hne, rfl⟩ := accept_filter_eq_ok_iff.1 h
      exact ⟨fun _ => isTrimmedGlob_globOf hne, hdraft.block, hdraft.commands⟩
  | files payload =>
      obtain ⟨-, hne, rfl⟩ := accept_files_eq_ok_iff.1 h
      exact ⟨hdraft.filter, fun _ => isTrimmedGlob_globOf hne, hdraft.commands⟩
  | search mode payload =>
      obtain ⟨files, hfiles, rfl⟩ := accept_search_eq_ok_iff.1 h
      refine ⟨hdraft.filter, fun glob hglob => ?_, hdraft.commands⟩
      rcases hfiles with ⟨-, rfl⟩ | ⟨glob', hblock, rfl⟩
      · cases hglob
      · exact hdraft.block glob (by rw [hblock]; exact hglob)
  | replacement payload =>
      obtain ⟨files, pattern, mode, hblock, rfl⟩ := accept_replacement_eq_ok_iff.1 h
      refine ⟨hdraft.filter, nofun, fun command hcommand => ?_⟩
      rcases List.mem_append.1 hcommand with hcommand | hcommand
      · exact hdraft.commands command hcommand
      · obtain rfl := List.mem_singleton.1 hcommand
        cases hfiles : files with
        | none => exact (by decide : everyFile ≠ [] ∧ everyFile.trim = everyFile)
        | some glob => exact hdraft.block glob (by rw [hblock, hfiles]; rfl)
  | assign name value =>
      obtain ⟨-, rfl⟩ := accept_assign_eq_ok_iff.1 h
      exact ⟨hdraft.filter, hdraft.block, hdraft.commands⟩
  | unrecognized => cases h

end Accept

/-! ### One line after the other -/

/-- The draft behind a line that is read in place. -/
def after (draft : Draft) (number : Nat) (raw : Text) : Draft :=
  ((Drafting.feed number raw).run.run draft).2

/-- A line leaves the draft as it was, or its instruction is taken in. -/
theorem after_cases (draft : Draft) (number : Nat) (raw : Text) :
    draft.after number raw = draft ∨
      draft.accept (Instruction.ofLine raw.trim) = .ok (draft.after number raw) := by
  rw [after, Drafting.run_feed, feed]
  split
  · exact .inl rfl
  · cases haccept : draft.accept (Instruction.ofLine raw.trim) with
    | error fault => exact .inl rfl
    | ok next => exact .inr rfl

theorem feedEach_append (draft : Draft) (lines others : List (Nat × Text)) :
    (draft.feedEach (lines ++ others)).1 = ((draft.feedEach lines).1.feedEach others).1 := by
  induction lines generalizing draft with
  | nil => rfl
  | cons line lines ih => exact ih (draft.after line.1 line.2)

/-- What every accepted instruction keeps, a run of lines keeps. -/
theorem feedEach_keeps {P : Draft → Prop} (hstep : ∀ draft i next, P draft →
      draft.accept i = .ok next → P next) {draft : Draft} (h : P draft)
    (lines : List (Nat × Text)) : P (draft.feedEach lines).1 := by
  induction lines generalizing draft with
  | nil => exact h
  | cons line lines ih =>
      have hafter : P (draft.after line.1 line.2) := by
        rcases draft.after_cases line.1 line.2 with heq | haccept
        · rwa [heq]
        · exact hstep _ _ _ h haccept
      exact ih hafter

theorem grows_feedEach (draft : Draft) (lines : List (Nat × Text)) :
    Grows draft (draft.feedEach lines).1 :=
  feedEach_keeps (fun _ _ _ h haccept => h.trans (grows_accept haccept)) (.refl draft) lines

theorem holdsTrimmedGlobs_empty : HoldsTrimmedGlobs {} := ⟨nofun, nofun, nofun⟩

/-- **The front matter freezes, and commands only come to those that are there.** Whatever lines
have been read, accepted or refused: a filter that is set stays, and once a block is open or a
command complete this stays so, and neither the filter nor a variable changes any more. A further
line adds no command, or it is the replacement of an open search, which it closes into one. Every
glob in the draft is trimmed and not empty. -/
theorem feedEach_grows (lines : List (Nat × Text)) :
    (∀ more, Grows (feedEach {} lines).1 (feedEach {} (lines ++ more)).1) ∧
    (∀ number raw,
      ((feedEach {} lines).1.after number raw).commands = (feedEach {} lines).1.commands ∨
        Closes (feedEach {} lines).1 (Instruction.ofLine raw.trim)
          ((feedEach {} lines).1.after number raw)) ∧
    (feedEach {} lines).1.HoldsTrimmedGlobs := by
  refine ⟨fun more => ?_, fun number raw => ?_, ?_⟩
  · rw [feedEach_append]
    exact grows_feedEach _ more
  · rcases (feedEach {} lines).1.after_cases number raw with heq | haccept
    · exact .inl (congrArg commands heq)
    · exact commands_accept haccept
  · exact feedEach_keeps (fun _ _ _ h haccept => holdsTrimmedGlobs_accept h haccept)
      holdsTrimmedGlobs_empty lines

def filterAndCommand : List (Nat × Text) :=
  [(1, "filter *.a".toList), (2, "replace \"b\"".toList), (3, "with \"c\"".toList)]

def filterAndAssignment : List (Nat × Text) :=
  [(4, "filter *.d".toList), (5, "e = \"f\"".toList)]

/-- Behind a command a second filter and an assignment are refused, and change nothing. -/
theorem feedEach_grows_past_front_matter :
    (feedEach {} filterAndCommand).1.PastFrontMatter ∧
      (feedEach {} (filterAndCommand ++ filterAndAssignment)).1.filter = some "*.a".toList ∧
      (feedEach {} (filterAndCommand ++ filterAndAssignment)).1.table = {} := by
  have hpast : (feedEach {} filterAndCommand).1.PastFrontMatter := .inr (by decide)
  obtain ⟨hgrows, -⟩ := feedEach_grows filterAndCommand
  obtain ⟨-, hfilter, htable⟩ := (hgrows filterAndAssignment).past hpast
  exact ⟨hpast, hfilter.trans rfl, htable.trans rfl⟩

end Draft

end Sweep

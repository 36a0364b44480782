import Sweep.Proofs.Draft

/-!
# Refused lines

The block is taken out of the draft before it is known whether the line may change it, so a refusal
has to put it back. It always does: reading in place leaves the new draft of `Draft.feed` where
that accepts the line, and the draft as it was where that refuses it. What a run of lines leads to
is then decided by its accepted lines alone.
-/

namespace Sweep

namespace Drafting

/-- The new draft in place of the old one, or the old one still in its place beside the error. -/
def replaced {ε : Type} (draft : Draft) : Except ε Draft → Except ε Unit × Draft
  | .ok next => (.ok (), next)
  | .error e => (.error e, draft)

/-! ### One instruction -/

section Accept

variable (draft : Draft)

/-- Where the draft changes only at the end, neither a wrong place nor a wrong argument touches
it. -/
theorem run_checked {α : Type} (place : Bool) (fault : LineFault) (argument : Except LineFault α)
    (change : α → Draft → Draft) :
    (do
      unless place do
        throw fault
      let a ← MonadExcept.ofExcept argument
      modify (change a) : Drafting LineFault Unit).run.run draft =
      replaced draft (if place then argument.map (change · draft) else .error fault) := by
  cases place with
  | false => rfl
  | true =>
    cases argument with
    | error fault => rfl
    | ok a => rfl

theorem run_beginSearch (mode : SearchMode) (pattern : Text) :
    (beginSearch mode pattern).run.run draft =
      replaced draft (draft.beginSearch mode pattern) := by
  obtain ⟨filter, block, table, commands⟩ := draft
  cases block with
  | idle => rfl
  | files glob => rfl
  -- The block has been taken out when the search turns out to be a second one.
  | search files current currentMode => rfl

theorem run_replacement (replacement : Text) :
    (accept (.replacement replacement)).run.run draft =
      replaced draft (draft.complete replacement) := by
  obtain ⟨filter, block, table, commands⟩ := draft
  cases block with
  | idle => rfl
  | files glob => rfl
  | search files pattern mode => rfl

/-- One instruction read in place: the draft is replaced, or it is as it was. -/
theorem run_accept (i : Instruction) :
    (accept i).run.run draft = replaced draft (draft.accept i) := by
  cases i with
  | filter payload =>
    exact run_checked draft (draft.filter.isNone && draft.inFrontMatter) _ _
      fun glob draft => { draft with filter := some glob }
  | files payload =>
    have h := run_checked draft (draft.block = .idle) (.unexpected .files)
      (Draft.globArgument .files payload) fun glob draft => { draft with block := .files glob }
    simp only [decide_eq_true_eq] at h
    exact h
  | search mode payload => exact run_beginSearch draft mode payload
  | replacement payload => exact run_replacement draft payload
  | assign name value =>
    exact run_checked draft draft.inFrontMatter _ (.ok ())
      fun _ draft => { draft with table := draft.table.define name value }
  | unrecognized => rfl

end Accept

/-! ### One line -/

theorem run_adapt {ε ε' : Type} {draft : Draft} {reading : Drafting ε Unit} {r : Except ε Draft}
    (h : reading.run.run draft = replaced draft r) (f : ε → ε') :
    (reading.adapt f).run.run draft = replaced draft (r.mapError f) := by
  change ((reading.run.run draft).1.mapError f, (reading.run.run draft).2) = _
  rw [h]
  cases r with
  | error e => rfl
  | ok next => rfl

theorem run_feed (draft : Draft) (number : Nat) (raw : Text) :
    (feed number raw).run.run draft = replaced draft (draft.feed number raw) := by
  unfold feed Draft.feed
  extract_lets line
  by_cases hignorable : Instruction.isIgnorable line = true
  · rw [if_pos hignorable, if_pos hignorable]
    rfl
  · rw [if_neg hignorable, if_neg hignorable]
    exact run_adapt (run_accept draft _) _

end Drafting

namespace Draft

/-! ### A run of lines -/

/-- The lines that were not refused. -/
def accepted (lines : List (Nat × Text)) (outcomes : List (Option ScriptError)) :
    List (Nat × Text) :=
  ((lines.zip outcomes).filter fun line => line.2.isNone).map Prod.fst

theorem feedEach_cons_of_ok {draft next : Draft} {number : Nat} {raw : Text}
    (h : draft.feed number raw = .ok next) (others : List (Nat × Text)) :
    draft.feedEach ((number, raw) :: others) =
      ((next.feedEach others).1, none :: (next.feedEach others).2) := by
  rw [feedEach, Drafting.run_feed, h]
  rfl

theorem feedEach_cons_of_error {draft : Draft} {number : Nat} {raw : Text} {e : ScriptError}
    (h : draft.feed number raw = .error e) (others : List (Nat × Text)) :
    draft.feedEach ((number, raw) :: others) =
      ((draft.feedEach others).1, some e :: (draft.feedEach others).2) := by
  rw [feedEach, Drafting.run_feed, h]
  rfl

/-- The accepted lines alone lead to the same draft. -/
theorem feedEach_accepted (draft : Draft) (lines : List (Nat × Text)) :
    (draft.feedEach (accepted lines (draft.feedEach lines).2)).1 = (draft.feedEach lines).1 := by
  induction lines generalizing draft with
  | nil => rfl
  | cons line others ih =>
    obtain ⟨number, raw⟩ := line
    cases hfeed : draft.feed number raw with
    | error e =>
      rw [feedEach_cons_of_error hfeed]
      exact ih draft
    | ok next =>
      have haccepted : accepted ((number, raw) :: others) (none :: (next.feedEach others).2) =
          (number, raw) :: accepted others (next.feedEach others).2 := rfl
      rw [feedEach_cons_of_ok hfeed, haccepted, feedEach_cons_of_ok hfeed]
      exact ih next

theorem feedAll_eq_ok_iff_feedEach {draft last : Draft} {lines : List (Nat × Text)} :
    draft.feedAll lines = .ok last ↔
      (∀ outcome ∈ (draft.feedEach lines).2, outcome = none) ∧
        (draft.feedEach lines).1 = last := by
  induction lines generalizing draft with
  | nil => simp [feedAll, feedEach]
  | cons line others ih =>
    obtain ⟨number, raw⟩ := line
    rw [feedAll]
    cases hfeed : draft.feed number raw with
    | error e =>
      rw [feedEach_cons_of_error hfeed]
      simp
    | ok next =>
      rw [feedEach_cons_of_ok hfeed]
      simpa using ih

theorem parse_eq_ok_iff_feedEach {source : Text} {parsed : ParsedScript} :
    ParsedScript.parse source = .ok parsed ↔
      (∀ outcome ∈ (feedEach {} (numberLines source.lines)).2, outcome = none) ∧
        (feedEach {} (numberLines source.lines)).1.finish = parsed := by
  rw [ParsedScript.parse_eq_ok_iff_feedAll]
  constructor
  · rintro ⟨last, hfeed, rfl⟩
    obtain ⟨hnone, rfl⟩ := feedAll_eq_ok_iff_feedEach.1 hfeed
    exact ⟨hnone, rfl⟩
  · rintro ⟨hnone, rfl⟩
    exact ⟨_, feedAll_eq_ok_iff_feedEach.2 ⟨hnone, rfl⟩, rfl⟩

/-- **A refused line leaves no trace.** Whatever lines have been read, with whatever numbers and
refusals, a line that is refused now leaves filter, block, table and commands as they were. The
finished script is that of the accepted lines alone, and a source can be read exactly if none of
its lines is refused, as what is then finished. -/
theorem refusal_leaves_no_trace (lines : List (Nat × Text)) :
    (∀ number raw e next,
      (Drafting.feed number raw).run.run (feedEach {} lines).1 = (.error e, next) →
        next = (feedEach {} lines).1) ∧
    (feedEach {} (accepted lines (feedEach {} lines).2)).1.finish =
      (feedEach {} lines).1.finish ∧
    ∀ source parsed, ParsedScript.parse source = .ok parsed ↔
      (∀ outcome ∈ (feedEach {} (numberLines source.lines)).2, outcome = none) ∧
        (feedEach {} (numberLines source.lines)).1.finish = parsed := by
  refine ⟨fun number raw e next hrun => ?_, ?_, fun source parsed => parse_eq_ok_iff_feedEach⟩
  · rw [Drafting.run_feed] at hrun
    cases hfeed : (feedEach {} lines).1.feed number raw with
    | ok last =>
      rw [hfeed] at hrun
      cases hrun
    | error fault =>
      rw [hfeed] at hrun
      exact (Prod.ext_iff.1 hrun).2.symm
  · rw [feedEach_accepted]

/-- A second search in a block is refused, and the first one is still there. -/
theorem refusal_leaves_no_trace_second_search :
    ∃ e next, (Drafting.feed 2 "replace \"b\"".toList).run.run
        (feedEach {} [(1, "replace \"a\"".toList)]).1 = (.error e, next) ∧
      next = (feedEach {} [(1, "replace \"a\"".toList)]).1 ∧
      next.block = .search none ['a'] .literal := by
  have hrun : (Drafting.feed 2 "replace \"b\"".toList).run.run
      (feedEach {} [(1, "replace \"a\"".toList)]).1 =
      (.error ⟨.unexpected .replace, 2, "replace \"b\"".toList⟩,
        { block := .search none ['a'] .literal }) := by
    rfl
  exact ⟨_, _, hrun, (refusal_leaves_no_trace [(1, _)]).1 _ _ _ _ hrun, rfl⟩

end Draft

end Sweep

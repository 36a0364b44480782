import Sweep.Proofs.Phases

/-!
# Snapshots that agree on a script

A script cannot tell two snapshots apart if its commands apply to the same files in both and these
read the same. The paths may differ, and so may everything about files that no command applies to.
-/

namespace Sweep

namespace Snapshot

variable {File : Type} {s s' : Snapshot File} {script : Script}

/-- Two snapshots of the same files, as far as a script sees them. -/
structure Agree (s s' : Snapshot File) (script : Script) : Prop where
  files : s'.files = s.files
  isTarget : ∀ command ∈ script.commands, ∀ f ∈ s.files,
    s'.isTarget script command f = s.isTarget script command f
  read : ∀ f ∈ s.files, s.commandsFor script f ≠ [] → s'.read f = s.read f

namespace Agree

theorem commandsFor (H : Agree s s' script) {f : File} (hf : f ∈ s.files) :
    s'.commandsFor script f = s.commandsFor script f :=
  List.filter_congr fun command hcommand => H.isTarget command hcommand f hf

theorem targets (H : Agree s s' script) : s'.targets script = s.targets script := by
  rw [Snapshot.targets, Snapshot.targets, H.files]
  apply List.map_congr_left
  intro command hcommand
  exact List.filter_congr fun f hf => H.isTarget command hcommand f hf

theorem readFiles [DecidableEq File] (H : Agree s s' script) :
    s'.readFiles script = s.readFiles script := by
  rw [Snapshot.readFiles, Snapshot.readFiles, H.targets]

theorem swept (H : Agree s s' script) {f : File} (hf : f ∈ s.files) (t : Text) :
    s'.swept script f t = s.swept script f t := by
  rw [Snapshot.swept, Snapshot.swept, H.commandsFor hf]

theorem changes (H : Agree s s' script) : s'.changes script = s.changes script := by
  rw [Snapshot.changes, Snapshot.changes, H.files]
  apply List.filterMap_congr
  intro f hf
  rw [change?, change?, H.commandsFor hf]
  by_cases hnil : s.commandsFor script f = []
  · rw [if_pos hnil, if_pos hnil]
  · rw [if_neg hnil, if_neg hnil, H.read f hf hnil]
    simp only [H.swept hf]

theorem fault? (H : Agree s s' script) : s'.fault? script = s.fault? script := by
  rw [Snapshot.fault?, Snapshot.fault?, H.targets]
  rw [← List.head?_filterMap, ← List.head?_filterMap]
  congr 2
  apply List.filterMap_congr
  intro f hf
  obtain ⟨hfiles, hne⟩ := mem_targets_flatten.1 hf
  rw [readFault?, readFault?, H.read f hfiles hne]

end Agree

/-! ### Leaving files out -/

/-- The snapshot without the files that are not to be kept. -/
def restrict (s : Snapshot File) (keep : File → Bool) : Snapshot File :=
  { s with
    files := s.files.filter keep
    ascending := s.ascending.filter keep }

section Restrict

variable {keep : File → Bool}
  (h : ∀ g, ∀ f ∈ s.files, keep f = false → s.selects g f = false)
include h

theorem keep_of_isTarget {command : Command} {f : File} (hf : f ∈ s.files)
    (htarget : s.isTarget script command f = true) : keep f = true := by
  by_contra hkeep
  obtain ⟨g, hg⟩ := exists_selects_of_isTarget htarget
  rw [h g f hf (Bool.eq_false_iff.2 hkeep)] at hg
  cases hg

/-- Leaving out files that no glob selects makes no difference to any script. -/
theorem targets_restrict : (s.restrict keep).targets script = s.targets script := by
  rw [targets, targets]
  apply List.map_congr_left
  intro command _
  change (s.files.filter keep).filter (s.isTarget script command) = _
  rw [List.filter_filter]
  apply List.filter_congr
  intro f hf
  rw [Bool.and_eq_left_iff_imp]
  exact keep_of_isTarget h hf

theorem fault?_restrict : (s.restrict keep).fault? script = s.fault? script := by
  rw [fault?, fault?, targets_restrict h]
  rfl

theorem changes_restrict : (s.restrict keep).changes script = s.changes script := by
  rw [changes, changes]
  change (s.files.filter keep).filterMap (s.change? script) = _
  rw [List.filterMap_filter]
  apply List.filterMap_congr
  intro f hf
  by_cases hkeep : keep f = true
  · rw [if_pos hkeep]
  · have hnil : s.commandsFor script f = [] := by
      rw [commandsFor, List.filter_eq_nil_iff]
      intro command _ htarget
      exact hkeep (keep_of_isTarget h hf htarget)
    rw [if_neg hkeep, change?, if_pos hnil]

end Restrict

end Snapshot

end Sweep

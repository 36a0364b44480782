import Sweep.Proofs.MemorySweep

/-!
# One script in two parts

The commands of a script can be cut in two, with the same filter for both parts. As long as no file
refuses to be read or written, a sweep with the whole script comes to the same as a sweep with the
first part and then one with the second, which finds and reads the files anew.
-/

namespace Sweep

open Sweeper

namespace Script

variable (filter : Text) (front back : List Command)

theorem sweptText_append (p : Path) (t : Text) :
    sweptText ⟨filter, front ++ back⟩ p t =
      sweptText ⟨filter, back⟩ p (sweptText ⟨filter, front⟩ p t) := by
  unfold sweptText
  cases Glob.matchesPath filter p with
  | false => rfl
  | true =>
      simp only [if_true]
      rw [List.filter_append, List.foldl_append]

theorem fault?_append_eq_none_iff :
    fault? ⟨filter, front ++ back⟩ = none ↔
      fault? ⟨filter, front⟩ = none ∧ fault? ⟨filter, back⟩ = none := by
  simp only [fault?_eq_none_iff, Option.or_eq_none_iff, List.findSome?_append]
  tauto

end Script

namespace MemoryHost

variable {h : MemoryHost} {script : Script}

/-! ### Hosts on which nothing fails -/

theorem fault?_snapshot (hreads : h.failingReads = []) (script : Script) :
    h.snapshot.fault? script = script.fault? := by
  have hread : (h.snapshot.targets script).flatten.findSome? h.snapshot.readFault? = none := by
    rw [List.findSome?_eq_none_iff]
    intro p hp
    obtain ⟨t, ht⟩ := PathMap.mem_keys_iff.1 (Snapshot.mem_targets_flatten.1 hp).1
    refine Snapshot.readFault?_eq_none_iff.2 ⟨t, ?_⟩
    change h.textOf p = .ok t
    rw [textOf_of_mem ht, hreads]
    rfl
  rw [Snapshot.fault?, hread, Option.or_none]

/-- The host after a sweep that nothing stops. -/
def afterSweep (h : MemoryHost) (script : Script) : MemoryHost :=
  (h.afterLooking script).putAll (h.changes script)

theorem failing_afterSweep (h : MemoryHost) (script : Script) :
    (h.afterSweep script).failingReads = h.failingReads ∧
      (h.afterSweep script).failingWrites = h.failingWrites := by
  rw [afterSweep, putAll_frame]
  exact ⟨rfl, rfl⟩

theorem on_run_of_fault?_eq_none (hreads : h.failingReads = []) (hwrites : h.failingWrites = [])
    (hfault : script.fault? = none) :
    Step.on (run host script) h =
      (.ok ⟨(h.changes script).map (·.1)⟩, h.afterSweep script) := by
  have hwrites := findSome?_writeFault?_eq_none hwrites (h.changes script)
  rw [on_run_of_no_fault ((fault?_snapshot hreads script).trans hfault), hwrites,
    takeWhile_writeFault?_eq_self hwrites]
  rfl

theorem fault?_eq_none_of_run (hreads : h.failingReads = []) {summary : Summary} {h' : MemoryHost}
    (hrun : Step.on (run host script) h = (.ok summary, h')) : script.fault? = none :=
  (fault?_snapshot hreads script).symm.trans (eq_of_on_run_eq_ok hrun).1

/-! ### Both parts -/

section Append

variable (h) (filter : Text) (front back : List Command)

theorem files_afterSweep_append :
    ((h.afterSweep ⟨filter, front⟩).afterSweep ⟨filter, back⟩).files =
      (h.afterSweep ⟨filter, front ++ back⟩).files := by
  apply PathMap.ext
  calc ((h.afterSweep ⟨filter, front⟩).afterSweep ⟨filter, back⟩).files.entries
    _ = (h.afterSweep ⟨filter, front⟩).files.entries.map fun e =>
          (e.1, Script.sweptText ⟨filter, back⟩ e.1 e.2) := entries_putAll_changes _ _
    _ = (h.files.entries.map fun e => (e.1, Script.sweptText ⟨filter, front⟩ e.1 e.2)).map fun e =>
          (e.1, Script.sweptText ⟨filter, back⟩ e.1 e.2) := by
        rw [afterSweep, entries_putAll_changes]
    _ = h.files.entries.map fun e =>
          (e.1, Script.sweptText ⟨filter, front ++ back⟩ e.1 e.2) := by
        rw [List.map_map]
        apply List.map_congr_left
        intro e _
        rw [Function.comp_apply, Script.sweptText_append]
    _ = (h.afterSweep ⟨filter, front ++ back⟩).files.entries := (entries_putAll_changes _ _).symm

/-- A path is reported by the second part if the first one leaves the file as it was. -/
theorem mem_changes_append {p : Path}
    (hp : p ∈ (h.changes ⟨filter, front ++ back⟩).map (·.1)) :
    p ∈ (h.changes ⟨filter, front⟩).map (·.1) ∨
      p ∈ ((h.afterSweep ⟨filter, front⟩).changes ⟨filter, back⟩).map (·.1) := by
  obtain ⟨⟨p, t⟩, hchange, rfl⟩ := List.mem_map.1 hp
  obtain ⟨before, hbefore, hswept, hne⟩ := mem_changes_iff.1 hchange
  rw [Script.sweptText_append] at hswept
  by_cases hfront : Script.sweptText ⟨filter, front⟩ p before = before
  · refine Or.inr (List.mem_map.2 ⟨(p, t), mem_changes_iff.2 ⟨before, ?_, ?_, hne⟩, rfl⟩)
    · rw [afterSweep, entries_putAll_changes]
      exact List.mem_map.2 ⟨(p, before), hbefore, by rw [hfront]⟩
    · rwa [hfront] at hswept
  · exact Or.inl (List.mem_map.2 ⟨(p, _), mem_changes_iff.2 ⟨before, hbefore, rfl, hfront⟩, rfl⟩)

end Append

/-- **Scripts compose.** If a sweep with all commands succeeds, then so do a sweep with the first
commands and after it one with the others, and they leave the same files and report between them
every path that the one sweep reports. If the sweeps with either part succeed, then so does the
one with all commands. -/
theorem run_append (hreads : h.failingReads = []) (hwrites : h.failingWrites = [])
    (filter : Text) (front back : List Command) :
    (∀ summary h', Step.on (run host ⟨filter, front ++ back⟩) h = (.ok summary, h') →
        ∃ first between second after,
          Step.on (run host ⟨filter, front⟩) h = (.ok first, between) ∧
          Step.on (run host ⟨filter, back⟩) between = (.ok second, after) ∧
          after.files = h'.files ∧
          ∀ p ∈ summary.modified, p ∈ first.modified ∨ p ∈ second.modified) ∧
      (∀ first afterFront second afterBack,
        Step.on (run host ⟨filter, front⟩) h = (.ok first, afterFront) →
        Step.on (run host ⟨filter, back⟩) h = (.ok second, afterBack) →
        ∃ summary h', Step.on (run host ⟨filter, front ++ back⟩) h = (.ok summary, h')) := by
  constructor
  · intro summary h' hrun
    obtain ⟨hfront, hback⟩ :=
      (Script.fault?_append_eq_none_iff filter front back).1 (fault?_eq_none_of_run hreads hrun)
    obtain ⟨hreads', hwrites'⟩ := h.failing_afterSweep ⟨filter, front⟩
    obtain ⟨-, rfl, rfl⟩ := eq_of_on_run_eq_ok hrun
    exact ⟨_, _, _, _, on_run_of_fault?_eq_none hreads hwrites hfront,
      on_run_of_fault?_eq_none (hreads'.trans hreads) (hwrites'.trans hwrites) hback,
      files_afterSweep_append h filter front back,
      fun p hp => mem_changes_append h filter front back hp⟩
  · intro first afterFront second afterBack hfront hback
    have hfault := (Script.fault?_append_eq_none_iff filter front back).2
      ⟨fault?_eq_none_of_run hreads hfront, fault?_eq_none_of_run hreads hback⟩
    exact ⟨_, _, on_run_of_fault?_eq_none hreads hwrites hfault⟩

/-- The second command takes back in one file what the first one changes in two. -/
theorem run_append_changeAndBack :
    (threeFiles.failingReads = [] ∧ threeFiles.failingWrites = []) ∧
      (Step.on (run host changeAndBack) threeFiles).1 = .ok ⟨[⟨['a']⟩]⟩ ∧
      ∃ between after,
        Step.on (run host ⟨['*'], changeAndBack.commands.take 1⟩) threeFiles =
          (.ok ⟨[⟨['a']⟩, ⟨['b']⟩]⟩, between) ∧
        Step.on (run host ⟨['*'], changeAndBack.commands.drop 1⟩) between =
          (.ok ⟨[⟨['b']⟩]⟩, after) ∧
        after.files = (Step.on (run host changeAndBack) threeFiles).2.files := by
  have hwhole : Step.on (run host changeAndBack) threeFiles =
      (.ok ⟨[⟨['a']⟩]⟩, (Step.on (run host changeAndBack) threeFiles).2) := by rfl
  obtain ⟨first, between, second, after, hfirst, hsecond, hfiles, -⟩ :=
    (run_append (h := threeFiles) rfl rfl ['*'] (changeAndBack.commands.take 1)
      (changeAndBack.commands.drop 1)).1 _ _ hwhole
  have hfirst' : (Step.on (run host ⟨['*'], changeAndBack.commands.take 1⟩) threeFiles).1 =
      .ok ⟨[⟨['a']⟩, ⟨['b']⟩]⟩ := by rfl
  have hsecond' : (Step.on (run host ⟨['*'], changeAndBack.commands.drop 1⟩)
      (Step.on (run host ⟨['*'], changeAndBack.commands.take 1⟩) threeFiles).2).1 =
      .ok ⟨[⟨['b']⟩]⟩ := by rfl
  rw [hfirst] at hfirst' hsecond'
  rw [hsecond] at hsecond'
  obtain rfl := Except.ok.inj hfirst'
  obtain rfl := Except.ok.inj hsecond'
  exact ⟨⟨rfl, rfl⟩, congrArg Prod.fst hwhole, between, after, hfirst, hsecond, hfiles⟩

end MemoryHost

end Sweep

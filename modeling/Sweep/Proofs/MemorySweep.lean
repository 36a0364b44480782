import Sweep.Proofs.MemoryHost

/-!
# What a sweep of files in memory does

The two statements about whole sweeps of a host in memory: what a sweep that succeeds has done to
every file, and how a sweep ends from any state of the host.
-/

namespace Sweep.MemoryHost

open Sweeper

/-! ### Sweeps that succeed -/

theorem eq_of_on_run_eq_ok {h h' : MemoryHost} {script : Script} {summary : Summary}
    (hrun : Step.on (run host script) h = (.ok summary, h')) :
    h.snapshot.fault? script = none ∧ summary = ⟨(h.changes script).map (·.1)⟩ ∧
      h' = (h.afterLooking script).putAll (h.changes script) := by
  cases hfault : h.snapshot.fault? script with
  | some e =>
      obtain ⟨read, hread⟩ := h.presents.on_run_of_fault hfault
      rw [afterReading_nil, hrun] at hread
      cases hread
  | none =>
      rw [on_run_of_no_fault hfault] at hrun
      cases hwrite : (h.changes script).findSome? fun change => h.writeFault? change.1 with
      | some e =>
          rw [hwrite] at hrun
          cases hrun
      | none =>
          rw [hwrite, takeWhile_writeFault?_eq_self hwrite] at hrun
          obtain ⟨hsummary, hstate⟩ := Prod.mk.inj hrun
          exact ⟨rfl, (Except.ok.inj hsummary).symm, hstate.symm⟩

theorem map_fst_changes (h : MemoryHost) (script : Script) :
    (h.changes script).map (·.1) =
      (h.files.entries.filter fun e => script.sweptText e.1 e.2 != e.2).map (·.1) := by
  rw [changes, List.map_filterMap, ← List.filterMap_eq_map, List.filterMap_filter]
  apply List.filterMap_congr
  intro e _
  by_cases heq : script.sweptText e.1 e.2 = e.2 <;> simp [heq]

theorem keys_putAll_changes (h : MemoryHost) (script : Script) :
    ((h.afterLooking script).putAll (h.changes script)).files.keys = h.files.keys :=
  keys_putAll (h.afterLooking script) fun _ hchange => mem_keys_of_mem_changes hchange

theorem lookup_changes {h : MemoryHost} {script : Script} {p : Path} {t : Text}
    (hmem : (p, t) ∈ h.files.entries) :
    PathMap.lookup (h.changes script) p =
      if script.sweptText p t = t then none else some (script.sweptText p t) := by
  apply Option.ext
  intro u
  rw [PathMap.lookup_eq_some_iff (h.changes_ascending script)]
  constructor
  · rintro ⟨q, hq, hkey⟩
    obtain ⟨before, hbefore, rfl, hne⟩ := mem_changes_iff.1 hq
    have hqp : q = p := PathMap.eq_of_mem_keys (PathMap.mem_keys_iff.2 ⟨_, hbefore⟩)
      (PathMap.mem_keys_iff.2 ⟨_, hmem⟩) hkey
    subst hqp
    have hbt : before = t := by
      have hget := PathMap.get?_of_mem hbefore
      rw [PathMap.get?_of_mem hmem] at hget
      exact (Option.some.inj hget).symm
    subst hbt
    rw [if_neg hne]
  · intro hswept
    split at hswept
    · cases hswept
    · rename_i hne
      obtain rfl := Option.some.inj hswept
      exact ⟨p, mem_changes_iff.2 ⟨t, hmem, rfl, hne⟩, rfl⟩

/-- Every file ends as its swept text, under the path it was stored with. -/
theorem entries_putAll_changes (h : MemoryHost) (script : Script) :
    ((h.afterLooking script).putAll (h.changes script)).files.entries =
      h.files.entries.map fun e => (e.1, script.sweptText e.1 e.2) := by
  refine eq_of_ascending_of_mem_iff (fun e : Path × Text => e.1.key)
    ((h.afterLooking script).putAll (h.changes script)).files.ascending
    (PathMap.map_ascending (fun e => (e.1, script.sweptText e.1 e.2)) (fun _ => rfl)
      h.files.ascending) ?_
  rintro ⟨p, u⟩
  rw [PathMap.mem_entries_iff, keys_putAll_changes,
    (files_putAll _ (h.changes_ascending script) p).1, List.mem_map]
  change p ∈ h.files.keys ∧ (PathMap.lookup (h.changes script) p).or (h.files.get? p) = some u ↔ _
  constructor
  · rintro ⟨hp, hu⟩
    obtain ⟨t, ht⟩ := PathMap.mem_keys_iff.1 hp
    refine ⟨(p, t), ht, ?_⟩
    rw [lookup_changes ht, PathMap.get?_of_mem ht] at hu
    split at hu
    · rename_i heq
      rw [heq, Option.some.inj hu]
    · rw [Option.some.inj hu]
  · rintro ⟨e, he, heq⟩
    obtain ⟨rfl, rfl⟩ := Prod.mk.inj heq
    refine ⟨PathMap.mem_keys_iff.2 ⟨e.2, he⟩, ?_⟩
    rw [lookup_changes he, PathMap.get?_of_mem he]
    split
    · rename_i heq
      rw [Option.none_or, heq]
    · rfl

theorem countP_readFiles (h : MemoryHost) (script : Script) (p : Path) :
    (h.snapshot.readFiles script).countP (fun q => q.same p) =
      if h.files.keys.any (fun q => q.same p && script.reads q) then 1 else 0 := by
  have hmem : ∀ q ∈ h.snapshot.readFiles script, q ∈ h.files.keys ∧ script.reads q = true := by
    intro q hq
    obtain ⟨hkey, hne⟩ := Snapshot.mem_readFiles.1 hq
    exact ⟨hkey, (h.commandsFor_snapshot_ne_nil script q).1 hne⟩
  by_cases hany : h.files.keys.any (fun q => q.same p && script.reads q) = true
  · rw [if_pos hany]
    obtain ⟨q, hq, hsame⟩ := List.any_eq_true.1 hany
    obtain ⟨hkey, hreads⟩ := Bool.and_eq_true_iff.1 hsame
    have hcount : (h.snapshot.readFiles script).countP (fun r => r.same p) =
        (h.snapshot.readFiles script).count q := by
      apply List.countP_congr
      intro r hr
      rw [Path.same_iff, beq_iff_eq]
      constructor
      · intro heq
        exact PathMap.eq_of_mem_keys (hmem r hr).1 hq (heq.trans (Path.same_iff.1 hkey).symm)
      · rintro rfl
        exact Path.same_iff.1 hkey
    rw [hcount, Snapshot.count_readFiles hq,
      if_neg ((h.commandsFor_snapshot_ne_nil script q).2 hreads)]
  · rw [if_neg hany, List.countP_eq_zero]
    intro q hq hsame
    exact hany (List.any_eq_true.2 ⟨q, (hmem q hq).1, by rw [hsame, (hmem q hq).2]; rfl⟩)

/-- **What a sweep does.** Every file ends as the fold of the commands that select it, the summary
lists the files whose text has changed, exactly these are written, and exactly the selected files
are read, once each. -/
theorem effects_of_run_eq_ok {h h' : MemoryHost} {script : Script} {summary : Summary}
    (hrun : Step.on (run host script) h = (.ok summary, h')) :
    h'.files.entries = h.files.entries.map (fun e => (e.1, script.sweptText e.1 e.2)) ∧
      summary.modified =
        (h.files.entries.filter fun e => script.sweptText e.1 e.2 != e.2).map (·.1) ∧
      (summary.modified.Pairwise fun p q => p.key < q.key) ∧
      (∀ p, h'.written.get? p =
        if p.isIn summary.modified then h'.files.get? p else h.written.get? p) ∧
      ∀ p, h'.readCount p = h.readCount p +
        if h.files.keys.any (fun q => q.same p && script.reads q) then 1 else 0 := by
  obtain ⟨-, rfl, rfl⟩ := eq_of_on_run_eq_ok hrun
  have hascending := h.changes_ascending script
  refine ⟨entries_putAll_changes h script, map_fst_changes h script,
    List.pairwise_map.2 hascending, ?_, ?_⟩
  · intro p
    obtain ⟨hfiles, hwritten⟩ := files_putAll (h.afterLooking script) hascending p
    rw [hfiles, hwritten]
    by_cases hin : p.isIn ((h.changes script).map (·.1)) = true
    · obtain ⟨q, hq, hkey⟩ := Path.isIn_iff.1 hin
      obtain ⟨change, hchange, rfl⟩ := List.mem_map.1 hq
      have hlookup := (PathMap.lookup_eq_some_iff hascending).2 ⟨change.1, hchange, hkey⟩
      rw [if_pos hin, hlookup, Option.some_or, Option.some_or]
    · have hlookup : PathMap.lookup (h.changes script) p = none := by
        refine PathMap.lookup_eq_none fun change hchange hkey => hin ?_
        exact Path.isIn_iff.2 ⟨change.1, List.mem_map_of_mem hchange, hkey⟩
      rw [if_neg hin, hlookup, Option.none_or]
      rfl
  · intro p
    rw [putAll_frame, readCount, readCount, ← countP_readFiles]
    exact List.countP_append

def threeFiles : MemoryHost where
  files := PathMap.ofList [(⟨['a']⟩, ['x']), (⟨['b']⟩, ['x']), (⟨['d', '/', 'e']⟩, ['x'])]

/-- A change of the files outside directories, which is taken back in one of them. -/
def changeAndBack : Script where
  filter := ['*']
  commands := [⟨['*', '*'], ['x'], ['y'], .literal⟩, ⟨['b'], ['y'], ['x'], .literal⟩]

theorem effects_of_changeAndBack :
    Step.on (run host changeAndBack) threeFiles =
        (.ok ⟨[⟨['a']⟩]⟩, (Step.on (run host changeAndBack) threeFiles).2) ∧
      (Step.on (run host changeAndBack) threeFiles).2.files.entries =
        [(⟨['a']⟩, ['y']), (⟨['b']⟩, ['x']), (⟨['d', '/', 'e']⟩, ['x'])] ∧
      (Step.on (run host changeAndBack) threeFiles).2.readCount ⟨['b']⟩ = 1 := by
  have hrun : Step.on (run host changeAndBack) threeFiles =
      (.ok ⟨[⟨['a']⟩]⟩, (Step.on (run host changeAndBack) threeFiles).2) := by rfl
  obtain ⟨hentries, -, -, -, hreads⟩ := effects_of_run_eq_ok hrun
  exact ⟨hrun, hentries, hreads ⟨['b']⟩⟩

/-! ### The stages of a sweep -/

/-- What a sweep goes through, one after the other. -/
inductive Stage where
  | target
  | source
  | lines
  | searches
  | filter
  | selections
  | reading
  | writing
  deriving DecidableEq, Repr

def Stage.all : List Stage :=
  [.target, .source, .lines, .searches, .filter, .selections, .reading, .writing]

/-- The script of the host, if there is one that can be read. -/
def parsed? (h : MemoryHost) : Option Script :=
  h.script.bind fun source => (ParsedScript.parse source).toOption.map (·.script)

def report (h : MemoryHost) : Except (Failure SweepError) Summary → MemoryHost
  | .ok summary => { h with infos := h.infos ++ [summary.message] }
  | .error (.error e) => { h with errors := h.errors ++ [e.message] }
  | .error .panic => h

theorem sweep_eq {h state : MemoryHost} {result : Except (Failure SweepError) Summary}
    (hrun : Step.on (loadAndRun host) h = (result, state)) :
    sweep host h = (result, state.report result) := by
  rw [Sweeper.sweep_eq, hrun]
  match result with
  | .ok summary => rfl
  | .error (.error e) => rfl
  | .error .panic => rfl

theorem on_loadAndRun (h : MemoryHost) :
    Step.on (loadAndRun host) h =
      if h.writable then
        match h.scriptText with
        | .error e => (.error (.error (.host e)), h)
        | .ok source =>
          match ParsedScript.parse source with
          | .error e => (.error (.error (.script e)), h)
          | .ok parsed => Step.on (run host parsed.script) h
      else (.error (.error .noWritableTarget), h) := by
  have hwritable : host.isWritable h = (h.writable, h) := rfl
  have hscript : host.script h = (h.scriptText, h) := rfl
  rw [Sweeper.on_loadAndRun, hwritable]
  cases h.writable with
  | false => rfl
  | true =>
      simp only [hscript, if_true]
      cases h.scriptText with
      | error e => rfl
      | ok source => rfl

end Sweep.MemoryHost

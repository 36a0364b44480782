import Sweep.Proofs.PathMap
import Sweep.Revision

/-!
# Revisions as folds

The sets of a sweep are visited command by command, but what becomes of a file depends on that file
alone: its revision is the fold of the substitutions of the commands that apply to it.
-/

namespace Sweep

def CompiledCommand.rewrite (command : CompiledCommand) (t : Text) : Text :=
  command.substitution.replaceIn t

/-- What some commands make of a text, one after the other. -/
def CompiledCommand.rewriteAll (commands : List CompiledCommand) (t : Text) : Text :=
  commands.foldl (fun t c => c.rewrite t) t

def Revision.next (command : CompiledCommand) (r : Revision) : Revision :=
  { r with current := command.rewrite r.current }

def Revision.begin (t : Text) : Revision := ⟨t, t⟩

theorem Revision.foldl_next (commands : List CompiledCommand) (r : Revision) :
    commands.foldl (fun r c => Revision.next c r) r =
      ⟨r.initial, CompiledCommand.rewriteAll commands r.current⟩ := by
  induction commands generalizing r with
  | nil => rfl
  | cons command others ih =>
      rw [List.foldl_cons, ih]
      rfl

namespace RevisionSet

open CompiledCommand

def get? (set : RevisionSet) (p : Path) : Option Revision := set.entries.get? p

/-- What the set has for a path: the path as it is written there, and its revision. -/
def tracked? (set : RevisionSet) (p : Path) : Option (Path × Revision) :=
  set.entries.entryOf? p

theorem get?_eq_map_tracked? (set : RevisionSet) (p : Path) :
    set.get? p = (set.tracked? p).map (·.2) := rfl

theorem current?_eq (set : RevisionSet) (p : Path) :
    set.current? p = (set.get? p).map (·.current) := rfl

@[simp]
theorem get?_empty (p : Path) : ({} : RevisionSet).get? p = none := rfl

theorem contains_eq_isSome (set : RevisionSet) (p : Path) :
    set.contains p = (set.get? p).isSome :=
  PathMap.contains_eq_isSome _ _

theorem get?_congr (set : RevisionSet) {p q : Path} (h : p.key = q.key) :
    set.get? p = set.get? q :=
  set.entries.get?_congr h

theorem tracked?_track (set : RevisionSet) (p q : Path) (t : Text) :
    (set.track p t).tracked? q =
      if p.key = q.key then some ((set.tracked? q).getD (p, .begin t)) else set.tracked? q :=
  set.entries.entryOf?_insertNew p q ⟨t, t⟩

theorem get?_track (set : RevisionSet) (p q : Path) (t : Text) :
    (set.track p t).get? q =
      if p.key = q.key then some ((set.get? q).getD (Revision.begin t)) else set.get? q := by
  rw [get?_eq_map_tracked?, get?_eq_map_tracked?, tracked?_track]
  split
  · cases set.tracked? q <;> rfl
  · rfl

theorem revise_of_none {set : RevisionSet} {p : Path} (h : set.get? p = none)
    (command : CompiledCommand) : set.revise p command = (set, false) := by
  rw [revise, current?_eq, h]
  rfl

theorem revise_of_some {set : RevisionSet} {p : Path} {r : Revision} (h : set.get? p = some r)
    (command : CompiledCommand) :
    set.revise p command =
      if command.rewrite r.current = r.current then (set, false)
      else (⟨set.entries.modify p fun s => { s with current := command.rewrite r.current }⟩, true)
    := by
  rw [revise, current?_eq, h, Option.map_some]
  dsimp only [CompiledCommand.rewrite, Substitution.replaceIn]
  split
  · rename_i hreplace
    simp [hreplace]
  · rename_i hreplace
    simp [hreplace]

theorem tracked?_revise (set : RevisionSet) (p q : Path) (command : CompiledCommand) :
    (set.revise p command).1.tracked? q =
      if p.key = q.key then (set.tracked? q).map fun e => (e.1, e.2.next command)
      else set.tracked? q := by
  by_cases hkey : p.key = q.key
  · have hget : set.get? p = (set.tracked? q).map (·.2) := set.get?_congr hkey
    rw [if_pos hkey]
    cases hentry : set.tracked? q with
    | none =>
        rw [hentry] at hget
        rw [revise_of_none hget, hentry]
        rfl
    | some e =>
        rw [hentry, Option.map_some] at hget
        rw [revise_of_some hget, Option.map_some, Revision.next]
        split
        · rename_i hsame
          rw [hentry, hsame]
        · refine (set.entries.entryOf?_modify p q _).trans ?_
          rw [if_pos hkey, ← tracked?, hentry]
          rfl
  · rw [if_neg hkey]
    cases hget : set.get? p with
    | none => rw [revise_of_none hget]
    | some r =>
        rw [revise_of_some hget]
        split
        · rfl
        · exact (set.entries.entryOf?_modify p q _).trans (if_neg hkey)

theorem get?_revise (set : RevisionSet) (p q : Path) (command : CompiledCommand) :
    (set.revise p command).1.get? q =
      if p.key = q.key then (set.get? q).map (Revision.next command) else set.get? q := by
  rw [get?_eq_map_tracked?, get?_eq_map_tracked?, tracked?_revise]
  split
  · cases set.tracked? q <;> rfl
  · rfl

/-- What a command makes of the revision of a path, which begins with the known content. -/
theorem get?_visit (contents : PathMap Text) (command : CompiledCommand) (set : RevisionSet)
    (p q : Path) :
    (visit contents command set p).get? q =
      if p.key = q.key then
        ((set.get? q).or ((contents.get? q).map Revision.begin)).map (Revision.next command)
      else set.get? q := by
  unfold visit
  rw [contains_eq_isSome]
  by_cases hkey : p.key = q.key
  · rw [if_pos hkey, ← set.get?_congr hkey, ← contents.get?_congr hkey]
    cases hp : set.get? p with
    | some r =>
        rw [Option.isSome_some, if_pos rfl, get?_revise, if_pos hkey, ← set.get?_congr hkey, hp]
        rfl
    | none =>
        rw [Option.isSome_none, if_neg Bool.false_ne_true]
        cases hc : contents.get? p with
        | none => rw [← set.get?_congr hkey, hp]; rfl
        | some t =>
            rw [get?_revise, if_pos hkey, get?_track, if_pos hkey, ← set.get?_congr hkey, hp]
            rfl
  · rw [if_neg hkey]
    split
    · rw [get?_revise, if_neg hkey]
    · split
      · rw [get?_revise, if_neg hkey, get?_track, if_neg hkey]
      · rfl

/-- One command over its paths. Each path stands among them once. -/
theorem get?_foldl_visit (contents : PathMap Text) (command : CompiledCommand) (set : RevisionSet)
    {paths : List Path} (hpaths : paths.Pairwise fun p q => p.key ≠ q.key) (q : Path) :
    (paths.foldl (visit contents command) set).get? q =
      if q.isIn paths then
        ((set.get? q).or ((contents.get? q).map Revision.begin)).map (Revision.next command)
      else set.get? q := by
  induction paths generalizing set with
  | nil => rfl
  | cons p others ih =>
      obtain ⟨hhead, htail⟩ := List.pairwise_cons.1 hpaths
      have hcons : q.isIn (p :: others) = (p.same q || q.isIn others) := rfl
      rw [List.foldl_cons, ih _ htail, get?_visit, hcons]
      by_cases hkey : p.key = q.key
      · have hnot : q.isIn others = false := by
          rw [Bool.eq_false_iff]
          intro hin
          obtain ⟨r, hr, hrkey⟩ := Path.isIn_iff.1 hin
          exact hhead r hr (hkey.trans hrkey.symm)
        rw [hnot, if_pos hkey, Path.same_iff.2 hkey]
        rfl
      · have hfalse : p.same q = false := by simpa [Path.same] using hkey
        rw [if_neg hkey, hfalse, Bool.false_or]

/-- The commands of the steps that a path takes part in, in order. -/
def commandsFor (steps : List (CompiledCommand × List Path)) (p : Path) : List CompiledCommand :=
  (steps.filter fun step => p.isIn step.2).map (·.1)

theorem get?_foldl_reviseAll (contents : PathMap Text)
    {steps : List (CompiledCommand × List Path)}
    (hsteps : ∀ step ∈ steps, step.2.Pairwise fun p q => p.key ≠ q.key) (set : RevisionSet)
    (q : Path) :
    (steps.foldl (fun set (command, paths) => paths.foldl (visit contents command) set) set).get? q
      = if commandsFor steps q = [] then set.get? q
        else ((set.get? q).or ((contents.get? q).map Revision.begin)).map fun r =>
          (commandsFor steps q).foldl (fun r c => Revision.next c r) r := by
  induction steps generalizing set with
  | nil => rfl
  | cons step others ih =>
      rw [List.foldl_cons, ih fun s hs => hsteps s (List.mem_cons_of_mem _ hs),
        get?_foldl_visit _ _ _ (hsteps step List.mem_cons_self)]
      by_cases hin : q.isIn step.2 = true
      · have hcommands : commandsFor (step :: others) q = step.1 :: commandsFor others q := by
          simp [commandsFor, hin]
        rw [hcommands, if_pos hin, if_neg (List.cons_ne_nil _ _)]
        cases hbefore : (set.get? q).or ((contents.get? q).map Revision.begin) with
        | some r =>
            by_cases hnil : commandsFor others q = []
            · rw [if_pos hnil, hnil]
              rfl
            · rw [if_neg hnil]
              rfl
        | none =>
            obtain ⟨hset, hcontents⟩ := Option.or_eq_none_iff.1 hbefore
            simp [hcontents]
      · have hcommands : commandsFor (step :: others) q = commandsFor others q := by
          simp [commandsFor, hin]
        rw [hcommands, if_neg hin]

/-- A path is revised by the commands it takes part in, from its own content. -/
theorem get?_reviseAll (contents : PathMap Text) {steps : List (CompiledCommand × List Path)}
    (hsteps : ∀ step ∈ steps, step.2.Pairwise fun p q => p.key ≠ q.key) (q : Path) :
    (reviseAll contents steps).get? q =
      if commandsFor steps q = [] then none
      else (contents.get? q).map fun t => ⟨t, rewriteAll (commandsFor steps q) t⟩ := by
  rw [reviseAll, get?_foldl_reviseAll contents hsteps]
  split
  · rfl
  · rw [get?_empty, Option.none_or, Option.map_map]
    congr 1
    funext t
    exact Revision.foldl_next _ _

/-! ### The paths of a set -/

theorem keys_revise (set : RevisionSet) (p : Path) (command : CompiledCommand) :
    (set.revise p command).1.entries.keys = set.entries.keys := by
  cases hp : set.get? p with
  | none => rw [revise_of_none hp]
  | some r =>
      rw [revise_of_some hp]
      split
      · rfl
      · exact PathMap.keys_modify _ _ _

theorem mem_keys_visit {contents : PathMap Text} {command : CompiledCommand} {set : RevisionSet}
    {p q : Path} (h : q ∈ (visit contents command set p).entries.keys) :
    q = p ∨ q ∈ set.entries.keys := by
  unfold visit at h
  split at h
  · rw [keys_revise] at h
    exact Or.inr h
  · split at h
    · rw [keys_revise] at h
      exact PathMap.mem_keys_insertNew h
    · exact Or.inr h

theorem mem_keys_foldl_visit {contents : PathMap Text} {command : CompiledCommand}
    {paths : List Path} {set : RevisionSet} {q : Path}
    (h : q ∈ (paths.foldl (visit contents command) set).entries.keys) :
    q ∈ paths ∨ q ∈ set.entries.keys := by
  induction paths generalizing set with
  | nil => exact Or.inr h
  | cons p others ih =>
      rcases ih h with hmem | hmem
      · exact Or.inl (List.mem_cons_of_mem _ hmem)
      · rcases mem_keys_visit hmem with rfl | hmem
        · exact Or.inl List.mem_cons_self
        · exact Or.inr hmem

theorem mem_keys_foldl_reviseAll {contents : PathMap Text}
    {steps : List (CompiledCommand × List Path)} {set : RevisionSet} {q : Path}
    (h : q ∈ (steps.foldl (fun set (command, paths) =>
      paths.foldl (visit contents command) set) set).entries.keys) :
    (∃ step ∈ steps, q ∈ step.2) ∨ q ∈ set.entries.keys := by
  induction steps generalizing set with
  | nil => exact Or.inr h
  | cons step others ih =>
      rcases ih h with ⟨s, hs, hmem⟩ | hmem
      · exact Or.inl ⟨s, List.mem_cons_of_mem _ hs, hmem⟩
      · rcases mem_keys_foldl_visit hmem with hmem | hmem
        · exact Or.inl ⟨step, List.mem_cons_self, hmem⟩
        · exact Or.inr hmem

/-- Only paths of the steps are tracked, as the steps write them. -/
theorem mem_keys_reviseAll {contents : PathMap Text} {steps : List (CompiledCommand × List Path)}
    {q : Path} (h : q ∈ (reviseAll contents steps).entries.keys) :
    ∃ step ∈ steps, q ∈ step.2 := by
  rcases mem_keys_foldl_reviseAll h with hstep | hempty
  · exact hstep
  · exact absurd hempty List.not_mem_nil

/-! ### What has changed -/

theorem changes_ascending (set : RevisionSet) :
    set.changes.Pairwise fun e f => e.1.key < f.1.key :=
  List.pairwise_map.2 (set.entries.ascending.sublist List.filter_sublist)

theorem mem_changes_iff {set : RevisionSet} {p : Path} {t : Text} :
    (p, t) ∈ set.changes ↔
      p ∈ set.entries.keys ∧ ∃ r, set.get? p = some r ∧ r.current ≠ r.initial ∧ r.current = t := by
  constructor
  · intro h
    obtain ⟨⟨q, r⟩, hmem, heq⟩ := List.mem_map.1 h
    obtain ⟨hentry, hchanged⟩ := List.mem_filter.1 hmem
    obtain ⟨rfl, rfl⟩ := Prod.mk.inj heq
    exact ⟨PathMap.mem_keys_iff.2 ⟨r, hentry⟩, r, PathMap.get?_of_mem hentry,
      by simpa using hchanged, rfl⟩
  · rintro ⟨hkey, r, hr, hchanged, rfl⟩
    obtain ⟨s, hs⟩ := PathMap.mem_keys_iff.1 hkey
    have hrs : r = s := by
      have := PathMap.get?_of_mem hs
      rw [← get?, hr] at this
      exact Option.some.inj this
    subst hrs
    exact List.mem_map.2 ⟨(p, r), List.mem_filter.2 ⟨hs, by simpa using hchanged⟩, rfl⟩

/-- The change that the steps make to a file, if its content is known and becomes another one. -/
def changeAt (contents : PathMap Text) (steps : List (CompiledCommand × List Path)) (p : Path) :
    Option (Path × Text) :=
  if commandsFor steps p = [] then none
  else (contents.get? p).bind fun t =>
    if rewriteAll (commandsFor steps p) t = t then none
    else some (p, rewriteAll (commandsFor steps p) t)

theorem changeAt_eq_some_iff {contents : PathMap Text}
    {steps : List (CompiledCommand × List Path)} {p : Path} {e : Path × Text} :
    changeAt contents steps p = some e ↔
      commandsFor steps p ≠ [] ∧ ∃ t, contents.get? p = some t ∧
        rewriteAll (commandsFor steps p) t ≠ t ∧ (p, rewriteAll (commandsFor steps p) t) = e := by
  rw [changeAt]
  by_cases hnil : commandsFor steps p = []
  · simp [hnil]
  · rw [if_neg hnil, Option.bind_eq_some_iff]
    simp [hnil]

theorem filterMap_changeAt_ascending {files : List Path}
    (hfiles : files.Pairwise fun p q => p.key < q.key) (contents : PathMap Text)
    (steps : List (CompiledCommand × List Path)) :
    (files.filterMap (changeAt contents steps)).Pairwise fun e f => e.1.key < f.1.key := by
  apply List.Pairwise.filterMap _ _ hfiles
  intro p q hlt e he f hf
  obtain ⟨-, t, -, -, rfl⟩ := changeAt_eq_some_iff.1 he
  obtain ⟨-, u, -, -, rfl⟩ := changeAt_eq_some_iff.1 hf
  exact hlt

/-- A file with a revision is tracked under its own path. -/
theorem mem_keys_of_get?_reviseAll {files : List Path}
    (hfiles : files.Pairwise fun p q => p.key < q.key) {contents : PathMap Text}
    {steps : List (CompiledCommand × List Path)}
    (hsteps : ∀ step ∈ steps, step.2.Sublist files) {p : Path} (hp : p ∈ files) {r : Revision}
    (hr : (reviseAll contents steps).get? p = some r) :
    p ∈ (reviseAll contents steps).entries.keys := by
  obtain ⟨q, hq, hkey⟩ := PathMap.get?_eq_some_iff.1 hr
  have hqkeys := PathMap.mem_keys_iff.2 ⟨r, hq⟩
  obtain ⟨step, hstep, hqstep⟩ := mem_keys_reviseAll hqkeys
  have hqfiles := (hsteps step hstep).mem hqstep
  rwa [eq_of_ascending_of_key_eq Path.key hfiles hqfiles hp hkey] at hqkeys

/-- The changes are the changed ones among all files, in the order of these. -/
theorem changes_reviseAll {files : List Path} (hfiles : files.Pairwise fun p q => p.key < q.key)
    (contents : PathMap Text) {steps : List (CompiledCommand × List Path)}
    (hsteps : ∀ step ∈ steps, step.2.Sublist files) :
    (reviseAll contents steps).changes = files.filterMap (changeAt contents steps) := by
  have hdistinct : ∀ step ∈ steps, step.2.Pairwise fun p q => p.key ≠ q.key := by
    intro step hstep
    apply (hfiles.sublist (hsteps step hstep)).imp
    intro p q hlt heq
    rw [heq] at hlt
    exact List.lt_irrefl _ hlt
  apply eq_of_ascending_of_mem_iff (fun e => e.1.key) (changes_ascending _)
    (filterMap_changeAt_ascending hfiles contents steps)
  rintro ⟨p, t⟩
  rw [mem_changes_iff, List.mem_filterMap]
  constructor
  · rintro ⟨hkey, r, hr, hchanged, rfl⟩
    obtain ⟨step, hstep, hp⟩ := mem_keys_reviseAll hkey
    rw [get?_reviseAll contents hdistinct] at hr
    split at hr
    · cases hr
    · rename_i hne
      obtain ⟨u, hu, rfl⟩ := Option.map_eq_some_iff.1 hr
      have hchange := changeAt_eq_some_iff.2 ⟨hne, u, hu, hchanged, rfl⟩
      exact ⟨p, (hsteps step hstep).mem hp, hchange⟩
  · rintro ⟨q, hq, hchange⟩
    obtain ⟨hne, u, hu, hchanged, heq⟩ := changeAt_eq_some_iff.1 hchange
    obtain ⟨rfl, rfl⟩ := Prod.mk.inj heq
    have hr := get?_reviseAll contents hdistinct q
    rw [if_neg hne, hu, Option.map_some] at hr
    exact ⟨mem_keys_of_get?_reviseAll hfiles hsteps hq hr, _, hr, hchanged, rfl⟩

end RevisionSet

end Sweep

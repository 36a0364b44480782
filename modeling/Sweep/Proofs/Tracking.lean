import Sweep.Proofs.Revision

/-!
# Tracking and revising in any order

A path may be tracked more than once, each time written in another way, and commands may come to it
before it is tracked, or match and leave its text as it is. None of this shows in what the set has
for the path: the text it was first tracked with, and what the commands since then make of that
text, under the path as it was written first.
-/

namespace Sweep

namespace RevisionSet

open CompiledCommand

/-- An operation on the revisions of a sweep. -/
inductive Operation where
  | track (p : Path) (text : Text)
  | revise (p : Path) (command : CompiledCommand)

namespace Operation

def path : Operation → Path
  | .track p _ => p
  | .revise p _ => p

def isOn (p : Path) (operation : Operation) : Bool := operation.path.same p

def tracks (p : Path) : Operation → Bool
  | .track q _ => q.same p
  | .revise _ _ => false

def commandOn? (p : Path) : Operation → Option CompiledCommand
  | .track _ _ => none
  | .revise q command => if q.same p then some command else none

/-- What an operation makes of the entry of its path. -/
def act : Operation → Option (Path × Revision) → Option (Path × Revision)
  | .track p text, entry => some (entry.getD (p, .begin text))
  | .revise _ command, entry => entry.map fun e => (e.1, e.2.next command)

theorem isOn_iff {p : Path} {operation : Operation} :
    operation.isOn p = true ↔ operation.path.key = p.key :=
  Path.same_iff

end Operation

def perform (set : RevisionSet) : Operation → RevisionSet
  | .track p text => set.track p text
  | .revise p command => (set.revise p command).1

/-- What operations leave of an empty set. -/
def ofOperations (operations : List Operation) : RevisionSet := operations.foldl perform {}

/-- The commands that come to a path, in order. -/
def commandsOn (p : Path) (operations : List Operation) : List CompiledCommand :=
  operations.filterMap (Operation.commandOn? p)

/-- A path is tracked for the first time as `first` and with this text, before `later`. -/
def TracksFirst (operations : List Operation) (p first : Path) (text : Text)
    (later : List Operation) : Prop :=
  first.key = p.key ∧ ∃ before, operations = before ++ .track first text :: later ∧
    ∀ operation ∈ before, operation.tracks p = false

/-! ### The entry of a path -/

section Entry

variable {set : RevisionSet} {p q : Path}

theorem mem_changes_iff_tracked? {t : Text} :
    ((q, t) ∈ set.changes ∧ q.key = p.key) ↔
      ∃ r, set.tracked? p = some (q, r) ∧ r.current ≠ r.initial ∧ r.current = t := by
  rw [mem_changes_iff]
  constructor
  · rintro ⟨⟨hq, r, hr, hchanged⟩, hkey⟩
    have hmem := PathMap.mem_entries_iff.2 ⟨hq, hr⟩
    exact ⟨r, PathMap.entryOf?_eq_some_iff.2 ⟨hmem, hkey⟩, hchanged⟩
  · rintro ⟨r, hr, hchanged⟩
    obtain ⟨hmem, hkey⟩ := PathMap.entryOf?_eq_some_iff.1 hr
    obtain ⟨hq, hget⟩ := PathMap.mem_entries_iff.1 hmem
    exact ⟨⟨hq, r, hget, hchanged⟩, hkey⟩

/-- The step: an operation acts on the entry of its path, and on no other. -/
theorem tracked?_perform (set : RevisionSet) (operation : Operation) (p : Path) :
    (set.perform operation).tracked? p =
      if operation.path.key = p.key then operation.act (set.tracked? p) else set.tracked? p := by
  cases operation with
  | track q text => exact tracked?_track set q p text
  | revise q command => exact tracked?_revise set q p command

/-- To revise a path tells whether its text has become another one. -/
theorem revise_snd_iff (set : RevisionSet) (p : Path) (command : CompiledCommand) :
    (set.revise p command).2 = true ↔
      (set.revise p command).1.current? p ≠ set.current? p := by
  rw [current?_eq, current?_eq, get?_revise, if_pos rfl]
  cases hget : set.get? p with
  | none => simp [revise_of_none hget]
  | some r =>
      rw [revise_of_some hget]
      split
      · rename_i hsame
        simp [Revision.next, hsame]
      · rename_i hne
        simp [Revision.next, hne]

end Entry

/-! ### Operations in sequence -/

section Sequence

variable {operations later : List Operation} {set : RevisionSet} {p first : Path} {text : Text}
  {r : Revision}

/-- The run: what becomes of the entry of a path depends on the operations on that path alone. -/
theorem tracked?_foldl_perform (set : RevisionSet) (operations : List Operation) (p : Path) :
    (operations.foldl perform set).tracked? p =
      (operations.filter (Operation.isOn p)).foldl (fun entry operation => operation.act entry)
        (set.tracked? p) := by
  induction operations generalizing set with
  | nil => rfl
  | cons operation operations ih =>
      rw [List.foldl_cons, ih, tracked?_perform, List.filter_cons]
      by_cases hkey : operation.path.key = p.key
      · rw [if_pos hkey, if_pos (Operation.isOn_iff.2 hkey), List.foldl_cons]
      · rw [if_neg hkey, if_neg fun hon => hkey (Operation.isOn_iff.1 hon)]

theorem tracked?_ofOperations_filter (operations : List Operation) (p : Path) :
    (ofOperations (operations.filter (Operation.isOn p))).tracked? p =
      (ofOperations operations).tracked? p := by
  rw [ofOperations, ofOperations, tracked?_foldl_perform, tracked?_foldl_perform,
    List.filter_filter]
  simp only [Bool.and_self]

/-- Before a path is tracked, nothing that is done makes an entry of it. -/
theorem tracked?_foldl_perform_of_untracked (hset : set.tracked? p = none)
    (h : ∀ operation ∈ operations, operation.tracks p = false) :
    (operations.foldl perform set).tracked? p = none := by
  induction operations generalizing set with
  | nil => exact hset
  | cons operation operations ih =>
      apply ih _ fun o ho => h o (List.mem_cons_of_mem _ ho)
      have htracks := h operation List.mem_cons_self
      rw [tracked?_perform, hset]
      split
      · rename_i hkey
        cases operation with
        | track q text => exact absurd (Path.same_iff.2 hkey) (Bool.eq_false_iff.1 htracks)
        | revise q command => rfl
      · rfl

/-- Once a path is tracked, commands revise its text and nothing else changes. -/
theorem tracked?_foldl_perform_of_tracked (hset : set.tracked? p = some (first, r)) :
    (operations.foldl perform set).tracked? p =
      some (first, ⟨r.initial, rewriteAll (commandsOn p operations) r.current⟩) := by
  induction operations generalizing set r with
  | nil => exact hset
  | cons operation operations ih =>
      have hstep := tracked?_perform set operation p
      rw [hset] at hstep
      cases operation with
      | track q text =>
          have hsame : (set.perform (.track q text)).tracked? p = some (first, r) :=
            hstep.trans (ite_self _)
          exact ih hsame
      | revise q command =>
          rw [commandsOn, List.filterMap_cons, Operation.commandOn?]
          by_cases hkey : q.key = p.key
          · rw [if_pos (Path.same_iff.2 hkey)]
            exact ih (hstep.trans (if_pos hkey))
          · rw [if_neg fun hsame => hkey (Path.same_iff.1 hsame)]
            exact ih (hstep.trans (if_neg hkey))

theorem tracked?_of_tracksFirst (h : TracksFirst operations p first text later) :
    (ofOperations operations).tracked? p =
      some (first, ⟨text, rewriteAll (commandsOn p later) text⟩) := by
  obtain ⟨hkey, before, rfl, hbefore⟩ := h
  have hnone : (before.foldl perform {}).tracked? p = none :=
    tracked?_foldl_perform_of_untracked rfl hbefore
  have hfirst := tracked?_perform (before.foldl perform {}) (.track first text) p
  rw [hnone] at hfirst
  rw [ofOperations, List.foldl_append, List.foldl_cons]
  exact tracked?_foldl_perform_of_tracked (hfirst.trans (if_pos hkey))

theorem untracked_or_tracksFirst (operations : List Operation) (p : Path) :
    (∀ operation ∈ operations, operation.tracks p = false) ∨
      ∃ first text later, TracksFirst operations p first text later := by
  cases hfind : operations.find? (Operation.tracks p) with
  | none =>
      refine .inl fun operation hmem => ?_
      exact Bool.eq_false_iff.2 (List.find?_eq_none.1 hfind operation hmem)
  | some operation =>
      obtain ⟨htracks, before, later, hsplit, hbefore⟩ := List.find?_eq_some_iff_append.1 hfind
      cases operation with
      | track first text =>
          refine .inr ⟨first, text, later, Path.same_iff.1 htracks, before, hsplit, ?_⟩
          intro operation hmem
          simpa using hbefore operation hmem
      | revise q command => cases htracks

theorem contains_ofOperations_iff :
    (ofOperations operations).contains p = true ↔
      ∃ operation ∈ operations, operation.tracks p = true := by
  rw [contains_eq_isSome, get?_eq_map_tracked?, Option.isSome_map]
  rcases untracked_or_tracksFirst operations p with huntracked | ⟨first, text, later, hfirst⟩
  · have hnone : (ofOperations operations).tracked? p = none :=
      tracked?_foldl_perform_of_untracked rfl huntracked
    rw [hnone]
    constructor
    · intro h
      cases h
    · rintro ⟨operation, hmem, htracks⟩
      exact absurd htracks (Bool.eq_false_iff.1 (huntracked operation hmem))
  · rw [tracked?_of_tracksFirst hfirst]
    obtain ⟨hkey, before, rfl, -⟩ := hfirst
    refine ⟨fun _ => ⟨.track first text, ?_, Path.same_iff.2 hkey⟩, fun _ => rfl⟩
    exact List.mem_append_right _ List.mem_cons_self

theorem tracked?_ofOperations_eq_some_iff :
    (ofOperations operations).tracked? p = some (first, r) ↔
      ∃ text later, TracksFirst operations p first text later ∧
        r = ⟨text, rewriteAll (commandsOn p later) text⟩ := by
  constructor
  · intro h
    rcases untracked_or_tracksFirst operations p with huntracked | ⟨first', text, later, hfirst⟩
    · have hnone : (ofOperations operations).tracked? p = none :=
        tracked?_foldl_perform_of_untracked rfl huntracked
      rw [h] at hnone
      cases hnone
    · rw [tracked?_of_tracksFirst hfirst] at h
      obtain ⟨rfl, rfl⟩ := Prod.mk.inj (Option.some.inj h)
      exact ⟨text, later, hfirst, rfl⟩
  · rintro ⟨text, later, hfirst, rfl⟩
    exact tracked?_of_tracksFirst hfirst

end Sequence

/-- **A path has a history of its own.** Whatever is tracked and revised, in any order, a path is in
the set exactly if it has been tracked, and it keeps the text and the spelling that it was first
tracked with. Its working text is that text after the commands that have come to it since; earlier
commands, later tracking and operations on other paths do not count. To revise it tells whether its
working text changes, and it is listed as a change, as it was first written, exactly if that text is
no longer the first one. -/
theorem path_has_own_history (operations : List Operation) (p : Path) :
    ((ofOperations operations).contains p = true ↔
      ∃ operation ∈ operations, operation.tracks p = true) ∧
    (∀ first r, (ofOperations operations).tracked? p = some (first, r) ↔
      ∃ text later, TracksFirst operations p first text later ∧
        r = ⟨text, rewriteAll (commandsOn p later) text⟩) ∧
    (∀ t, (ofOperations operations).current? p = some t ↔
      ∃ first text later, TracksFirst operations p first text later ∧
        rewriteAll (commandsOn p later) text = t) ∧
    (∀ more first r, (ofOperations operations).tracked? p = some (first, r) →
      ∃ current, (ofOperations (operations ++ more)).tracked? p =
        some (first, ⟨r.initial, current⟩)) ∧
    (∀ q command, q.key = p.key →
      (((ofOperations operations).revise q command).2 = true ↔
        ((ofOperations operations).revise q command).1.current? p ≠
          (ofOperations operations).current? p)) ∧
    (ofOperations (operations.filter (Operation.isOn p))).tracked? p =
      (ofOperations operations).tracked? p ∧
    ∀ first t, ((first, t) ∈ (ofOperations operations).changes ∧ first.key = p.key) ↔
      ∃ text later, TracksFirst operations p first text later ∧
        rewriteAll (commandsOn p later) text ≠ text ∧
        rewriteAll (commandsOn p later) text = t := by
  refine ⟨contains_ofOperations_iff, fun first r => tracked?_ofOperations_eq_some_iff, fun t => ?_,
    fun more first r h => ?_, fun q command hkey => ?_, tracked?_ofOperations_filter operations p,
    fun first t => ?_⟩
  · rw [current?_eq, get?_eq_map_tracked?, Option.map_map, Option.map_eq_some_iff]
    constructor
    · rintro ⟨⟨first, r⟩, hentry, rfl⟩
      obtain ⟨text, later, hfirst, rfl⟩ := tracked?_ofOperations_eq_some_iff.1 hentry
      exact ⟨first, text, later, hfirst, rfl⟩
    · rintro ⟨first, text, later, hfirst, rfl⟩
      exact ⟨_, tracked?_of_tracksFirst hfirst, rfl⟩
  · rw [ofOperations, List.foldl_append]
    exact ⟨_, tracked?_foldl_perform_of_tracked h⟩
  · rw [revise_snd_iff, current?_eq, current?_eq, current?_eq, current?_eq, get?_congr _ hkey,
      get?_congr (ofOperations operations) hkey]
  · rw [mem_changes_iff_tracked?]
    constructor
    · rintro ⟨r, hentry, hchanged, rfl⟩
      obtain ⟨text, later, hfirst, rfl⟩ := tracked?_ofOperations_eq_some_iff.1 hentry
      exact ⟨text, later, hfirst, hchanged, rfl⟩
    · rintro ⟨text, later, hfirst, hchanged, rfl⟩
      exact ⟨_, tracked?_of_tracksFirst hfirst, hchanged, rfl⟩

def literalCommand (search replacement : Text) : CompiledCommand :=
  ⟨⟨everyFile, search, replacement, .literal⟩, .literal search replacement⟩

/-- One file under three spellings of its path, with a command before it is tracked, a text that
comes too late, a command that writes back what it finds, and another file in between. -/
def respelled : List Operation :=
  [.revise ⟨['a']⟩ (literalCommand ['x'] ['z']), .track ⟨['a', '/']⟩ ['x'], .track ⟨['b']⟩ ['x'],
    .track ⟨['a']⟩ ['z'], .revise ⟨['a', '/', '.']⟩ (literalCommand ['x'] ['y', 'y']),
    .revise ⟨['b']⟩ (literalCommand ['x'] ['z']), .revise ⟨['a']⟩ (literalCommand ['y'] ['y'])]

theorem path_has_own_history_respelled :
    TracksFirst respelled ⟨['a']⟩ ⟨['a', '/']⟩ ['x'] (respelled.drop 2) ∧
      (ofOperations respelled).tracked? ⟨['a']⟩ = some (⟨['a', '/']⟩, ⟨['x'], ['y', 'y']⟩) ∧
      (⟨['a', '/']⟩, ['y', 'y']) ∈ (ofOperations respelled).changes ∧
      ((ofOperations respelled).revise ⟨['a', '/', '.']⟩ (literalCommand ['y'] ['y'])).2 =
        false := by
  obtain ⟨-, hentry, -, -, hrevise, -, hchanges⟩ := path_has_own_history respelled ⟨['a']⟩
  have hfirst : TracksFirst respelled ⟨['a']⟩ ⟨['a', '/']⟩ ['x'] (respelled.drop 2) :=
    ⟨by decide, respelled.take 1, rfl, by decide⟩
  have htext : rewriteAll (commandsOn ⟨['a']⟩ (respelled.drop 2)) ['x'] = ['y', 'y'] := by decide
  refine ⟨hfirst, (hentry _ _).2 ⟨_, _, hfirst, ?_⟩, ?_, ?_⟩
  · rw [htext]
  · exact ((hchanges _ _).2 ⟨_, _, hfirst, by rw [htext]; decide, htext⟩).1
  · rw [← Bool.not_eq_true, hrevise ⟨['a', '/', '.']⟩ _ (by decide)]
    decide

end RevisionSet

end Sweep

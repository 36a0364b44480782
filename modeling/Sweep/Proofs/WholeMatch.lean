import Sweep.Proofs.MemorySweep
import Sweep.Proofs.Template

/-!
# Replacing every match by itself

A match begins where it was looked for and ends within the text, so the pieces of a text are the
text, cut at the matches. Whoever writes each match back in its place has the text again, and a
sweep that does nothing else has nothing to write.
-/

namespace Sweep

namespace Regex

/-! ### Where a match lies -/

section Match

variable {program : Array Instr} {m : Match}

/-- The match of the thread that accepts at this place, or the one found before. -/
theorem accepted_eq_some {start position : Nat} {threads : List Thread} {found : Option Match}
    (h : (match threads.find? (·.accepts program) with
      | some t => some ⟨start, position, t.slots⟩
      | none => found) = some m) :
    found = some m ∨ (m.start = start ∧ m.stop = position) := by
  split at h
  · obtain rfl := Option.some.inj h
    exact .inr ⟨rfl, rfl⟩
  · exact .inl h

/-- Threads accept here or further on, but not beyond the text. -/
theorem advance_eq_some {start : Nat} {threads : List Thread} {rest : Text} {position : Nat}
    {found : Option Match} (h : advance program start threads rest position found = some m) :
    found = some m ∨
      (m.start = start ∧ position ≤ m.stop ∧ m.stop ≤ position + rest.length) := by
  induction rest generalizing threads position found with
  | nil =>
    rw [advance] at h
    obtain hfound | ⟨hstart, hstop⟩ := accepted_eq_some h
    · exact .inl hfound
    · exact .inr ⟨hstart, Nat.le_of_eq hstop.symm, Nat.le_of_eq hstop⟩
  | cons c rest ih =>
    rw [advance] at h
    have hhere (h : (match threads.find? (·.accepts program) with
        | some t => some ⟨start, position, t.slots⟩
        | none => found) = some m) :
        found = some m ∨
          (m.start = start ∧ position ≤ m.stop ∧ m.stop ≤ position + (c :: rest).length) := by
      obtain hfound | ⟨hstart, hstop⟩ := accepted_eq_some h
      · exact .inl hfound
      · exact .inr ⟨hstart, by omega, by omega⟩
    split at h
    · exact hhere h
    · obtain hfound | ⟨hstart, hleft, hright⟩ := ih h
      · exact hhere hfound
      · rw [List.length_cons]
        exact .inr ⟨hstart, by omega, by omega⟩

/-- A match begins where it is looked for, and lies within the text. -/
theorem bounds_of_matchAt {slotCount : Nat} {before : Option Char} {rest : Text} {position : Nat}
    (h : matchAt program slotCount before rest position = some m) :
    m.start = position ∧ position ≤ m.stop ∧ m.stop ≤ position + rest.length := by
  obtain hnone | hbounds := advance_eq_some h
  · cases hnone
  · exact hbounds

end Match

/-! ### The pieces of a text -/

section Pieces

variable {r : Regex} {m : Match}

/-- The text of a piece where something else is written for a match. -/
def Piece.written (write : Match → Text) : Piece → Text
  | .kept c => [c]
  | .found m _ => write m

theorem replaceAll_eq_flatMap_written (write : Match → Text) (t : Text) :
    r.replaceAll write t = (r.pieces t).flatMap (Piece.written write) := by
  refine congrArg (List.flatMap · _) (funext fun piece => ?_)
  cases piece with
  | kept c => rfl
  | found m text => rfl

/-- The text of the whole match. -/
theorem groupText_zero {front : Text} (hstart : m.start = front.length) (rest : Text) :
    groupText (front ++ rest) m 0 = rest.take (m.stop - front.length) := by
  rw [groupText, if_pos rfl, hstart, List.drop_left]

theorem flatMap_piecesFrom_groupText (r : Regex) (front rest : Text) (skip : Nat) (barred : Bool)
    (before : Option Char) :
    (r.piecesFrom skip barred before rest front.length).flatMap
        (Piece.written fun m => groupText (front ++ rest) m 0) = rest.drop skip := by
  induction rest generalizing front skip barred before with
  | nil =>
    -- Of a match at the end the text is empty, so it does not matter whether it counts.
    rw [List.drop_nil, List.flatMap_eq_nil_iff]
    intro piece hpiece
    unfold piecesFrom at hpiece
    split at hpiece
    · rename_i m hm
      split at hpiece
      · cases hpiece
      · obtain rfl := List.mem_singleton.1 hpiece
        rw [Piece.written, groupText_zero (bounds_of_matchAt hm).1, List.take_nil]
    · cases hpiece
  | cons c rest ih =>
    have hnext : front.length + 1 = (front ++ [c]).length := by simp
    have hwhole : front ++ c :: rest = (front ++ [c]) ++ rest := by simp
    cases skip with
    | succ skip =>
      rw [piecesFrom, hnext, hwhole, ih]
      rfl
    | zero =>
      rw [piecesFrom]
      have htail (skip : Nat) (barred : Bool) :
          (r.piecesFrom skip barred (some c) rest (front.length + 1)).flatMap
            (Piece.written fun m => groupText (front ++ c :: rest) m 0) = rest.drop skip := by
        rw [hnext, hwhole, ih]
      split
      · rw [List.flatMap_cons, htail]
        rfl
      · rename_i m hm
        have htext := groupText_zero (bounds_of_matchAt hm).1 (c :: rest)
        simp only
        split
        · rename_i hpos
          calc _ = groupText (front ++ c :: rest) m 0 ++ rest.drop (m.stop - front.length - 1) := by
                rw [List.flatMap_cons, htail]
                rfl
            _ = c :: (rest.take (m.stop - front.length - 1) ++
                  rest.drop (m.stop - front.length - 1)) := by
                rw [htext, List.take_cons hpos, List.cons_append]
            _ = c :: rest := by rw [List.take_append_drop]
        · rename_i hempty
          have hnil : groupText (front ++ c :: rest) m 0 = [] := by
            rw [htext, Nat.eq_zero_of_not_pos hempty, List.take_zero]
          split
          · rw [List.flatMap_cons, htail]
            rfl
          · rw [List.flatMap_cons, List.flatMap_cons, htail]
            exact congrArg (· ++ c :: rest) hnil

/-- Whoever writes every match back has the text again. -/
theorem replaceAll_groupText (r : Regex) (t : Text) :
    r.replaceAll (fun m => groupText t m 0) t = t := by
  rw [replaceAll_eq_flatMap_written]
  exact flatMap_piecesFrom_groupText r [] t 0 false none

end Pieces

/-! ### The template of the whole match -/

/-- The template that writes the whole match. -/
def wholeMatch : Text := ['$', '&']

theorem storeTemplate_wholeMatch (r : Regex) :
    r.storeTemplate wholeMatch = storedReference (Text.ofNat 0) := rfl

theorem expand_storedReference_zero (r : Regex) (t : Text) :
    r.expand (storedReference (Text.ofNat 0)) t = fun m => groupText t m 0 := by
  funext m
  have hbrace : '\x7d' ∉ Text.ofNat 0 := by decide
  have hexpand := expandFrom_storedReference (r := r) (t := t) (m := m) hbrace []
  rw [List.append_nil] at hexpand
  rw [expand, hexpand, referredText_ofNat, expandFrom, List.append_nil]

end Regex

/-! ### Commands and scripts -/

open Regex Sweeper

namespace Substitution

theorem replaceIn?_wholeMatch (r : Regex) (t : Text) :
    replaceIn? (.pattern r (r.storeTemplate wholeMatch)) t =
      if r.isMatch t then some t else none := by
  rw [replaceIn?, storeTemplate_wholeMatch, expand_storedReference_zero, replaceAll_groupText]

theorem replaceIn_of_wholeMatch {search : Text} {s : Substitution}
    (h : ofSearch? search wholeMatch .regex = some s) (t : Text) : s.replaceIn t = t := by
  obtain ⟨r, -, rfl⟩ := Option.map_eq_some_iff.1 h
  rw [replaceIn, replaceIn?_wholeMatch]
  split
  · rfl
  · rfl

end Substitution

/-- A command that writes each match of a regular expression back. -/
structure Command.WritesBack (command : Command) : Prop where
  mode : command.mode = .regex
  replacement : command.replacement = wholeMatch

def Script.WritesBack (script : Script) : Prop := ∀ command ∈ script.commands, command.WritesBack

namespace Command.WritesBack

variable {command : Command}

theorem rewrite_eq (hback : command.WritesBack) (t : Text) : command.rewrite t = t := by
  rw [Command.rewrite, hback.mode, hback.replacement]
  split
  · rename_i s hs
    exact Substitution.replaceIn_of_wholeMatch hs t
  · rfl

theorem revise_eq (hback : command.WritesBack) {compiled : CompiledCommand}
    (hcompiled : command.compile = .ok compiled) (set : RevisionSet) (p : Path) :
    set.revise p compiled = (set, false) := by
  have hsame (t : Text) : compiled.rewrite t = t := by
    obtain ⟨-, hsearch, -⟩ := Command.compile_eq_ok_iff.1 hcompiled
    rw [hback.mode, hback.replacement] at hsearch
    exact Substitution.replaceIn_of_wholeMatch hsearch t
  cases hp : set.get? p with
  | none => exact RevisionSet.revise_of_none hp compiled
  | some r => rw [RevisionSet.revise_of_some hp, if_pos (hsame r.current)]

end Command.WritesBack

theorem Script.WritesBack.sweptText_eq {script : Script} (hback : script.WritesBack) (p : Path)
    (t : Text) : script.sweptText p t = t := by
  rw [Script.sweptText]
  split
  · refine (List.foldl_ext _ (fun t _ => t) t fun t command hcommand => ?_).trans
      (List.foldl_fixed _)
    exact (hback command (List.mem_filter.1 hcommand).1).rewrite_eq t
  · rfl

namespace MemoryHost

variable {h h' : MemoryHost} {script : Script} {summary : Summary}

theorem changes_eq_nil (hback : script.WritesBack) : h.changes script = [] := by
  rw [changes, List.filterMap_eq_nil_iff]
  intro e _
  rw [if_pos (hback.sweptText_eq e.1 e.2)]

/-- A sweep of these commands that has no fault while it looks reads, and does nothing else. -/
theorem on_run_of_writesBack (hback : script.WritesBack)
    (hfault : h.snapshot.fault? script = none) :
    Step.on (run host script) h = (.ok ⟨[]⟩, h.afterLooking script) := by
  rw [on_run_of_no_fault hfault, changes_eq_nil hback]
  rfl

theorem eq_of_on_run_of_writesBack (hback : script.WritesBack)
    (hrun : Step.on (run host script) h = (.ok summary, h')) :
    summary = ⟨[]⟩ ∧ h' = h.afterLooking script := by
  obtain ⟨hfault, -⟩ := eq_of_on_run_eq_ok hrun
  rw [on_run_of_writesBack hback hfault] at hrun
  obtain ⟨hsummary, hstate⟩ := Prod.mk.inj hrun
  exact ⟨(Except.ok.inj hsummary).symm, hstate.symm⟩

/-- Such a sweep never comes to a write, so it makes no difference which writes are refused. -/
theorem on_run_failingWrites (hback : script.WritesBack)
    (hrun : Step.on (run host script) h = (.ok summary, h')) (failing : List Path) :
    Step.on (run host script) { h with failingWrites := failing } =
      (.ok summary, { h' with failingWrites := failing }) := by
  have hfault : ({ h with failingWrites := failing } : MemoryHost).snapshot.fault? script = none :=
    (eq_of_on_run_eq_ok hrun).1
  obtain ⟨rfl, rfl⟩ := eq_of_on_run_of_writesBack hback hrun
  exact on_run_of_writesBack hback hfault

theorem on_loadAndRun_of_parsed? (hwritable : h.writable = true)
    (hparsed : h.parsed? = some script) :
    Step.on (loadAndRun host) h = Step.on (run host script) h := by
  obtain ⟨source, hscript, hparse⟩ := Option.bind_eq_some_iff.1 hparsed
  rw [on_loadAndRun, if_pos hwritable, scriptText, hscript]
  cases hresult : ParsedScript.parse source with
  | error e =>
    rw [hresult] at hparse
    cases hparse
  | ok parsed =>
    rw [hresult] at hparse
    obtain rfl := Option.some.inj hparse
    simp only [hresult]

theorem eq_of_on_loadAndRun_of_writesBack (hback : script.WritesBack)
    (hparsed : h.parsed? = some script)
    (hrun : Step.on (loadAndRun host) h = (.ok summary, h')) :
    summary = ⟨[]⟩ ∧ h' = h.afterLooking script := by
  have hwritable : h.writable = true := by
    by_contra hrefused
    rw [on_loadAndRun, if_neg hrefused] at hrun
    cases hrun
  rw [on_loadAndRun_of_parsed? hwritable hparsed] at hrun
  exact eq_of_on_run_of_writesBack hback hrun

/-- **Writing every match back changes nothing.** Any valid search, whatever it matches, leaves
every text as it is, so its command never marks a file as changed. A sweep of such commands that
succeeds comes to no write and reports that no file has been modified. -/
theorem nothing_changes_of_writesBack :
    (∀ {search : Text} {r : Regex}, Regex.parse? search = some r →
      ∃ s, Substitution.ofSearch? search wholeMatch .regex = some s ∧
        ∀ t, s.replaceIn? t = if r.isMatch t then some t else none) ∧
    (∀ {command : Command} {compiled : CompiledCommand}, command.WritesBack →
      command.compile = .ok compiled →
        ∀ (set : RevisionSet) (p : Path), set.revise p compiled = (set, false)) ∧
    ∀ {script : Script}, script.WritesBack → ∀ {h h' : MemoryHost} {summary : Summary},
      (Step.on (run host script) h = (.ok summary, h') →
        summary = ⟨[]⟩ ∧ h' = { h with reads := h'.reads } ∧
          ∀ failing, Step.on (run host script) { h with failingWrites := failing } =
            (.ok summary, { h' with failingWrites := failing })) ∧
      (h.parsed? = some script → sweep host h = (.ok summary, h') →
        summary = ⟨[]⟩ ∧ h' = { h with
          reads := h'.reads
          infos := h.infos ++ ["Batch replace completed: 0 file(s) modified.".toList] }) := by
  refine ⟨?_, fun hback hcompiled => hback.revise_eq hcompiled, ?_⟩
  · intro search r hr
    refine ⟨.pattern r (r.storeTemplate wholeMatch), ?_, Substitution.replaceIn?_wholeMatch r⟩
    rw [Substitution.ofSearch?, hr]
    rfl
  · intro script hback h h' summary
    constructor
    · intro hrun
      have hfailing := on_run_failingWrites hback hrun
      obtain ⟨rfl, rfl⟩ := eq_of_on_run_of_writesBack hback hrun
      exact ⟨rfl, rfl, hfailing⟩
    · intro hparsed hsweep
      cases hrun : Step.on (loadAndRun host) h with
      | mk result state =>
        rw [sweep_eq hrun] at hsweep
        obtain ⟨rfl, rfl⟩ := Prod.mk.inj hsweep
        obtain ⟨rfl, rfl⟩ := eq_of_on_loadAndRun_of_writesBack hback hparsed hrun
        exact ⟨rfl, rfl⟩

/-- A search that finds a match at every place, if only an empty one. -/
def everyPlace : Command := ⟨everyFile, "x*".toList, wholeMatch, .regex⟩

def withEveryPlace : MemoryHost where
  script := some "replace-regex \"x*\"\nwith \"$&\"".toList
  files := PathMap.ofList [(⟨['a']⟩, "éxxa".toList), (⟨['b']⟩, [])]

theorem nothing_changes_of_everyPlace :
    (∃ r s, Regex.parse? everyPlace.search = some r ∧
      Substitution.ofSearch? everyPlace.search wholeMatch .regex = some s ∧
        s.replaceIn? "éxxa".toList = if r.isMatch "éxxa".toList then some "éxxa".toList else none) ∧
    (∃ compiled, everyPlace.WritesBack ∧ everyPlace.compile = .ok compiled ∧
      (RevisionSet.track {} ⟨['a']⟩ "éxxa".toList).revise ⟨['a']⟩ compiled =
        (RevisionSet.track {} ⟨['a']⟩ "éxxa".toList, false)) ∧
    ∃ script, Script.WritesBack script ∧ withEveryPlace.parsed? = some script ∧
      (∃ h', Step.on (run host script) withEveryPlace = (.ok ⟨[]⟩, h') ∧
        h' = { withEveryPlace with reads := h'.reads }) ∧
      ∃ h', sweep host withEveryPlace = (.ok ⟨[]⟩, h') ∧ h' = { withEveryPlace with
        reads := h'.reads
        infos := ["Batch replace completed: 0 file(s) modified.".toList] } := by
  have hcommand : everyPlace.WritesBack := ⟨rfl, rfl⟩
  have hback : Script.WritesBack { commands := [everyPlace] } :=
    List.forall_mem_singleton.2 hcommand
  have hparsed : withEveryPlace.parsed? = some { commands := [everyPlace] } := by decide
  have hfault : withEveryPlace.snapshot.fault? { commands := [everyPlace] } = none := by decide
  have hrun := on_run_of_writesBack hback hfault
  obtain ⟨r, hr⟩ : ∃ r, Regex.parse? everyPlace.search = some r :=
    Option.isSome_iff_exists.1 (by decide)
  obtain ⟨compiled, hcompiled⟩ : ∃ compiled, everyPlace.compile = .ok compiled := ⟨_, by rfl⟩
  obtain ⟨hsame, hrevise, hsweeps⟩ := nothing_changes_of_writesBack
  obtain ⟨s, hs, htext⟩ := hsame hr
  have hsweep := sweep_eq ((on_loadAndRun_of_parsed? rfl hparsed).trans hrun)
  refine ⟨⟨r, s, hr, hs, htext _⟩, ⟨compiled, hcommand, hcompiled, hrevise hcommand hcompiled _ _⟩,
    _, hback, hparsed, ⟨_, hrun, ?_⟩, _, hsweep, ?_⟩
  · exact ((hsweeps hback).1 hrun).2.1
  · exact ((hsweeps hback).2 hparsed hsweep).2

end MemoryHost

end Sweep

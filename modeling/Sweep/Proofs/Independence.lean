import Sweep.Proofs.Revision

/-!
# Files are revised on their own

The steps run command by command over one shared set, which tracks a path only when a command comes
to it. For a single path none of this can be seen: its text is the fold of the commands that apply
to it, whatever becomes of the others. So visits to different paths change places freely, and with
them steps that have no path in common.
-/

namespace Sweep

namespace PathMap

variable {α : Type} {m m' : PathMap α} {p q : Path} {a : α}

/-- A map is its paths, as they are written, and what a lookup finds. -/
theorem ext_get? (hkeys : ∀ p, p ∈ m.keys ↔ p ∈ m'.keys) (hget : ∀ p, m.get? p = m'.get? p) :
    m = m' := by
  apply PathMap.ext
  apply eq_of_ascending_of_mem_iff (fun e : Path × α => e.1.key) m.ascending m'.ascending
  rintro ⟨p, a⟩
  rw [mem_entries_iff, mem_entries_iff, hkeys, hget]

theorem get?_eq_none_iff : m.get? p = none ↔ ∀ q ∈ m.keys, q.key ≠ p.key := by
  rw [Option.eq_none_iff_forall_ne_some]
  constructor
  · intro h q hq hkey
    obtain ⟨a, ha⟩ := mem_keys_iff.1 hq
    exact h a (get?_eq_some_iff.2 ⟨q, ha, hkey⟩)
  · intro h a ha
    obtain ⟨q, hq, hkey⟩ := get?_eq_some_iff.1 ha
    exact h q (mem_keys_iff.2 ⟨a, hq⟩) hkey

/-- A path that is not there yet comes in as it is written. -/
theorem mem_keys_insertNew_of_none (h : m.get? p = none) :
    q ∈ (m.insertNew p a).keys ↔ q = p ∨ q ∈ m.keys := by
  constructor
  · exact mem_keys_insertNew
  · intro hq
    have hget : ((m.insertNew p a).get? q).isSome := by
      rw [get?_insertNew]
      by_cases hkey : p.key = q.key
      · rw [if_pos hkey]
        rfl
      · obtain ⟨b, hb⟩ := mem_keys_iff.1 (hq.resolve_left fun heq => hkey (by rw [heq]))
        rw [if_neg hkey, get?_of_mem hb]
        rfl
    obtain ⟨b, hb⟩ := Option.isSome_iff_exists.1 hget
    obtain ⟨r, hr, hkey⟩ := get?_eq_some_iff.1 hb
    have hmem := mem_keys_iff.2 ⟨b, hr⟩
    have hrq : r = q := by
      rw [get?_eq_none_iff] at h
      rcases mem_keys_insertNew hmem with rfl | hrkeys <;> rcases hq with rfl | hqkeys
      · rfl
      · exact absurd hkey.symm (h q hqkeys)
      · exact absurd hkey (h r hrkeys)
      · exact eq_of_mem_keys hrkeys hqkeys hkey
    exact hrq ▸ hmem

end PathMap

namespace RevisionSet

open CompiledCommand

/-! ### Visits to different paths -/

section Visit

variable {contents : PathMap Text} {set : RevisionSet} {p q : Path}

/-- A visit tracks its path, as it is written, if the content is known and no path equal to it is
tracked. -/
theorem mem_keys_visit_iff (command : CompiledCommand) :
    q ∈ (visit contents command set p).entries.keys ↔
      q ∈ set.entries.keys ∨ (q = p ∧ set.get? p = none ∧ contents.get? p ≠ none) := by
  unfold visit
  rw [contains_eq_isSome]
  cases hset : set.get? p with
  | some r => simp [keys_revise]
  | none =>
      cases hcontents : contents.get? p with
      | none => simp
      | some t =>
          have hnew := PathMap.mem_keys_insertNew_of_none (a := ⟨t, t⟩) (q := q) hset
          simp only [Option.isSome_none, Bool.false_eq_true, if_false, keys_revise]
          rw [track, hnew, or_comm]
          simp

theorem get?_visit_of_ne (command : CompiledCommand) (h : p.key ≠ q.key) :
    (visit contents command set p).get? q = set.get? q := by
  rw [get?_visit, if_neg h]

/-- Visits to different paths change places. -/
theorem visit_comm (c d : CompiledCommand) (h : p.key ≠ q.key) (set : RevisionSet) :
    visit contents d (visit contents c set p) q = visit contents c (visit contents d set q) p := by
  have hp : (visit contents d set q).get? p = set.get? p := get?_visit_of_ne d h.symm
  have hq : (visit contents c set p).get? q = set.get? q := get?_visit_of_ne c h
  have hentries : (visit contents d (visit contents c set p) q).entries =
      (visit contents c (visit contents d set q) p).entries := by
    apply PathMap.ext_get?
    · intro r
      rw [mem_keys_visit_iff, mem_keys_visit_iff, mem_keys_visit_iff, mem_keys_visit_iff, hp, hq,
        or_right_comm]
    · intro r
      change get? _ r = get? _ r
      rw [get?_visit, get?_visit, get?_visit, get?_visit]
      by_cases hpr : p.key = r.key
      · have hqr : q.key ≠ r.key := fun heq => h (hpr.trans heq.symm)
        rw [if_pos hpr, if_neg hqr, if_pos hpr, if_neg hqr]
      · rw [if_neg hpr, if_neg hpr]
  exact congrArg RevisionSet.mk hentries

end Visit

/-! ### Steps without a common path -/

/-- Folds whose steps change places with one another change places. -/
theorem foldl_comm_foldl {σ α β : Type} {f : σ → α → σ} {g : σ → β → σ} {as : List α} {bs : List β}
    (h : ∀ a ∈ as, ∀ b ∈ bs, ∀ s, g (f s a) b = f (g s b) a) (s : σ) :
    bs.foldl g (as.foldl f s) = as.foldl f (bs.foldl g s) := by
  have hone : ∀ a ∈ as, ∀ s, bs.foldl g (f s a) = f (bs.foldl g s) a := by
    intro a ha s
    have hbs := h a ha
    clear h
    induction bs generalizing s with
    | nil => rfl
    | cons b bs ih =>
        rw [List.foldl_cons, List.foldl_cons, hbs b List.mem_cons_self]
        exact ih (g s b) fun c hc => hbs c (List.mem_cons_of_mem b hc)
  clear h
  induction as generalizing s with
  | nil => rfl
  | cons a as ih =>
      have hrest := ih (f s a) fun c hc => hone c (List.mem_cons_of_mem a hc)
      rw [List.foldl_cons, List.foldl_cons, hrest, hone a List.mem_cons_self]

theorem reviseAll_swap {contents : PathMap Text} {a b : CompiledCommand × List Path}
    (h : ∀ p ∈ a.2, p.isIn b.2 = false) (front back : List (CompiledCommand × List Path)) :
    reviseAll contents (front ++ b :: a :: back) =
      reviseAll contents (front ++ a :: b :: back) := by
  have hkeys : ∀ p ∈ a.2, ∀ q ∈ b.2, p.key ≠ q.key := by
    intro p hp q hq hkey
    exact Bool.eq_false_iff.1 (h p hp) (Path.isIn_iff.2 ⟨q, hq, hkey.symm⟩)
  have hswap (set : RevisionSet) := foldl_comm_foldl (f := visit contents a.1)
    (g := visit contents b.1) (fun p hp q hq => visit_comm a.1 b.1 (hkeys p hp q hq)) set
  unfold reviseAll
  simp only [List.foldl_append, List.foldl_cons, hswap]

/-! ### One path -/

/-- What the steps make of the text of a path: the commands of the steps that it takes part in apply
in their order. -/
def textAfter (steps : List (CompiledCommand × List Path)) (p : Path) (t : Text) : Text :=
  rewriteAll (commandsFor steps p) t

/-- The change of a path, however the path is written. -/
def change? (set : RevisionSet) (p : Path) : Option Text := PathMap.lookup set.changes p

theorem change?_eq_some_iff {set : RevisionSet} {p : Path} {t : Text} :
    set.change? p = some t ↔ ∃ r, set.get? p = some r ∧ r.current ≠ r.initial ∧ r.current = t := by
  rw [change?, PathMap.lookup_eq_some_iff set.changes_ascending]
  constructor
  · rintro ⟨q, hq, hkey⟩
    obtain ⟨-, r, hr, hchanged⟩ := mem_changes_iff.1 hq
    exact ⟨r, (set.get?_congr hkey).symm.trans hr, hchanged⟩
  · rintro ⟨r, hr, hchanged⟩
    obtain ⟨q, hq, hkey⟩ := PathMap.get?_eq_some_iff.1 hr
    have hqkeys := PathMap.mem_keys_iff.2 ⟨r, hq⟩
    exact ⟨q, mem_changes_iff.2 ⟨hqkeys, r, (set.get?_congr hkey).trans hr, hchanged⟩, hkey⟩

theorem change?_eq_of_get?_eq {set other : RevisionSet} {p q : Path}
    (h : set.get? p = other.get? q) : set.change? p = other.change? q := by
  apply Option.ext
  intro t
  rw [change?_eq_some_iff, change?_eq_some_iff, h]

theorem commandsFor_eq_nil_iff {steps : List (CompiledCommand × List Path)} {p : Path} :
    commandsFor steps p = [] ↔ ∀ step ∈ steps, p.isIn step.2 = false := by
  simp only [commandsFor, List.map_eq_nil_iff, List.filter_eq_nil_iff, Bool.not_eq_true]

theorem commandsFor_ne_nil_iff {steps : List (CompiledCommand × List Path)} {p : Path} :
    commandsFor steps p ≠ [] ↔ ∃ step ∈ steps, p.isIn step.2 = true := by
  simp only [ne_eq, commandsFor_eq_nil_iff, Classical.not_forall, Bool.not_eq_false, exists_prop]

section Steps

variable {contents : PathMap Text} {steps : List (CompiledCommand × List Path)}
  (hsteps : ∀ step ∈ steps, step.2.Pairwise fun p q => p.key ≠ q.key)
include hsteps

theorem get?_reviseAll_eq_some_iff {p : Path} {r : Revision} :
    (reviseAll contents steps).get? p = some r ↔
      (∃ step ∈ steps, p.isIn step.2 = true) ∧
        ∃ t, contents.get? p = some t ∧ r = ⟨t, textAfter steps p t⟩ := by
  rw [get?_reviseAll contents hsteps, ← commandsFor_ne_nil_iff]
  by_cases hnil : commandsFor steps p = []
  · simp [hnil]
  · rw [if_neg hnil, Option.map_eq_some_iff, and_iff_right hnil]
    simp only [textAfter, @eq_comm _ r]

theorem current?_reviseAll_eq_none_iff {p : Path} :
    (reviseAll contents steps).current? p = none ↔
      contents.get? p = none ∨ ∀ step ∈ steps, p.isIn step.2 = false := by
  rw [current?_eq, Option.map_eq_none_iff, get?_reviseAll contents hsteps,
    ← commandsFor_eq_nil_iff]
  by_cases hnil : commandsFor steps p = []
  · simp [hnil]
  · rw [if_neg hnil, Option.map_eq_none_iff, or_iff_left hnil]

/-- A path without a step keeps its text, so it is no change. -/
theorem change?_reviseAll_eq_some_iff {p : Path} {t : Text} :
    (reviseAll contents steps).change? p = some t ↔
      ∃ original, contents.get? p = some original ∧ textAfter steps p original ≠ original ∧
        textAfter steps p original = t := by
  rw [change?_eq_some_iff]
  constructor
  · rintro ⟨r, hr, hchanged⟩
    obtain ⟨-, original, horiginal, rfl⟩ := (get?_reviseAll_eq_some_iff hsteps).1 hr
    exact ⟨original, horiginal, hchanged⟩
  · rintro ⟨original, horiginal, hchanged⟩
    refine ⟨_, (get?_reviseAll_eq_some_iff hsteps).2 ⟨?_, original, horiginal, rfl⟩, hchanged⟩
    rw [← commandsFor_ne_nil_iff]
    intro hnil
    rw [textAfter, hnil] at hchanged
    exact hchanged.1 rfl

theorem get?_reviseAll_congr {others : PathMap Text} {p : Path}
    (h : others.get? p = contents.get? p) :
    (reviseAll others steps).get? p = (reviseAll contents steps).get? p := by
  rw [get?_reviseAll others hsteps, get?_reviseAll contents hsteps, h]

/-- **Every file is revised on its own.** A path has a text exactly if its content is known and a
step applies to it; that text is its content after the commands of exactly these steps, and it is a
change exactly if it differs. Neither the contents of other paths nor the order of neighbouring
steps without a common path play a part, nor does the spelling of a path. -/
theorem current?_reviseAll :
    (∀ p, (reviseAll contents steps).current? p = none ↔
      contents.get? p = none ∨ ∀ step ∈ steps, p.isIn step.2 = false) ∧
    (∀ p t, contents.get? p = some t → (∃ step ∈ steps, p.isIn step.2 = true) →
      (reviseAll contents steps).current? p = some (textAfter steps p t)) ∧
    (∀ p t, (reviseAll contents steps).change? p = some t ↔
      ∃ original, contents.get? p = some original ∧ textAfter steps p original ≠ original ∧
        textAfter steps p original = t) ∧
    (∀ others p, others.get? p = contents.get? p →
      (reviseAll others steps).current? p = (reviseAll contents steps).current? p ∧
        (reviseAll others steps).change? p = (reviseAll contents steps).change? p) ∧
    (∀ front a b back, steps = front ++ a :: b :: back → (∀ p ∈ a.2, p.isIn b.2 = false) →
      reviseAll contents (front ++ b :: a :: back) = reviseAll contents steps) ∧
    ∀ p q, p.key = q.key →
      (reviseAll contents steps).current? p = (reviseAll contents steps).current? q ∧
        (reviseAll contents steps).change? p = (reviseAll contents steps).change? q := by
  refine ⟨fun p => current?_reviseAll_eq_none_iff hsteps, fun p t ht hstep => ?_,
    fun p t => change?_reviseAll_eq_some_iff hsteps, fun others p h => ?_,
    fun front a b back heq hdisjoint => ?_, fun p q hkey => ?_⟩
  · have hget := (get?_reviseAll_eq_some_iff hsteps).2 ⟨hstep, t, ht, rfl⟩
    rw [current?_eq, hget]
    rfl
  · have hget := get?_reviseAll_congr hsteps h
    exact ⟨congrArg (Option.map Revision.current) hget, change?_eq_of_get?_eq hget⟩
  · rw [heq]
    exact reviseAll_swap hdisjoint front back
  · have hget := (reviseAll contents steps).get?_congr hkey
    exact ⟨congrArg (Option.map Revision.current) hget, change?_eq_of_get?_eq hget⟩

end Steps

/-- Three steps, of which the first two come to one file by different spellings of its path. -/
def twoSpellings : List (CompiledCommand × List Path) :=
  [(⟨⟨everyFile, ['x'], ['y'], .literal⟩, .literal ['x'] ['y']⟩, [⟨['a']⟩]),
    (⟨⟨everyFile, ['y'], ['z'], .literal⟩, .literal ['y'] ['z']⟩, [⟨['a', '/']⟩]),
    (⟨⟨everyFile, ['x'], ['x'], .literal⟩, .literal ['x'] ['x']⟩, [⟨['b']⟩])]

def twoFiles : PathMap Text := .ofList [(⟨['a']⟩, ['x']), (⟨['b']⟩, ['x'])]

theorem current?_reviseAll_twoSpellings :
    (∀ step ∈ twoSpellings, step.2.Pairwise fun p q => p.key ≠ q.key) ∧
      (reviseAll twoFiles twoSpellings).current? ⟨['a']⟩ = some ['z'] ∧
        (reviseAll twoFiles twoSpellings).change? ⟨['b']⟩ = none := by
  have hsteps : ∀ step ∈ twoSpellings, step.2.Pairwise fun p q => p.key ≠ q.key := by decide
  obtain ⟨-, hcurrent, hchange, -⟩ := @current?_reviseAll twoFiles twoSpellings hsteps
  refine ⟨hsteps, hcurrent ⟨['a']⟩ ['x'] rfl (by decide), ?_⟩
  rw [Option.eq_none_iff_forall_ne_some]
  intro t ht
  obtain ⟨original, horiginal, hne, -⟩ := (hchange ⟨['b']⟩ t).1 ht
  obtain rfl := Option.some.inj horiginal
  exact hne (by decide)

end RevisionSet

end Sweep

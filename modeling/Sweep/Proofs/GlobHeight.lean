import Mathlib.Order.Lattice
import Sweep.Glob.Compile

/-!
# Globs that nest too deep

A glob can be compiled if it can be read and does not nest too deep. Each pair of braces makes it
deeper by three levels at most, so a glob without braces, or with few, can be compiled if it can be
read.
-/

namespace Sweep.Glob

theorem parse_eq_ok_iff {pattern : Text} {g : Glob} :
    parse pattern = .ok g ↔
      ∃ last, Reading.readAll {} 0 pattern = .ok last ∧ last.finish = .ok g := by
  unfold parse
  cases Reading.readAll {} 0 pattern with
  | error fault => simp [Except.mapError]
  | ok last =>
      simp only [Except.ok.injEq, exists_eq_left']
      cases last.finish with
      | error fault => simp [Except.mapError]
      | ok g' => simp [Except.mapError]

theorem compile_eq_ok_iff {pattern : Text} {g : Glob} :
    compile pattern = .ok g ↔ parse pattern = .ok g ∧ g.fits = true := by
  unfold compile
  cases parse pattern with
  | error e => simp
  | ok g' =>
      simp only [Except.ok.injEq]
      constructor
      · intro h
        split at h
        · rename_i hfits
          obtain rfl := Except.ok.inj h
          exact ⟨rfl, hfits⟩
        · cases h
      · rintro ⟨rfl, hfits⟩
        rw [if_pos hfits]

variable {globs : List Glob} {n : Nat}

theorem Piece.height_le (p : Piece) : p.height ≤ 4 := by
  cases p with
  | oneOf negated ranges =>
      rw [height]
      split <;> omega
  | _ => exact Nat.le_of_ble_eq_true rfl

theorem listHeight_le (width height : Nat) : listHeight width height ≤ height + 1 := by
  rw [listHeight]
  split <;> omega

theorem nesting_concat_le (h : ∀ g ∈ globs, g.nesting ≤ n) : (concat globs).nesting ≤ n := by
  induction globs with
  | nil => exact Nat.zero_le n
  | cons g others ih =>
      obtain ⟨hg, hothers⟩ := List.forall_mem_cons.1 h
      cases others with
      | nil => exact hg
      | cons other others => exact Nat.max_le.2 ⟨hg, ih hothers⟩

/-- Alternatives are no list, so the level for them is counted once. -/
theorem nesting_choice_le (h : ∀ g ∈ globs, g.nesting ≤ n) :
    (choice globs).nesting ≤ n + 1 ∧ ((choice globs).isEither = false →
      (choice globs).nesting ≤ n) := by
  induction globs with
  | nil => exact ⟨Nat.zero_le _, fun _ => Nat.zero_le n⟩
  | cons g others ih =>
      obtain ⟨hg, hothers⟩ := List.forall_mem_cons.1 h
      cases others with
      | nil => exact ⟨Nat.le_succ_of_le hg, fun _ => hg⟩
      | cons other others =>
          refine ⟨Nat.max_le.2 ⟨?_, ?_⟩, fun heither => nomatch heither⟩
          · exact (listHeight_le _ _).trans (Nat.succ_le_succ hg)
          · cases others with
            | nil => exact (listHeight_le _ _).trans (Nat.succ_le_succ (hothers other (by simp)))
            | cons third others => exact (ih hothers).1

theorem nesting_braces_le (h : ∀ g ∈ globs, g.nesting ≤ n) :
    (braces (alternate globs)).nesting ≤ n + 3 := by
  have hshown : ∀ g ∈ globs.filter fun g => !g.isBlank, g.nesting ≤ n :=
    fun g hg => h g (List.mem_filter.1 hg).1
  obtain ⟨hnesting, hsingle⟩ := nesting_choice_le hshown
  change nesting (.braces (choice _)) ≤ _
  generalize choice (globs.filter fun g => !g.isBlank) = alternatives at hnesting hsingle
  rw [nesting]
  split
  · exact Nat.zero_le _
  · cases heither : alternatives.isEither with
    | false =>
        have hheight := listHeight_le alternatives.width alternatives.nesting
        have hn := hsingle heither
        rw [if_neg Bool.false_ne_true]
        omega
    | true =>
        cases alternatives with
        | either first second =>
            have hwidth : ¬1 < (either first second).width := Nat.lt_irrefl 1
            rw [if_pos rfl, listHeight, if_neg hwidth]
            exact Nat.add_le_add_right hnesting 2
        | _ => cases heither

/-! ### Reading -/

/-- Whether all items that have been read nest within some number of levels. -/
structure Reading.NestsWithin (n : Nat) (r : Reading) : Prop where
  items : ∀ g ∈ r.items, g.nesting ≤ n
  branches : ∀ opened ∈ r.stack, ∀ branch ∈ opened.branches, ∀ g ∈ branch, g.nesting ≤ n
  outer : ∀ opened ∈ r.stack, ∀ g ∈ opened.outer, g.nesting ≤ n

namespace Reading.NestsWithin

variable {r next : Reading} {c : Char} {rest t : Text} {m length skip : Nat}

theorem mono (h : r.NestsWithin n) (hm : n ≤ m) : r.NestsWithin m where
  items g hg := (h.items g hg).trans hm
  branches opened ho branch hb g hg := (h.branches opened ho branch hb g hg).trans hm
  outer opened ho g hg := (h.outer opened ho g hg).trans hm

theorem withItems (h : r.NestsWithin n) {items : List Glob} (hitems : ∀ g ∈ items, g.nesting ≤ n) :
    { r with items }.NestsWithin n := ⟨hitems, h.branches, h.outer⟩

theorem withPrevious (h : r.NestsWithin n) (previous : Option Char) :
    { r with previous }.NestsWithin n := ⟨h.items, h.branches, h.outer⟩

theorem cons (hn : 4 ≤ n) (h : r.NestsWithin n) (p : Piece) {items : List Glob}
    (hitems : ∀ g ∈ items, g ∈ r.items) : { r with items := .piece p :: items }.NestsWithin n := by
  refine h.withItems fun g hg => ?_
  rcases List.mem_cons.1 hg with rfl | hg
  · exact p.height_le.trans hn
  · exact h.items g (hitems g hg)

theorem push (hn : 4 ≤ n) (h : r.NestsWithin n) (p : Piece) : (r.push p).NestsWithin n :=
  h.cons hn p fun _ hg => hg

theorem pushDirs (hn : 4 ≤ n) (h : r.NestsWithin n) (atEnd : Bool) :
    (r.pushDirs atEnd).NestsWithin n := by
  unfold Reading.pushDirs
  split
  · exact h
  · exact h
  · exact h.cons hn _ fun _ hg => List.mem_of_mem_tail hg

theorem readStar (hn : 4 ≤ n) (h : r.NestsWithin n) (rest : Text) :
    (r.readStar rest).1.NestsWithin n := by
  have hplain := (h.push hn .star).push hn .star
  unfold Reading.readStar
  split
  · split
    · split
      · exact h.push hn .leadingDirs
      · exact h.push hn .leadingDirs
      · exact hplain
    · split
      · exact hplain
      · split
        · exact h.pushDirs hn true
        · exact h.pushDirs hn false
        · split
          · exact h.pushDirs hn true
          · exact hplain
  · exact h.push hn .star

theorem closeBraces (h : r.NestsWithin n) (hclose : r.closeBraces = .ok next) :
    next.NestsWithin (n + 3) := by
  unfold Reading.closeBraces at hclose
  split at hclose
  · cases hclose
  · rename_i opened stack hstack
    obtain rfl := Except.ok.inj hclose
    have hopened : opened ∈ r.stack := by simp [hstack]
    have hstack' : ∀ other ∈ stack, other ∈ r.stack := by
      intro other hother
      rw [hstack]
      exact List.mem_cons_of_mem _ hother
    have hm : n ≤ n + 3 := Nat.le_add_right n 3
    refine ⟨fun g hg => ?_, fun other ho branch hb g hg => ?_, fun other ho g hg => ?_⟩
    · rcases List.mem_cons.1 hg with rfl | hg
      · refine nesting_braces_le fun branch hbranch => ?_
        obtain ⟨items, hitems, rfl⟩ := List.mem_map.1 hbranch
        refine nesting_concat_le fun g hg => ?_
        rw [List.mem_reverse] at hg hitems
        rcases List.mem_cons.1 hitems with rfl | hitems
        · exact h.items g hg
        · exact h.branches opened hopened items hitems g hg
      · exact (h.outer opened hopened g hg).trans hm
    · exact (h.branches other (hstack' other ho) branch hb g hg).trans hm
    · exact (h.outer other (hstack' other ho) g hg).trans hm

theorem comma (hn : 4 ≤ n) (h : r.NestsWithin n) : r.comma.NestsWithin n := by
  unfold Reading.comma
  split
  · exact h.push hn _
  · rename_i opened stack hstack
    have hopened : opened ∈ r.stack := by simp [hstack]
    have hstack' : ∀ other ∈ stack, other ∈ r.stack := by
      intro other hother
      rw [hstack]
      exact List.mem_cons_of_mem _ hother
    refine ⟨by simp, fun other ho branch hb g hg => ?_, fun other ho g hg => ?_⟩
    · rcases List.mem_cons.1 ho with rfl | ho
      · rcases List.mem_cons.1 hb with rfl | hb
        · exact h.items g hg
        · exact h.branches opened hopened branch hb g hg
      · exact h.branches other (hstack' other ho) branch hb g hg
    · rcases List.mem_cons.1 ho with rfl | ho
      · exact h.outer opened hopened g hg
      · exact h.outer other (hstack' other ho) g hg

/-- Only a closing brace makes what has been read nest deeper. -/
theorem step (hn : 4 ≤ n) (h : r.NestsWithin n) (hstep : r.step c rest = .ok (next, length)) :
    next.NestsWithin (n + if c = '\x7d' then 3 else 0) := by
  have hm : n ≤ n + if c = '\x7d' then 3 else 0 := Nat.le_add_right _ _
  unfold Reading.step at hstep
  split at hstep
  · obtain ⟨rfl, -⟩ := Prod.mk.inj (Except.ok.inj hstep)
    exact (h.push hn .one).mono hm
  · have hnext : (r.readStar rest).1 = next := congrArg Prod.fst (Except.ok.inj hstep)
    rw [← hnext]
    exact (h.readStar hn rest).mono hm
  · cases hset : readSet rest with
    | error fault =>
        rw [hset] at hstep
        cases hstep
    | ok set =>
        rw [hset] at hstep
        obtain ⟨rfl, -⟩ := Prod.mk.inj (Except.ok.inj hstep)
        exact (h.push hn set.1).mono hm
  · obtain ⟨rfl, -⟩ := Prod.mk.inj (Except.ok.inj hstep)
    refine NestsWithin.mono
      ⟨by simp, fun opened ho branch hb g hg => ?_, fun opened ho g hg => ?_⟩ hm
    · rcases List.mem_cons.1 ho with rfl | ho
      · cases hb
      · exact h.branches opened ho branch hb g hg
    · rcases List.mem_cons.1 ho with rfl | ho
      · exact h.items g hg
      · exact h.outer opened ho g hg
  · cases hclose : r.closeBraces with
    | error fault =>
        rw [hclose] at hstep
        cases hstep
    | ok closed =>
        rw [hclose] at hstep
        obtain ⟨rfl, -⟩ := Prod.mk.inj (Except.ok.inj hstep)
        exact h.closeBraces hclose
  · obtain ⟨rfl, -⟩ := Prod.mk.inj (Except.ok.inj hstep)
    exact (h.comma hn).mono hm
  · split at hstep
    · cases hstep
    · obtain ⟨rfl, -⟩ := Prod.mk.inj (Except.ok.inj hstep)
      exact (h.push hn _).mono hm
  · obtain ⟨rfl, -⟩ := Prod.mk.inj (Except.ok.inj hstep)
    exact (h.push hn _).mono hm

theorem readAll (hn : 4 ≤ n) (h : r.NestsWithin n) {last : Reading}
    (hread : r.readAll skip t = .ok last) : last.NestsWithin (n + 3 * t.count '\x7d') := by
  induction t generalizing r skip n with
  | nil =>
      obtain rfl : r = last := by
        cases skip <;> exact Except.ok.inj hread
      exact h
  | cons c rest ih =>
      have hcount : 3 * (c :: rest).count '\x7d' =
          (if c = '\x7d' then 3 else 0) + 3 * rest.count '\x7d' := by
        rw [List.count_cons]
        by_cases hc : c = '\x7d'
        · rw [if_pos hc, if_pos (by simpa using hc)]
          omega
        · rw [if_neg hc, if_neg (by simpa using hc)]
          omega
      cases skip with
      | succ skip =>
          refine (ih hn (h.withPrevious (some c)) hread).mono ?_
          omega
      | zero =>
          rw [Reading.readAll] at hread
          cases hstep : r.step c rest with
          | error fault =>
              rw [hstep] at hread
              cases hread
          | ok next =>
              rw [hstep] at hread
              have hnext := h.step hn hstep
              have hlast :=
                ih (hn.trans (Nat.le_add_right _ _)) (hnext.withPrevious (some c)) hread
              rwa [Nat.add_assoc, ← hcount] at hlast

end Reading.NestsWithin

/-- **How deep a glob nests** is bounded by the number of its closing braces. -/
theorem height_le_of_parse {pattern : Text} {g : Glob} (h : parse pattern = .ok g) :
    g.height ≤ 3 * pattern.count '\x7d' + 5 := by
  obtain ⟨last, hread, hfinish⟩ := parse_eq_ok_iff.1 h
  have hempty : Reading.NestsWithin 4 {} := ⟨by simp, by simp, by simp⟩
  have hlast := (hempty.readAll (Nat.le_refl 4) hread).items
  unfold Reading.finish at hfinish
  split at hfinish
  · split at hfinish
    · obtain rfl := Except.ok.inj hfinish
      have hheight : height (.piece .everything) = 2 := rfl
      omega
    · obtain rfl := Except.ok.inj hfinish
      have hitems : ∀ g ∈ last.items.reverse, g.nesting ≤ _ :=
        fun g hg => hlast g (List.mem_reverse.1 hg)
      have hnesting := nesting_concat_le hitems
      rw [height]
      omega
  · cases hfinish

theorem fits_of_parse {pattern : Text} {g : Glob} (h : parse pattern = .ok g)
    (hbraces : pattern.count '\x7d' ≤ 81) : g.fits = true := by
  have hheight := height_le_of_parse h
  rw [fits, decide_eq_true_iff, Regex.maxHeight]
  omega

/-- A letter between so many pairs of braces. -/
def withinBraces : (depth : Nat) → Text
  | 0 => ['a']
  | depth + 1 => '\x7b' :: withinBraces depth ++ ['\x7d']

theorem compile_withinBraces : compile (withinBraces 250) = .error .panic := by decide +kernel

end Sweep.Glob

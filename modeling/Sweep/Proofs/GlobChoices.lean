import Sweep.Proofs.GlobReading

/-!
# Braces in a glob and their choices

Taking one branch of each group of braces, and of the groups within it, leaves a glob without
braces. A group of branches without stars is read as the alternatives that its choices spell out,
whatever stands around it, so its language is the union of theirs.
-/

namespace Sweep

open scoped Computability

namespace Glob

/-- Neither part of the syntax of sets, groups and escapes nor a comma. -/
def IsOrdinary (c : Char) : Prop :=
  c ≠ '[' ∧ c ≠ ']' ∧ c ≠ '\\' ∧ c ≠ '\x7b' ∧ c ≠ '\x7d' ∧ c ≠ ','

instance (c : Char) : Decidable (IsOrdinary c) :=
  inferInstanceAs (Decidable (_ ∧ _ ∧ _ ∧ _ ∧ _ ∧ _))

/-- Each front with each back behind it. -/
def appendEach (fronts backs : List Text) : List Text :=
  fronts.flatMap fun front => backs.map (front ++ ·)

/-- A group: its branches, which come with their choices, between braces. -/
def group (branches : List (Text × List Text)) : Text :=
  '\x7b' :: Text.join [','] (branches.map Prod.fst) ++ ['\x7d']

/-- A text in which the groups nest properly, and its choices: the texts with one branch in place of
each group, and of each group within the branch. No branch is empty or holds a star, and a comma
only separates branches. -/
inductive HasChoices : Text → List Text → Prop
  | nil : HasChoices [] [[]]
  | char {c : Char} {rest : Text} {choices : List Text} (hc : IsOrdinary c)
      (hrest : HasChoices rest choices) : HasChoices (c :: rest) (choices.map (c :: ·))
  | braces {branches : List (Text × List Text)} {rest : Text} {choices : List Text}
      (hne : branches ≠ []) (hplain : ∀ b ∈ branches, b.1 ≠ [] ∧ '*' ∉ b.1)
      (hbranches : ∀ b ∈ branches, HasChoices b.1 b.2) (hrest : HasChoices rest choices) :
      HasChoices (group branches ++ rest) (appendEach (branches.flatMap Prod.snd) choices)

/-! ### The choices of a text -/

section Choices

variable {t u front : Text} {choices fronts backs : List Text}
  {branches : List (Text × List Text)}

theorem mem_appendEach_iff :
    u ∈ appendEach fronts backs ↔ ∃ front ∈ fronts, ∃ back ∈ backs, front ++ back = u := by
  simp only [appendEach, List.mem_flatMap, List.mem_map]

/-- A choice keeps of a text what does not belong to the syntax of groups. -/
theorem HasChoices.ordinary (h : HasChoices t choices) :
    ∀ u ∈ choices, ∀ c ∈ u, IsOrdinary c ∧ c ∈ t := by
  induction h with
  | nil => simp
  | char hc hrest ih =>
    intro u hu d hd
    obtain ⟨v, hv, rfl⟩ := List.mem_map.1 hu
    rcases List.mem_cons.1 hd with rfl | hd
    · exact ⟨hc, List.mem_cons_self⟩
    · exact (ih v hv d hd).imp_right (List.mem_cons_of_mem _)
  | @braces branches _ _ _ _ _ _ ihBranches ih =>
    intro u hu c hc
    obtain ⟨front, hfront, back, hback, rfl⟩ := mem_appendEach_iff.1 hu
    rcases List.mem_append.1 hc with hc | hc
    · obtain ⟨b, hb, hfront⟩ := List.mem_flatMap.1 hfront
      obtain ⟨hordinary, hmem⟩ := ihBranches b hb front hfront c hc
      have hjoin : c ∈ Text.join [','] (branches.map Prod.fst) :=
        Text.mem_join_of_mem (List.mem_map_of_mem hb) hmem
      exact ⟨hordinary, List.mem_append_left _ (by simp [group, hjoin])⟩
    · obtain ⟨hordinary, hmem⟩ := ih back hback c hc
      exact ⟨hordinary, List.mem_append_right _ hmem⟩

theorem HasChoices.ne_nil (h : HasChoices t choices) (ht : t ≠ []) : ∀ u ∈ choices, u ≠ [] := by
  induction h with
  | nil => exact absurd rfl ht
  | char hc hrest ih =>
    intro u hu
    obtain ⟨v, hv, rfl⟩ := List.mem_map.1 hu
    exact List.cons_ne_nil _ v
  | braces hne hplain hbranches hrest ihBranches ih =>
    intro u hu
    obtain ⟨front, hfront, back, hback, rfl⟩ := mem_appendEach_iff.1 hu
    obtain ⟨b, hb, hfront⟩ := List.mem_flatMap.1 hfront
    exact List.append_ne_nil_of_left_ne_nil (ihBranches b hb (hplain b hb).1 front hfront) back

/-- The choices of the branches of a group are as plain as the branches. -/
theorem plain_of_mem_branches (hplain : ∀ b ∈ branches, b.1 ≠ [] ∧ '*' ∉ b.1)
    (hbranches : ∀ b ∈ branches, HasChoices b.1 b.2) (hfront : front ∈ branches.flatMap Prod.snd) :
    front ≠ [] ∧ ∀ c ∈ front, IsOrdinary c ∧ c ≠ '*' := by
  obtain ⟨b, hb, hfront⟩ := List.mem_flatMap.1 hfront
  obtain ⟨hne, hstar⟩ := hplain b hb
  refine ⟨(hbranches b hb).ne_nil hne front hfront, fun c hc => ?_⟩
  obtain ⟨hordinary, hmem⟩ := (hbranches b hb).ordinary front hfront c hc
  exact ⟨hordinary, fun heq => hstar (heq ▸ hmem)⟩

end Choices

/-! ### The language of alternatives -/

section Alternatives

variable {globs : List Glob}

theorem isBlank_concat (globs : List Glob) : (concat globs).isBlank = globs.all isBlank := by
  induction globs with
  | nil => rfl
  | cons g globs ih =>
    cases globs with
    | nil => simp [concat]
    | cons h globs =>
      rw [List.all_cons, ← ih]
      rfl

theorem isBlank_choice (globs : List Glob) : (choice globs).isBlank = globs.all isBlank := by
  induction globs with
  | nil => rfl
  | cons g globs ih =>
    cases globs with
    | nil => simp [choice]
    | cons h globs =>
      rw [List.all_cons, ← ih]
      rfl

theorem language_choice (hne : globs ≠ []) :
    (choice globs).language = (globs.map language).sum := by
  induction globs with
  | nil => exact absurd rfl hne
  | cons g globs ih =>
    cases globs with
    | nil => simp [choice]
    | cons h globs =>
      rw [List.map_cons, List.sum_cons, ← ih (List.cons_ne_nil h globs)]
      rfl

theorem alternate_eq_choice (h : ∀ g ∈ globs, g.isBlank = false) :
    alternate globs = choice globs := by
  rw [alternate, List.filter_eq_self.2 fun g hg => by rw [h g hg]; rfl]

/-- What the choices stand for between them. -/
def choicesLanguage (choices : List Text) : Language UInt8 := (choices.map componentLanguage).sum

theorem choicesLanguage_cons (u : Text) (choices : List Text) :
    choicesLanguage (u :: choices) = componentLanguage u + choicesLanguage choices := by
  rw [choicesLanguage, List.map_cons, List.sum_cons]
  rfl

theorem choicesLanguage_append (choices others : List Text) :
    choicesLanguage (choices ++ others) = choicesLanguage choices + choicesLanguage others := by
  rw [choicesLanguage, List.map_append, List.sum_append]
  rfl

theorem componentLanguage_append (front back : Text) :
    componentLanguage (front ++ back) = componentLanguage front * componentLanguage back := by
  rw [componentLanguage, List.map_append, List.prod_append]
  rfl

theorem choicesLanguage_map_append (front : Text) (choices : List Text) :
    choicesLanguage (choices.map (front ++ ·)) =
      componentLanguage front * choicesLanguage choices := by
  induction choices with
  | nil => exact (mul_zero _).symm
  | cons u choices ih =>
    rw [List.map_cons, choicesLanguage_cons, choicesLanguage_cons, ih, componentLanguage_append,
      mul_add]

theorem choicesLanguage_appendEach (fronts backs : List Text) :
    choicesLanguage (appendEach fronts backs) =
      choicesLanguage fronts * choicesLanguage backs := by
  induction fronts with
  | nil => exact (zero_mul _).symm
  | cons front fronts ih =>
    rw [appendEach, List.flatMap_cons, choicesLanguage_append, ← appendEach, ih,
      choicesLanguage_map_append, choicesLanguage_cons, add_mul]

end Alternatives

/-! ### Reading within braces -/

section Reading

open Reading

variable {t rest : Text} {choices : List Text} {outer : List Glob} {stack : List OpenBraces}
  {previous : Option Char}

/-- An ordinary character that is no star stands for its own piece, within braces and outside. -/
theorem readAll_ordinary {c : Char} (hc : IsOrdinary c) (hstar : c ≠ '*') (rest : Text) :
    readAll ⟨outer, stack, previous⟩ 0 (c :: rest) =
      readAll ⟨.piece (wildcard c) :: outer, stack, some c⟩ 0 rest := by
  obtain ⟨hset, -, hescape, hopen, hclose, hcomma⟩ := hc
  have hstep : step ⟨outer, stack, previous⟩ c rest =
      .ok (⟨.piece (wildcard c) :: outer, stack, previous⟩, 0) := by
    unfold step
    split
    · rfl
    · exact absurd rfl hstar
    · exact absurd rfl hset
    · exact absurd rfl hopen
    · exact absurd rfl hclose
    · exact absurd rfl hcomma
    · exact absurd rfl hescape
    · rename_i hone _ _ _ _ _ _
      rw [wildcard_of_ne hone hstar]
      rfl
  rw [readAll, hstep]

/-- What is read of a text, whatever stands around it: its items, the last first. They stand for
its choices. -/
structure ReadsItems (t : Text) (choices : List Text) (items : List Glob) : Prop where
  readAll_append : ∀ outer stack previous tail, ∃ last,
    readAll ⟨outer, stack, previous⟩ 0 (t ++ tail) = readAll ⟨items ++ outer, stack, last⟩ 0 tail
  language : itemsLanguage items = choicesLanguage choices
  isBlank : t ≠ [] → (concat items.reverse).isBlank = false

section Branches

variable {branches : List (Text × List Text)} {items : Text × List Text → List Glob}

/-- Behind the first branch of a group the others follow, each behind a comma. -/
theorem readAll_branches (hbranches : ∀ b ∈ branches, ReadsItems b.1 b.2 (items b))
    (current : List Glob) (before : List (List Glob)) (previous : Option Char) (rest : Text) :
    readAll ⟨current, ⟨before, outer⟩ :: stack, previous⟩ 0
        (branches.flatMap (',' :: ·.1) ++ '\x7d' :: rest) =
      readAll ⟨.braces (alternate (((current :: before).reverse ++ branches.map items).map
        fun items => concat items.reverse)) :: outer, stack, some '\x7d'⟩ 0 rest := by
  induction branches generalizing current before previous with
  | nil =>
    rw [List.map_nil, List.append_nil]
    rfl
  | cons b others ih =>
    obtain ⟨last, hread⟩ := (hbranches b List.mem_cons_self).readAll_append []
      (⟨current :: before, outer⟩ :: stack) (some ',')
      (others.flatMap (',' :: ·.1) ++ '\x7d' :: rest)
    rw [List.append_nil] at hread
    calc readAll ⟨current, ⟨before, outer⟩ :: stack, previous⟩ 0
          ((b :: others).flatMap (',' :: ·.1) ++ '\x7d' :: rest)
      _ = readAll ⟨[], ⟨current :: before, outer⟩ :: stack, some ','⟩ 0
            (b.1 ++ (others.flatMap (',' :: ·.1) ++ '\x7d' :: rest)) := by
          rw [List.flatMap_cons, List.append_assoc]
          rfl
      _ = _ := by
          rw [hread, ih (fun c hc => hbranches c (List.mem_cons_of_mem b hc))]
          simp

/-- A group is read as the alternatives of its branches. -/
theorem readAll_braces (hne : branches ≠ [])
    (hbranches : ∀ b ∈ branches, ReadsItems b.1 b.2 (items b)) (rest : Text) :
    readAll ⟨outer, stack, previous⟩ 0 (group branches ++ rest) =
      readAll ⟨.braces (alternate (branches.map fun b => concat (items b).reverse)) :: outer,
        stack, some '\x7d'⟩ 0 rest := by
  obtain ⟨first, others, rfl⟩ := List.exists_cons_of_ne_nil hne
  obtain ⟨last, hread⟩ := (hbranches first List.mem_cons_self).readAll_append []
    (⟨[], outer⟩ :: stack) (some '\x7b') (others.flatMap (',' :: ·.1) ++ '\x7d' :: rest)
  rw [List.append_nil] at hread
  calc readAll ⟨outer, stack, previous⟩ 0 (group (first :: others) ++ rest)
    _ = readAll ⟨[], ⟨[], outer⟩ :: stack, some '\x7b'⟩ 0
          (first.1 ++ (others.flatMap (',' :: ·.1) ++ '\x7d' :: rest)) := by
        rw [group, List.map_cons, Text.join_cons, List.flatMap_map]
        simp only [List.cons_append, List.append_assoc, List.nil_append]
        rfl
    _ = _ := by
        rw [hread, readAll_branches fun b hb => hbranches b (List.mem_cons_of_mem first hb)]
        simp [Function.comp_def]

theorem sum_language_branches (hbranches : ∀ b ∈ branches, ReadsItems b.1 b.2 (items b)) :
    ((branches.map fun b => concat (items b).reverse).map language).sum =
      choicesLanguage (branches.flatMap Prod.snd) := by
  induction branches with
  | nil => rfl
  | cons b others ih =>
    have hb := (hbranches b List.mem_cons_self).language
    rw [List.map_cons, List.map_cons, List.sum_cons,
      ih fun c hc => hbranches c (List.mem_cons_of_mem b hc), language_concat, List.flatMap_cons,
      choicesLanguage_append, ← hb]
    rfl

/-- No alternative is lost, since no branch is empty. -/
theorem alternate_branches (hne : branches ≠ []) (hplain : ∀ b ∈ branches, b.1 ≠ [])
    (hbranches : ∀ b ∈ branches, ReadsItems b.1 b.2 (items b)) :
    (alternate (branches.map fun b => concat (items b).reverse)).isBlank = false ∧
      (alternate (branches.map fun b => concat (items b).reverse)).language =
        choicesLanguage (branches.flatMap Prod.snd) := by
  have hblank : ∀ g ∈ branches.map (fun b => concat (items b).reverse), g.isBlank = false := by
    intro g hg
    obtain ⟨b, hb, rfl⟩ := List.mem_map.1 hg
    exact (hbranches b hb).isBlank (hplain b hb)
  have hglobs : branches.map (fun b => concat (items b).reverse) ≠ [] := by simpa using hne
  rw [alternate_eq_choice hblank, language_choice hglobs]
  refine ⟨?_, sum_language_branches hbranches⟩
  obtain ⟨g, others, heq⟩ := List.exists_cons_of_ne_nil hglobs
  rw [heq] at hblank ⊢
  rw [isBlank_choice, List.all_cons, hblank g List.mem_cons_self, Bool.false_and]

/-- A group is read as one item, which stands for the choices of its branches. -/
theorem exists_readAll_group (hne : branches ≠ []) (hplain : ∀ b ∈ branches, b.1 ≠ [])
    (hbranches : ∀ b ∈ branches, ∃ items, ReadsItems b.1 b.2 items) :
    ∃ g, g.isBlank = false ∧ g.language = choicesLanguage (branches.flatMap Prod.snd) ∧
      ∀ outer stack previous rest, readAll ⟨outer, stack, previous⟩ 0 (group branches ++ rest) =
        readAll ⟨.braces g :: outer, stack, some '\x7d'⟩ 0 rest := by
  choose! items hitems using hbranches
  obtain ⟨hblank, hlanguage⟩ := alternate_branches hne hplain hitems
  exact ⟨_, hblank, hlanguage, fun _ _ _ rest => readAll_braces hne hitems rest⟩

end Branches

/-- What stands in front of some items that are read. -/
theorem ReadsItems.cons {front : Text} {fronts : List Text} {g : Glob} {items : List Glob}
    (hitems : ReadsItems t choices items) (hblank : g.isBlank = false)
    (hlanguage : g.language = choicesLanguage fronts)
    (hread : ∀ outer stack previous rest, ∃ last,
      readAll ⟨outer, stack, previous⟩ 0 (front ++ rest) =
        readAll ⟨g :: outer, stack, last⟩ 0 rest) :
    ReadsItems (front ++ t) (appendEach fronts choices) (items ++ [g]) where
  readAll_append := by
    intro outer stack previous tail
    obtain ⟨between, hfront⟩ := hread outer stack previous (t ++ tail)
    obtain ⟨last, hback⟩ := hitems.readAll_append (g :: outer) stack between tail
    refine ⟨last, ?_⟩
    rw [List.append_assoc, hfront, hback, List.append_assoc, List.singleton_append]
  language := by
    calc itemsLanguage (items ++ [g]) = g.language * itemsLanguage items := by
          simp [itemsLanguage]
      _ = _ := by rw [hlanguage, hitems.language, choicesLanguage_appendEach]
  isBlank := by
    intro _
    rw [List.reverse_append, isBlank_concat, List.reverse_singleton, List.singleton_append,
      List.all_cons, hblank, Bool.false_and]

/-- A text without stars is read into items that stand for its choices. -/
theorem HasChoices.exists_readsItems (h : HasChoices t choices) (hstar : '*' ∉ t) :
    ∃ items, ReadsItems t choices items := by
  induction h with
  | nil => exact ⟨[], fun _ _ previous _ => ⟨previous, rfl⟩, (add_zero _).symm, absurd rfl⟩
  | @char c rest choices hc hrest ih =>
    obtain ⟨items, hitems⟩ := ih (List.not_mem_of_not_mem_cons hstar)
    have hread : ∀ outer stack previous rest, ∃ last,
        readAll ⟨outer, stack, previous⟩ 0 ([c] ++ rest) =
          readAll ⟨.piece (wildcard c) :: outer, stack, last⟩ 0 rest :=
      fun _ _ _ rest => ⟨some c, readAll_ordinary hc (List.ne_of_not_mem_cons hstar).symm rest⟩
    have hlanguage : (piece (wildcard c)).language = choicesLanguage [[c]] := by
      rw [choicesLanguage_cons, componentLanguage_cons]
      exact ((add_zero _).trans (mul_one _)).symm
    have hfront := hitems.cons rfl hlanguage hread
    rw [appendEach, List.flatMap_singleton] at hfront
    exact ⟨_, hfront⟩
  | @braces branches rest choices hne hplain hbranches hrest ihBranches ih =>
    obtain ⟨others, hothers⟩ := ih fun hmem => hstar (List.mem_append_right _ hmem)
    obtain ⟨g, hblank, hlanguage, hread⟩ := exists_readAll_group hne
      (fun b hb => (hplain b hb).1) fun b hb => ihBranches b hb (hplain b hb).2
    exact ⟨_, hothers.cons (g := .braces g) hblank hlanguage fun outer stack previous rest =>
      ⟨_, hread outer stack previous rest⟩⟩

end Reading

end Glob

end Sweep

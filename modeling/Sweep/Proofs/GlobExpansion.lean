import Sweep.Proofs.GlobChoices

/-!
# Braces are expansion

A glob with braces matches what its choices match between them. Up to the first group the glob and
its choices are read alike. Behind a group something other than directories has been read, and from
there on what is read of a text only puts its own language behind that of the items read before.
-/

namespace Sweep

open scoped Computability

namespace Glob

/-- Two stars side by side make up a component: they begin the pattern or stand behind a slash, and
they end it or stand in front of one. -/
def StarsAreWhole (pattern : Text) : Prop :=
  ∀ front back, front ++ twoStars ++ back = pattern →
    (front = [] ∨ front.getLast? = some '/') ∧ (back = [] ∨ back.head? = some '/')

instance (pattern : Text) : Decidable (StarsAreWhole pattern) :=
  decidable_of_iff (∀ i < pattern.length + 1, twoStars <+: pattern.drop i →
      (pattern.take i = [] ∨ (pattern.take i).getLast? = some '/') ∧
        (pattern.drop (i + 2) = [] ∨ (pattern.drop (i + 2)).head? = some '/')) <| by
    constructor
    · rintro h front back rfl
      have hdrop : (front ++ twoStars ++ back).drop front.length = twoStars ++ back := by simp
      have hlength : front.length < (front ++ twoStars ++ back).length + 1 := by
        rw [List.length_append, List.length_append]
        omega
      have hfound := h front.length hlength (hdrop ▸ List.prefix_append twoStars back)
      rw [← List.drop_drop, hdrop, List.append_assoc, List.take_left] at hfound
      exact hfound
    · rintro h i - ⟨back, hback⟩
      have hwhole : pattern.take i ++ twoStars ++ back = pattern := by
        rw [List.append_assoc, hback, List.take_append_drop]
      have hfound := h _ back hwhole
      rwa [← List.drop_drop, ← hback]

/-- The choices of a text with two stars for whole components only. The flag says whether a
component begins in front of the text. -/
inductive ChoicesFrom : (fresh : Bool) → Text → List Text → Prop
  | nil {fresh : Bool} : ChoicesFrom fresh [] [[]]
  | lastDirs : ChoicesFrom true twoStars [twoStars]
  | dirs {rest : Text} {choices : List Text} (hrest : ChoicesFrom true rest choices) :
      ChoicesFrom true (twoStars ++ '/' :: rest) (choices.map (twoStars ++ '/' :: ·))
  | char {fresh : Bool} {c : Char} {rest : Text} {choices : List Text} (hc : IsOrdinary c)
      (hstars : ¬ (c = '*' ∧ rest.head? = some '*')) (hrest : ChoicesFrom (c == '/') rest choices) :
      ChoicesFrom fresh (c :: rest) (choices.map (c :: ·))
  | braces {fresh : Bool} {branches : List (Text × List Text)} {rest : Text}
      {choices : List Text} (hne : branches ≠ []) (hplain : ∀ b ∈ branches, b.1 ≠ [] ∧ '*' ∉ b.1)
      (hbranches : ∀ b ∈ branches, HasChoices b.1 b.2) (hrest : ChoicesFrom false rest choices) :
      ChoicesFrom fresh (group branches ++ rest)
        (appendEach (branches.flatMap Prod.snd) choices)

section ChoicesFrom

variable {t u rest front : Text} {c : Char} {choices : List Text} {fresh : Bool}

theorem HasChoices.of_cons (h : HasChoices (c :: rest) choices) (hc : c ≠ '\x7b') :
    IsOrdinary c ∧ ∃ others, HasChoices rest others ∧ choices = others.map (c :: ·) := by
  generalize htext : c :: rest = text at h
  cases h with
  | nil => cases htext
  | char hordinary hrest =>
    obtain ⟨rfl, rfl⟩ := List.cons.inj htext
    exact ⟨hordinary, _, hrest, rfl⟩
  | braces => exact absurd (List.cons.inj htext).1 hc

theorem HasChoices.of_twoStars (h : HasChoices (twoStars ++ rest) choices) :
    ∃ others, HasChoices rest others ∧ choices = others.map (twoStars ++ ·) := by
  obtain ⟨-, first, hfirst, rfl⟩ := h.of_cons (by decide)
  obtain ⟨-, others, hothers, rfl⟩ := hfirst.of_cons (by decide)
  exact ⟨others, hothers, by simp [twoStars]⟩

/-- Where two stars stand, a component begins, and it ends behind them. -/
theorem HasChoices.choicesFrom (h : HasChoices t choices) (hstars : StarsAreWhole (front ++ t))
    (hfresh : front = [] ∨ front.getLast? = some '/' → fresh = true) :
    ChoicesFrom fresh t choices := by
  -- On the length, because two stars and a slash are taken at once.
  induction hlength : t.length using Nat.strong_induction_on
    generalizing t choices front fresh with
  | _ length ih =>
    subst hlength
    have hbehind (passed : Text) {rest : Text} {others : List Text} (htext : passed ++ rest = t)
        (hpassed : passed ≠ []) (hrest : HasChoices rest others) {next : Bool}
        (hnext : passed.getLast? = some '/' → next = true) : ChoicesFrom next rest others := by
      subst htext
      rw [← List.append_assoc] at hstars
      refine ih rest.length ?_ hrest hstars ?_ rfl
      · rw [List.length_append]
        exact Nat.lt_add_of_pos_left (List.length_pos_of_ne_nil hpassed)
      · rw [List.getLast?_append_of_ne_nil _ hpassed]
        exact fun h => h.elim (fun hnil => absurd (List.append_eq_nil_iff.1 hnil).2 hpassed) hnext
    by_cases htwo : ∃ rest, t = twoStars ++ rest
    · obtain ⟨rest, rfl⟩ := htwo
      obtain ⟨hbegins, hends⟩ := hstars front rest (List.append_assoc _ _ _)
      obtain rfl := hfresh hbegins
      obtain ⟨others, hothers, rfl⟩ := h.of_twoStars
      rcases hends with rfl | hends
      · cases hothers
        exact .lastDirs
      · obtain ⟨tail, rfl⟩ := List.head?_eq_some_iff.1 hends
        obtain ⟨-, last, hlast, rfl⟩ := hothers.of_cons (by decide)
        rw [List.map_map]
        have hnext : ChoicesFrom true tail last :=
          hbehind (twoStars ++ ['/']) rfl (List.cons_ne_nil _ _) hlast fun _ => rfl
        exact .dirs hnext
    · cases h with
      | nil => exact .nil
      | @char c rest choices hc hrest =>
        refine .char hc ?_ (hbehind [c] List.singleton_append (List.cons_ne_nil c []) hrest ?_)
        · rintro ⟨rfl, hhead⟩
          obtain ⟨tail, rfl⟩ := List.head?_eq_some_iff.1 hhead
          exact htwo ⟨tail, rfl⟩
        · exact fun hlast => beq_iff_eq.2 (Option.some.inj hlast)
      | @braces branches rest choices hne hplain hbranches hrest =>
        refine .braces hne hplain hbranches
          (hbehind (group branches) rfl (List.cons_ne_nil _ _) hrest ?_)
        rw [group, List.getLast?_concat]
        exact fun hlast => absurd (Option.some.inj hlast) (by decide)

theorem ChoicesFrom.head?_eq (h : ChoicesFrom fresh t choices) :
    ∀ u ∈ choices, u.head? = some '*' → t.head? = some '*' := by
  cases h with
  | nil =>
    intro u hu
    rw [List.mem_singleton.1 hu]
    exact id
  | lastDirs => exact fun u _ _ => rfl
  | dirs => exact fun u _ _ => rfl
  | char =>
    intro u hu
    obtain ⟨v, -, rfl⟩ := List.mem_map.1 hu
    exact id
  | braces hne hplain hbranches hrest =>
    intro u hu hhead
    obtain ⟨front, hfront, back, -, rfl⟩ := mem_appendEach_iff.1 hu
    obtain ⟨hne, hplain⟩ := plain_of_mem_branches hplain hbranches hfront
    rw [List.head?_append_of_ne_nil _ hne] at hhead
    exact absurd rfl (hplain '*' (List.mem_of_mem_head? hhead)).2

end ChoicesFrom

/-! ### Reading to the end -/

/-- The text is read to its end, and what has been read then is a glob with the language. -/
def Reading.ReadsTo (r : Reading) (t : Text) (l : Language UInt8) : Prop :=
  ∃ last g, r.readAll 0 t = .ok last ∧ last.finish = .ok g ∧ g.language = l

/-- A component may begin behind what has been read. -/
structure BeginsComponent (items : List Glob) (previous : Option Char) : Prop where
  endsInSlash : EndsInSlash items
  previous_eq : items ≠ [] → previous = some '/'

/-- Reading the text puts a language behind that of the items read before, unless these are
directories alone, which are read in another way if nothing follows. -/
def Adds (fresh : Bool) (t : Text) (l : Language UInt8) : Prop :=
  ∀ items previous, IsSettled items → (fresh = true → BeginsComponent items previous) →
    Reading.ReadsTo ⟨items, [], previous⟩ t (itemsLanguage items * l)

section Reading

open Reading

variable {r s : Reading} {t u rest : Text} {c : Char} {l k : Language UInt8} {items : List Glob}
  {choices : List Text} {previous : Option Char} {fresh : Bool}

theorem Reading.ReadsTo.of_readAll_eq (h : s.ReadsTo u l) (heq : r.readAll 0 t = s.readAll 0 u) :
    r.ReadsTo t l := by
  obtain ⟨last, g, hread, hfinish, hlanguage⟩ := h
  exact ⟨last, g, heq.trans hread, hfinish, hlanguage⟩

theorem Reading.ReadsTo.unique (h : r.ReadsTo t l) (h' : r.ReadsTo t k) : l = k := by
  obtain ⟨last, g, hread, hfinish, rfl⟩ := h
  obtain ⟨last', g', hread', hfinish', rfl⟩ := h'
  obtain rfl := Except.ok.inj (hread.symm.trans hread')
  rw [Except.ok.inj (hfinish.symm.trans hfinish')]

theorem Reading.ReadsTo.exists_and_mem_iff (h : r.ReadsTo t l) {bytes : Bytes} :
    (∃ k, r.ReadsTo t k ∧ bytes ∈ k) ↔ bytes ∈ l := by
  constructor
  · rintro ⟨k, hk, hmem⟩
    rwa [h.unique hk]
  · exact fun hmem => ⟨l, h, hmem⟩

theorem IsOrdinary.ungrouped (hc : IsOrdinary c) :
    c ≠ '[' ∧ c ≠ '\x7b' ∧ c ≠ '\x7d' ∧ c ≠ '\\' :=
  ⟨hc.1, hc.2.2.2.1, hc.2.2.2.2.1, hc.2.2.1⟩

theorem isSettled_pushAll (ht : t ≠ []) (items : List Glob) : IsSettled (pushAll items t) := by
  refine ⟨?_, pushAll_ne ht items⟩
  obtain ⟨front, c, rfl⟩ := (List.eq_nil_or_concat t).resolve_left ht
  rw [List.concat_eq_append, pushAll, List.foldl_concat]
  exact List.cons_ne_nil _ _

theorem beginsComponent_char (hc : (c == '/') = true) (items : List Glob) :
    BeginsComponent (.piece (wildcard c) :: items) (some c) := by
  obtain rfl := beq_iff_eq.1 hc
  exact ⟨.slash items, fun _ => rfl⟩

theorem readAll_plain (ht : ∀ c ∈ t, IsOrdinary c ∧ c ≠ '*') (items : List Glob)
    (previous : Option Char) (rest : Text) :
    ∃ last, readAll ⟨items, [], previous⟩ 0 (t ++ rest) =
      readAll ⟨pushAll items t, [], last⟩ 0 rest := by
  induction t generalizing items previous with
  | nil => exact ⟨previous, rfl⟩
  | cons c t ih =>
    obtain ⟨hc, hstar⟩ := ht c List.mem_cons_self
    rw [List.cons_append, readAll_ordinary hc hstar]
    exact ih (fun d hd => ht d (List.mem_cons_of_mem c hd)) _ _

/-! ### What a text adds to the items before it -/

theorem adds_nil : Adds fresh [] 1 := by
  intro items previous hsettled _
  obtain ⟨g, hfinish, hlanguage⟩ := finish_of_ne hsettled.2 previous
  exact ⟨_, g, rfl, hfinish, hlanguage.trans (mul_one _).symm⟩

theorem adds_twoStars : Adds true twoStars ⊤ := by
  intro items previous _ hbegins
  obtain ⟨hends, hprevious⟩ := hbegins rfl
  exact readAll_twoStars_nil hends hprevious

theorem Adds.dirs (h : Adds true rest l) : Adds true (twoStars ++ '/' :: rest) (dirs * l) := by
  intro items previous hsettled hbegins
  obtain ⟨hends, hprevious⟩ := hbegins rfl
  obtain ⟨next, hnext, hlanguage, hkeeps, hread⟩ := readAll_twoStars_slash hends hprevious
  rw [← mul_assoc, ← hlanguage]
  exact (h next _ (hkeeps hsettled) fun _ => ⟨hnext, fun _ => rfl⟩).of_readAll_eq (hread rest)

theorem Adds.char (hc : IsOrdinary c) (hstars : ¬ (c = '*' ∧ rest.head? = some '*'))
    (h : Adds (c == '/') rest l) : Adds fresh (c :: rest) ((wildcard c).language * l) := by
  intro items previous _ _
  have hnext := h (pushAll items [c]) (some c) (isSettled_pushAll (List.cons_ne_nil c []) items)
    fun hslash => beginsComponent_char hslash items
  rw [pushAll, List.foldl_cons, List.foldl_nil, itemsLanguage_cons, mul_assoc] at hnext
  exact hnext.of_readAll_eq (readAll_char hc.ungrouped hstars)

theorem Adds.plain (h : Adds false rest l) (hne : t ≠ [])
    (ht : ∀ c ∈ t, IsOrdinary c ∧ c ≠ '*') (items : List Glob) (previous : Option Char) :
    ReadsTo ⟨items, [], previous⟩ (t ++ rest) (itemsLanguage items * componentLanguage t * l) := by
  obtain ⟨last, hread⟩ := readAll_plain ht items previous rest
  have hrest := h (pushAll items t) last (isSettled_pushAll hne items) nofun
  rw [itemsLanguage_pushAll] at hrest
  exact hrest.of_readAll_eq hread

/-- Each choice puts a language behind that of the items before it. What is behind a group needs it,
as the items there are not those in front of a choice. -/
theorem ChoicesFrom.exists_adds (h : ChoicesFrom fresh t choices) :
    ∀ u ∈ choices, ∃ l, Adds fresh u l := by
  induction h with
  | nil =>
    intro u hu
    obtain rfl := List.mem_singleton.1 hu
    exact ⟨_, adds_nil⟩
  | lastDirs =>
    intro u hu
    obtain rfl := List.mem_singleton.1 hu
    exact ⟨_, adds_twoStars⟩
  | dirs hrest ih =>
    intro u hu
    obtain ⟨v, hv, rfl⟩ := List.mem_map.1 hu
    obtain ⟨l, hl⟩ := ih v hv
    exact ⟨_, hl.dirs⟩
  | char hc hstars hrest ih =>
    intro u hu
    obtain ⟨v, hv, rfl⟩ := List.mem_map.1 hu
    obtain ⟨l, hl⟩ := ih v hv
    exact ⟨_, hl.char hc fun h => hstars ⟨h.1, hrest.head?_eq v hv h.2⟩⟩
  | braces hne hplain hbranches hrest ih =>
    intro u hu
    obtain ⟨front, hfront, back, hback, rfl⟩ := mem_appendEach_iff.1 hu
    obtain ⟨hne, hplain⟩ := plain_of_mem_branches hplain hbranches hfront
    obtain ⟨l, hl⟩ := ih back hback
    refine ⟨componentLanguage front * l, fun items previous _ _ => ?_⟩
    rw [← mul_assoc]
    exact hl.plain hne hplain items previous

/-! ### A text and its choices -/

/-- What is read of the text stands for what is read of its choices. -/
structure ReadsUnion (r : Reading) (t : Text) (choices : List Text) : Prop where
  each : ∀ u ∈ choices, ∃ l, r.ReadsTo u l
  union : ∃ l, r.ReadsTo t l ∧ ∀ bytes, bytes ∈ l ↔ ∃ u ∈ choices, ∃ k, r.ReadsTo u k ∧ bytes ∈ k

theorem ReadsUnion.self (h : r.ReadsTo t l) : ReadsUnion r t [t] where
  each := List.forall_mem_singleton.2 ⟨l, h⟩
  union := by
    refine ⟨l, h, fun bytes => ?_⟩
    rw [← h.exists_and_mem_iff]
    simp

/-- The text and its choices begin alike. -/
theorem ReadsUnion.map {f : Text → Text} (h : ReadsUnion s rest choices)
    (ht : r.readAll 0 t = s.readAll 0 rest)
    (hchoices : ∀ u ∈ choices, r.readAll 0 (f u) = s.readAll 0 u) :
    ReadsUnion r t (choices.map f) where
  each := by
    intro u hu
    obtain ⟨v, hv, rfl⟩ := List.mem_map.1 hu
    obtain ⟨l, hl⟩ := h.each v hv
    exact ⟨l, hl.of_readAll_eq (hchoices v hv)⟩
  union := by
    obtain ⟨l, hl, hunion⟩ := h.union
    refine ⟨l, hl.of_readAll_eq ht, fun bytes => (hunion bytes).trans ?_⟩
    constructor
    · rintro ⟨v, hv, k, hk, hmem⟩
      exact ⟨f v, List.mem_map_of_mem hv, k, hk.of_readAll_eq (hchoices v hv), hmem⟩
    · rintro ⟨u, hu, k, hk, hmem⟩
      obtain ⟨v, hv, rfl⟩ := List.mem_map.1 hu
      exact ⟨v, hv, k, hk.of_readAll_eq (hchoices v hv).symm, hmem⟩

theorem mem_mul_choicesLanguage_mul_iff {fronts : List Text} {bytes : Bytes} :
    bytes ∈ k * choicesLanguage fronts * l ↔
      ∃ front ∈ fronts, bytes ∈ k * componentLanguage front * l := by
  induction fronts with
  | nil =>
    have hzero : k * choicesLanguage [] * l = 0 := by
      rw [choicesLanguage, List.map_nil, List.sum_nil, mul_zero, zero_mul]
    simp [hzero]
  | cons front fronts ih =>
    rw [choicesLanguage_cons, mul_add, add_mul, Language.mem_add, ih]
    simp

/-- Behind a group, each choice goes on behind each choice of the branches. -/
theorem ReadsUnion.braces {fronts : List Text} {add : Text → Language UInt8}
    (h : ReadsUnion s rest choices) (ht : r.readAll 0 t = s.readAll 0 rest)
    (hbacks : ∀ back ∈ choices, s.ReadsTo back (k * choicesLanguage fronts * add back))
    (hchoices : ∀ front ∈ fronts, ∀ back ∈ choices,
      r.ReadsTo (front ++ back) (k * componentLanguage front * add back)) :
    ReadsUnion r t (appendEach fronts choices) where
  each := by
    intro u hu
    obtain ⟨front, hfront, back, hback, rfl⟩ := mem_appendEach_iff.1 hu
    exact ⟨_, hchoices front hfront back hback⟩
  union := by
    obtain ⟨l, hl, hunion⟩ := h.union
    refine ⟨l, hl.of_readAll_eq ht, fun bytes => (hunion bytes).trans ?_⟩
    constructor
    · rintro ⟨back, hback, m, hm, hmem⟩
      rw [hm.unique (hbacks back hback), mem_mul_choicesLanguage_mul_iff] at hmem
      obtain ⟨front, hfront, hmem⟩ := hmem
      exact ⟨front ++ back, mem_appendEach_iff.2 ⟨front, hfront, back, hback, rfl⟩, _,
        hchoices front hfront back hback, hmem⟩
    · rintro ⟨u, hu, m, hm, hmem⟩
      obtain ⟨front, hfront, back, hback, rfl⟩ := mem_appendEach_iff.1 hu
      rw [hm.unique (hchoices front hfront back hback)] at hmem
      exact ⟨back, hback, _, hbacks back hback,
        mem_mul_choicesLanguage_mul_iff.2 ⟨front, hfront, hmem⟩⟩

theorem exists_finish (items : List Glob) (previous : Option Char) :
    ∃ g, finish ⟨items, [], previous⟩ = .ok g := by
  by_cases hitems : items = [.piece .leadingDirs]
  · subst hitems
    exact ⟨_, rfl⟩
  · obtain ⟨g, hfinish, -⟩ := finish_of_ne hitems previous
    exact ⟨g, hfinish⟩

/-- The items before it may be directories alone, since nothing is said about what is added. -/
theorem ChoicesFrom.readsUnion (h : ChoicesFrom fresh t choices)
    (hbegins : fresh = true → BeginsComponent items previous) :
    ReadsUnion ⟨items, [], previous⟩ t choices := by
  induction h generalizing items previous with
  | nil =>
    obtain ⟨g, hfinish⟩ := exists_finish items previous
    exact .self ⟨_, g, rfl, hfinish, rfl⟩
  | lastDirs =>
    obtain ⟨hends, hprevious⟩ := hbegins rfl
    exact .self (readAll_twoStars_nil hends hprevious)
  | dirs hrest ih =>
    obtain ⟨hends, hprevious⟩ := hbegins rfl
    obtain ⟨next, hnext, -, -, hread⟩ := readAll_twoStars_slash hends hprevious
    exact (ih fun _ => ⟨hnext, fun _ => rfl⟩).map (hread _) fun u _ => hread u
  | char hc hstars hrest ih =>
    refine (ih fun hslash => beginsComponent_char hslash items).map
      (readAll_char hc.ungrouped hstars) fun u hu => ?_
    exact readAll_char hc.ungrouped fun h => hstars ⟨h.1, hrest.head?_eq u hu h.2⟩
  | @braces _ branches rest choices hne hplain hbranches hrest ih =>
    obtain ⟨g, -, hlanguage, hread⟩ := exists_readAll_group hne (fun b hb => (hplain b hb).1)
      fun b hb => (hbranches b hb).exists_readsItems (hplain b hb).2
    -- From here on the group and a front are behind different items, and only what is added to
    -- them is the same.
    choose! add hadd using hrest.exists_adds
    have hsettled : IsSettled (.braces g :: items) := ⟨List.cons_ne_nil _ _, by simp⟩
    have hbacks : ∀ back ∈ choices, ReadsTo ⟨.braces g :: items, [], some '\x7d'⟩ back
        (itemsLanguage items * choicesLanguage (branches.flatMap Prod.snd) * add back) := by
      intro back hback
      have hlast := hadd back hback _ (some '\x7d') hsettled nofun
      rwa [itemsLanguage_cons, language, hlanguage] at hlast
    refine (ih nofun).braces (hread items [] previous rest) hbacks fun front hfront back hback => ?_
    obtain ⟨hne, hplain⟩ := plain_of_mem_branches hplain hbranches hfront
    exact (hadd back hback).plain hne hplain items previous

theorem readsTo_iff_parse : ReadsTo {} t l ↔ ∃ g, parse t = .ok g ∧ g.language = l := by
  constructor
  · rintro ⟨last, g, hread, hfinish, hlanguage⟩
    exact ⟨g, parse_eq_ok_iff.2 ⟨last, hread, hfinish⟩, hlanguage⟩
  · rintro ⟨g, hparse, hlanguage⟩
    obtain ⟨last, hread, hfinish⟩ := parse_eq_ok_iff.1 hparse
    exact ⟨last, g, hread, hfinish, hlanguage⟩

end Reading

/-- A text without braces can be compiled if it can be read. -/
theorem compile_eq_ok_iff_of_ordinary {t : Text} (ht : ∀ c ∈ t, IsOrdinary c) {g : Glob} :
    compile t = .ok g ↔ parse t = .ok g := by
  have hbraces : t.count '\x7d' = 0 :=
    List.count_eq_zero.2 fun hmem => (ht _ hmem).2.2.2.2.1 rfl
  rw [compile_eq_ok_iff]
  exact and_iff_left_of_imp fun hparse => fits_of_parse hparse (by omega)

/-- **Braces are expansion.** A glob in which the groups nest properly and two stars side by side
make up a component can be read, and it can be compiled if it does not nest too deep, as no glob
with few braces does. Each of its choices has no braces and can be compiled. The glob matches the
paths that at least one of its choices matches. -/
theorem exists_isMatch_iff_choice {pattern : Text} {choices : List Text}
    (h : HasChoices pattern choices) (hstars : StarsAreWhole pattern) :
    ∃ g, (∀ g', compile pattern = .ok g' ↔ g' = g ∧ g.fits = true) ∧
      (pattern.count '\x7d' ≤ 81 → g.fits = true) ∧
      (∀ choice ∈ choices, (∀ c ∈ choice, IsOrdinary c) ∧ ∃ g', compile choice = .ok g') ∧
      ∀ path : Text, g.isMatch path = true ↔
        ∃ choice ∈ choices, ∃ g', compile choice = .ok g' ∧ g'.isMatch path = true := by
  have hwhole : StarsAreWhole ([] ++ pattern) := hstars
  have hstart : ChoicesFrom true pattern choices := h.choicesFrom hwhole fun _ => rfl
  have hread : ReadsUnion {} pattern choices := hstart.readsUnion fun _ => ⟨.start, absurd rfl⟩
  have hordinary : ∀ choice ∈ choices, ∀ c ∈ choice, IsOrdinary c :=
    fun choice hchoice c hc => (h.ordinary choice hchoice c hc).1
  obtain ⟨heach, l, hl, hunion⟩ := hread
  obtain ⟨g, hparse, rfl⟩ := readsTo_iff_parse.1 hl
  refine ⟨g, fun g' => ?_, fits_of_parse hparse, fun choice hchoice => ?_, fun path => ?_⟩
  · rw [compile_eq_ok_iff, hparse, Except.ok.injEq]
    constructor
    · rintro ⟨rfl, hfits⟩
      exact ⟨rfl, hfits⟩
    · rintro ⟨rfl, hfits⟩
      exact ⟨rfl, hfits⟩
  · obtain ⟨k, hk⟩ := heach choice hchoice
    obtain ⟨g', hparse', -⟩ := readsTo_iff_parse.1 hk
    have hchoice' := hordinary choice hchoice
    exact ⟨hchoice', g', (compile_eq_ok_iff_of_ordinary hchoice').2 hparse'⟩
  · rw [isMatch_iff, hunion]
    refine exists_congr fun choice => and_congr_right fun hchoice => ?_
    simp only [compile_eq_ok_iff_of_ordinary (hordinary choice hchoice)]
    constructor
    · rintro ⟨k, hk, hmem⟩
      obtain ⟨g', hparse', rfl⟩ := readsTo_iff_parse.1 hk
      exact ⟨g', hparse', isMatch_iff.2 hmem⟩
    · rintro ⟨g', hparse', hmatch⟩
      exact ⟨g'.language, readsTo_iff_parse.2 ⟨g', hparse', rfl⟩, isMatch_iff.1 hmatch⟩

/-- A group within a group, and a branch that is a slash. -/
def nested : Text := "**/\x7ba,b\x7bc,/\x7dd\x7d*".toList

theorem hasChoices_nested :
    HasChoices nested ["**/a*".toList, "**/bcd*".toList, "**/b/d*".toList] := by
  have hslash : HasChoices "b\x7bc,/\x7dd".toList ["bcd".toList, "b/d".toList] := by
    refine .char (by decide) (@HasChoices.braces [(['c'], [['c']]), (['/'], [['/']])] ['d'] [['d']]
      (by decide) (by decide) ?_ (.char (by decide) .nil))
    rintro b hb
    rcases List.mem_pair.1 hb with rfl | rfl
    · exact .char (by decide) .nil
    · exact .char (by decide) .nil
  refine .char (by decide) (.char (by decide) (.char (by decide) (@HasChoices.braces
    [(['a'], [['a']]), ("b\x7bc,/\x7dd".toList, ["bcd".toList, "b/d".toList])] ['*'] [['*']]
    (by decide) (by decide) ?_ (.char (by decide) .nil))))
  rintro b hb
  rcases List.mem_pair.1 hb with rfl | rfl
  · exact .char (by decide) .nil
  · exact hslash

theorem exists_isMatch_iff_choice_nested :
    HasChoices nested ["**/a*".toList, "**/bcd*".toList, "**/b/d*".toList] ∧
      StarsAreWhole nested ∧ ∃ g, compile nested = .ok g ∧
        (∀ path : Text, g.isMatch path = true ↔
          ∃ choice ∈ ["**/a*".toList, "**/bcd*".toList, "**/b/d*".toList],
            ∃ g', compile choice = .ok g' ∧ g'.isMatch path = true) ∧
        g.isMatch "x/b/de".toList = true ∧ g.isMatch "b/c/d".toList = false := by
  have hstars : StarsAreWhole nested := by decide
  obtain ⟨g, hcompile, hfits, -, hmatch⟩ := exists_isMatch_iff_choice hasChoices_nested hstars
  have hnested : compile nested = .ok g := (hcompile g).2 ⟨rfl, hfits (by decide)⟩
  refine ⟨hasChoices_nested, hstars, g, hnested, hmatch, ?_⟩
  have hg : (compile nested).toOption.any (fun g =>
      g.isMatch "x/b/de".toList && !g.isMatch "b/c/d".toList) = true := by
    decide
  rw [hnested] at hg
  exact (Bool.and_eq_true_iff.1 hg).imp_right fun h => by simpa using h

/-! ### A glob that nests too deep -/

theorem not_mem_withinBraces (depth : Nat) : '*' ∉ withinBraces depth := by
  induction depth with
  | zero => decide
  | succ depth ih => simp [withinBraces, ih]

theorem hasChoices_withinBraces (depth : Nat) : HasChoices (withinBraces depth) [['a']] := by
  induction depth with
  | zero => exact .char (by decide) .nil
  | succ depth ih =>
      have hne : withinBraces depth ≠ [] := by
        cases depth <;> exact List.cons_ne_nil _ _
      have hgroup := @HasChoices.braces [(withinBraces depth, [['a']])] [] [[]]
        (List.cons_ne_nil _ _) ?_ ?_ .nil
      · rwa [List.append_nil] at hgroup
      · rintro b hb
        rw [List.mem_singleton.1 hb]
        exact ⟨hne, not_mem_withinBraces depth⟩
      · rintro b hb
        rw [List.mem_singleton.1 hb]
        exact ih

/-- Without a limit on braces the statement fails: between 250 pairs of them nothing can be
compiled. -/
theorem not_exists_compile_of_hasChoices :
    ¬ ∀ (pattern : Text) (choices : List Text), HasChoices pattern choices →
      StarsAreWhole pattern → ∃ g, compile pattern = .ok g := by
  intro h
  have hstars : StarsAreWhole (withinBraces 250) := by
    rintro front back hpattern
    refine absurd ?_ (not_mem_withinBraces 250)
    rw [← hpattern]
    simp [twoStars]
  obtain ⟨g, hcompile⟩ := h _ _ (hasChoices_withinBraces 250) hstars
  rw [compile_withinBraces] at hcompile
  cases hcompile

end Glob

end Sweep

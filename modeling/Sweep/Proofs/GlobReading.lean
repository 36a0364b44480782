import Sweep.Proofs.GlobComponents
import Sweep.Proofs.GlobHeight

/-!
# Reading a glob by components

Two stars between slashes take the place of a slash beside them, so a glob does not show its
components any more once it has been read. Its language still does: without brackets, braces and
backslashes, a glob matches a path exactly if its components match those of the path one after the
other.
-/

namespace Sweep

open scoped Computability

namespace Glob

/-- A glob of wildcards and characters that stand for themselves, without a slash at its end. -/
structure IsPlain (pattern : Text) : Prop where
  no_bracket : '[' ∉ pattern
  no_openBrace : '\x7b' ∉ pattern
  no_closeBrace : '\x7d' ∉ pattern
  no_backslash : '\\' ∉ pattern
  no_slash_at_end : pattern.getLast? ≠ some '/'

instance (pattern : Text) : Decidable (IsPlain pattern) :=
  decidable_of_iff ('[' ∉ pattern ∧ '\x7b' ∉ pattern ∧ '\x7d' ∉ pattern ∧ '\\' ∉ pattern ∧
      pattern.getLast? ≠ some '/')
    ⟨fun ⟨h₁, h₂, h₃, h₄, h₅⟩ => ⟨h₁, h₂, h₃, h₄, h₅⟩,
      fun ⟨h₁, h₂, h₃, h₄, h₅⟩ => ⟨h₁, h₂, h₃, h₄, h₅⟩⟩

/-! ### Reading a component -/

section Reading

open Reading

variable {component rest tail : Text} {items : List Glob} {previous : Option Char}

/-- The items behind those of a component, the last first. -/
def pushAll (items : List Glob) (component : Text) : List Glob :=
  component.foldl (fun items c => .piece (wildcard c) :: items) items

/-- The language of the items that have been read. -/
def itemsLanguage (items : List Glob) : Language UInt8 := (items.reverse.map language).prod

theorem itemsLanguage_cons (g : Glob) (items : List Glob) :
    itemsLanguage (g :: items) = itemsLanguage items * g.language := by
  simp [itemsLanguage]

theorem itemsLanguage_pushAll (items : List Glob) (component : Text) :
    itemsLanguage (pushAll items component) =
      itemsLanguage items * componentLanguage component := by
  induction component generalizing items with
  | nil => exact (mul_one _).symm
  | cons c component ih =>
    calc itemsLanguage (pushAll items (c :: component))
        = itemsLanguage (.piece (wildcard c) :: items) * componentLanguage component := ih _
      _ = itemsLanguage items * componentLanguage (c :: component) := by
          rw [itemsLanguage_cons, componentLanguage_cons, mul_assoc, language]

/-- A text without the characters that open or close groups and sets, or escape others. -/
def IsUngrouped (t : Text) : Prop := ∀ c ∈ t, c ≠ '[' ∧ c ≠ '\x7b' ∧ c ≠ '\x7d' ∧ c ≠ '\\'

theorem IsUngrouped.of_cons {c : Char} (h : IsUngrouped (c :: rest)) : IsUngrouped rest :=
  fun d hd => h d (List.mem_cons_of_mem _ hd)

theorem step_of_ne_star {c : Char} (hc : c ≠ '[' ∧ c ≠ '\x7b' ∧ c ≠ '\x7d' ∧ c ≠ '\\')
    (hstar : c ≠ '*') (rest : Text) :
    step ⟨items, [], previous⟩ c rest = .ok (⟨.piece (wildcard c) :: items, [], previous⟩, 0) := by
  unfold step
  split
  · rfl
  · exact absurd rfl hstar
  · exact absurd rfl hc.1
  · exact absurd rfl hc.2.1
  · exact absurd rfl hc.2.2.1
  · rfl
  · exact absurd rfl hc.2.2.2
  · rename_i hone _ _ _ _ _ _
    rw [wildcard_of_ne hone hstar]
    rfl

theorem readStar_of_head?_ne (h : rest.head? ≠ some '*') :
    readStar ⟨items, [], previous⟩ rest = (⟨.piece .star :: items, [], previous⟩, 0) := by
  unfold readStar
  split
  · exact absurd rfl h
  · rfl

/-- A character stands for its own piece, unless it is the first one of two stars. -/
theorem readAll_char {c : Char} (hc : c ≠ '[' ∧ c ≠ '\x7b' ∧ c ≠ '\x7d' ∧ c ≠ '\\')
    (hstars : ¬ (c = '*' ∧ rest.head? = some '*')) :
    readAll ⟨items, [], previous⟩ 0 (c :: rest) =
      readAll ⟨.piece (wildcard c) :: items, [], some c⟩ 0 rest := by
  have hstep : step ⟨items, [], previous⟩ c rest =
      .ok (⟨.piece (wildcard c) :: items, [], previous⟩, 0) := by
    by_cases hstar : c = '*'
    · subst hstar
      exact congrArg Except.ok (readStar_of_head?_ne fun hhead => hstars ⟨rfl, hhead⟩)
    · exact step_of_ne_star hc hstar rest
  rw [readAll, hstep]

/-- What the items in front of a component may end in: a slash, or directories that have taken its
place. -/
inductive EndsInSlash : List Glob → Prop
  | start : EndsInSlash []
  | leadingDirs : EndsInSlash [.piece .leadingDirs]
  | slash (items : List Glob) : EndsInSlash (.piece (.literal '/') :: items)
  | innerDirs (items : List Glob) : EndsInSlash (.piece .innerDirs :: items)

/-- Something other than directories in front of a path has been read. -/
def IsSettled (items : List Glob) : Prop := items ≠ [] ∧ items ≠ [.piece .leadingDirs]

/-- Two stars in front of other components stand for directories. -/
theorem readAll_twoStars_slash (hitems : EndsInSlash items)
    (hprevious : items ≠ [] → previous = some '/') :
    ∃ next, EndsInSlash next ∧ itemsLanguage next = itemsLanguage items * dirs ∧
      (IsSettled items → IsSettled next) ∧
      ∀ tail, readAll ⟨items, [], previous⟩ 0 (twoStars ++ '/' :: tail) =
        readAll ⟨next, [], some '/'⟩ 0 tail := by
  cases hitems with
  | start =>
    exact ⟨_, .leadingDirs, itemsLanguage_cons _ _, fun h => absurd rfl h.1, fun _ => rfl⟩
  | leadingDirs =>
    obtain rfl := hprevious (List.cons_ne_nil _ _)
    refine ⟨_, .leadingDirs, ?_, id, fun _ => rfl⟩
    rw [itemsLanguage_cons, language, Piece.language, mul_assoc, dirs_mul_dirs]
  | slash items =>
    obtain rfl := hprevious (List.cons_ne_nil _ _)
    refine ⟨_, .innerDirs items, ?_, fun _ => by simp [IsSettled], fun _ => rfl⟩
    rw [itemsLanguage_cons, itemsLanguage_cons, mul_assoc]
    rfl
  | innerDirs items =>
    obtain rfl := hprevious (List.cons_ne_nil _ _)
    refine ⟨_, .innerDirs items, ?_, id, fun _ => rfl⟩
    rw [itemsLanguage_cons, language, Piece.language, mul_assoc, mul_assoc, dirs_mul_dirs]

theorem finish_of_ne (h : items ≠ [.piece .leadingDirs]) (previous : Option Char) :
    ∃ g, finish ⟨items, [], previous⟩ = .ok g ∧ g.language = itemsLanguage items := by
  refine ⟨concat items.reverse, ?_, language_concat _⟩
  unfold finish
  simp only [List.isEmpty_nil, if_true]

/-- Two stars at the end stand for everything that may follow. -/
theorem readAll_twoStars_nil (hitems : EndsInSlash items)
    (hprevious : items ≠ [] → previous = some '/') :
    ∃ last g, readAll ⟨items, [], previous⟩ 0 twoStars = .ok last ∧ last.finish = .ok g ∧
      g.language = itemsLanguage items * ⊤ := by
  cases hitems with
  | start => exact ⟨_, .piece .everything, rfl, rfl, (one_mul _).symm⟩
  | leadingDirs =>
    obtain rfl := hprevious (List.cons_ne_nil _ _)
    refine ⟨_, .piece .everything, rfl, rfl, ?_⟩
    rw [itemsLanguage_cons, language, Piece.language, language, Piece.language, mul_assoc,
      dirs_mul_top]
    exact (one_mul _).symm
  | slash items =>
    obtain rfl := hprevious (List.cons_ne_nil _ _)
    have hne : .piece .trailingDirs :: items ≠ [.piece .leadingDirs] := by simp
    obtain ⟨g, hfinish, hlanguage⟩ := finish_of_ne hne (some '*')
    refine ⟨_, g, rfl, hfinish, ?_⟩
    rw [hlanguage, itemsLanguage_cons, itemsLanguage_cons, mul_assoc]
    rfl
  | innerDirs items =>
    obtain rfl := hprevious (List.cons_ne_nil _ _)
    have hne : .piece .trailingDirs :: items ≠ [.piece .leadingDirs] := by simp
    obtain ⟨g, hfinish, hlanguage⟩ := finish_of_ne hne (some '*')
    refine ⟨_, g, rfl, hfinish, ?_⟩
    rw [hlanguage, itemsLanguage_cons, itemsLanguage_cons, language, Piece.language, language,
      Piece.language, mul_assoc, mul_assoc, dirs_mul_top]

theorem pushAll_ne {component : Text} (h : component ≠ []) (items : List Glob) :
    pushAll items component ≠ [.piece .leadingDirs] := by
  obtain ⟨front, c, rfl⟩ := (List.eq_nil_or_concat component).resolve_left h
  intro heq
  rw [List.concat_eq_append, pushAll, List.foldl_concat] at heq
  have hc : wildcard c = .leadingDirs := (Glob.piece.inj (List.cons.inj heq).1)
  unfold wildcard at hc
  split at hc <;> cases hc

end Reading

/-! ### The theorem -/

theorem IsPlain.components {pattern : Text} (h : IsPlain pattern) :
    ∀ component ∈ pattern.split '/', IsUngrouped component ∧ '/' ∉ component := by
  intro component hcomponent
  refine ⟨fun c hc => ?_, fun hslash => (Text.mem_of_mem_split hcomponent hslash).2 rfl⟩
  have hmem : c ∈ pattern := (Text.mem_of_mem_split hcomponent hc).1
  exact ⟨fun heq => h.no_bracket (heq ▸ hmem), fun heq => h.no_openBrace (heq ▸ hmem),
    fun heq => h.no_closeBrace (heq ▸ hmem), fun heq => h.no_backslash (heq ▸ hmem)⟩

theorem IsPlain.last {pattern : Text} (h : IsPlain pattern)
    (hlast : (pattern.split '/').getLast? = some []) : pattern.split '/' = [[]] := by
  obtain rfl := (Text.getLast?_of_split hlast).resolve_right h.no_slash_at_end
  rfl

end Glob

end Sweep

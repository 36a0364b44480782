import Mathlib.Computability.Language
import Sweep.Glob.Basic

/-!
# The language of a glob

A glob stands for a set of byte strings, built from those of its pieces by concatenation and union.
It matches a path exactly if the bytes of the path belong to this language, whatever the search for
a match keeps of the ends that it has come to.
-/

namespace Sweep

open scoped Computability

namespace Glob

/-- The bytes that one component of a path may have. -/
def noSlash : Language UInt8 := {bytes | slash ∉ bytes}

def separator : Language UInt8 := {[slash]}

/-- Any number of components, each with a slash behind it. -/
def dirs : Language UInt8 := (noSlash * separator)∗

def oneByte (test : UInt8 → Bool) : Language UInt8 := {bytes | ∃ b, test b = true ∧ bytes = [b]}

/-- The bytes that a piece stands for. -/
def Piece.language : Piece → Language UInt8
  | .literal c => {String.utf8EncodeChar c}
  | .one => oneByte (· != slash)
  | .star => noSlash
  | .leadingDirs => dirs
  | .trailingDirs => separator * ⊤
  | .innerDirs => separator * dirs
  | .everything => ⊤
  | .oneOf negated ranges =>
    oneByte fun b => (ranges.any fun (first, last) => rangeContains b first last) != negated

def language : Glob → Language UInt8
  | .empty => 1
  | .piece p => p.language
  | .seq first second => first.language * second.language
  | .either first second => first.language + second.language
  | .braces alternatives => alternatives.language

/-! ### Components and slashes -/

section Dirs

variable {bytes front rest : Bytes}

theorem mem_noSlash : bytes ∈ noSlash ↔ slash ∉ bytes := Iff.rfl

theorem mem_separator_mul {l : Language UInt8} :
    bytes ∈ separator * l ↔ ∃ rest ∈ l, bytes = slash :: rest := by
  rw [Language.mem_mul]
  constructor
  · rintro ⟨front, rfl, rest, hrest, rfl⟩
    exact ⟨rest, hrest, rfl⟩
  · rintro ⟨rest, hrest, rfl⟩
    exact ⟨[slash], rfl, rest, hrest, rfl⟩

/-- Bytes up to the first slash. -/
theorem exists_front (bytes : Bytes) :
    slash ∉ bytes ∨ ∃ front rest, slash ∉ front ∧ bytes = front ++ slash :: rest := by
  by_cases hslash : slash ∈ bytes
  · obtain ⟨front, rest, rfl, hfront⟩ := List.eq_append_cons_of_mem hslash
    exact .inr ⟨front, rest, hfront, rfl⟩
  · exact .inl hslash

theorem nil_mem_dirs : [] ∈ dirs := Language.nil_mem_kstar _

theorem append_mem_dirs (hfront : slash ∉ front) (hrest : rest ∈ dirs) :
    front ++ slash :: rest ∈ dirs := by
  have hdir : front ++ [slash] ∈ noSlash * separator := Language.append_mem_mul hfront rfl
  have hmem : front ++ [slash] ++ rest ∈ noSlash * separator * dirs :=
    Language.append_mem_mul hdir hrest
  rw [List.append_assoc] at hmem
  exact Set.mem_of_mem_of_subset hmem (mul_kstar_le_kstar (a := noSlash * separator))

/-- Directories end in a slash. -/
theorem mem_dirs_iff : bytes ∈ dirs ↔ bytes = [] ∨ ∃ front, front ++ [slash] = bytes := by
  constructor
  · rintro ⟨parts, rfl, hparts⟩
    rcases List.eq_nil_or_concat parts with rfl | ⟨before, last, rfl⟩
    · exact .inl rfl
    · have hlast : last ∈ noSlash * separator := hparts last (by simp)
      obtain ⟨name, -, -, rfl, rfl⟩ := Language.mem_mul.1 hlast
      exact .inr ⟨before.flatten ++ name, by simp⟩
  · rintro (rfl | ⟨front, rfl⟩)
    · exact nil_mem_dirs
    · -- On the length, since the first component of `front` may have any.
      induction hlength : front.length using Nat.strong_induction_on generalizing front with
      | _ length ih =>
        subst hlength
        rcases exists_front front with hfront | ⟨name, rest, hname, rfl⟩
        · exact append_mem_dirs hfront nil_mem_dirs
        · have hrest : rest ++ [slash] ∈ dirs := ih rest.length (by simp; omega) rest rfl
          rw [List.append_assoc, List.cons_append]
          exact append_mem_dirs hname hrest

theorem dirs_mul_dirs : dirs * dirs = dirs := kstar_mul_kstar _

/-- Every byte string is some components with slashes behind them, and a last component. -/
theorem dirs_mul_noSlash : dirs * noSlash = ⊤ := by
  refine top_unique fun bytes _ => ?_
  induction hlength : bytes.length using Nat.strong_induction_on generalizing bytes with
  | _ length ih =>
    subst hlength
    rcases exists_front bytes with hbytes | ⟨name, rest, hname, rfl⟩
    · exact Language.append_mem_mul nil_mem_dirs hbytes
    · have hrest : rest ∈ dirs * noSlash := ih rest.length (by simp; omega) rest trivial rfl
      obtain ⟨dir, hdir, last, hlast, rfl⟩ := Language.mem_mul.1 hrest
      have hmem := Language.append_mem_mul (append_mem_dirs hname hdir) hlast
      rwa [List.append_assoc, List.cons_append] at hmem

theorem dirs_mul_top : dirs * ⊤ = ⊤ := by
  calc dirs * ⊤ = dirs * (dirs * noSlash) := by rw [dirs_mul_noSlash]
    _ = dirs * dirs * noSlash := (mul_assoc _ _ _).symm
    _ = ⊤ := by rw [dirs_mul_dirs, dirs_mul_noSlash]

end Dirs

/-! ### What is left behind a piece -/

section Rests

variable {front bytes rest : Bytes}

theorem dropFront?_eq_some_iff : dropFront? front bytes = some rest ↔ front ++ rest = bytes := by
  induction front generalizing bytes with
  | nil => simp [dropFront?, eq_comm]
  | cons f front ih =>
    cases bytes with
    | nil => simp [dropFront?]
    | cons b bytes =>
      by_cases heq : f = b
      · simp [dropFront?, heq, ih]
      · simp [dropFront?, heq]

theorem mem_starRests : rest ∈ starRests bytes ↔ ∃ front ∈ noSlash, front ++ rest = bytes := by
  induction bytes with
  | nil =>
    simp only [starRests, List.mem_singleton, List.append_eq_nil_iff]
    exact ⟨fun h => ⟨[], by simp [mem_noSlash], rfl, h⟩, fun ⟨_, _, _, h⟩ => h⟩
  | cons b bytes ih =>
    rw [starRests]
    split
    · rename_i hb
      rw [List.mem_singleton]
      constructor
      · rintro rfl
        exact ⟨[], by simp [mem_noSlash], rfl⟩
      · rintro ⟨_ | ⟨c, front⟩, hfront, heq⟩
        · exact heq
        · obtain ⟨rfl, -⟩ := List.cons.inj heq
          exact absurd (by simp [hb]) hfront
    · rename_i hb
      rw [List.mem_cons, ih]
      constructor
      · rintro (rfl | ⟨front, hfront, rfl⟩)
        · exact ⟨[], by simp [mem_noSlash], rfl⟩
        · exact ⟨b :: front, List.not_mem_cons_of_ne_of_not_mem (Ne.symm hb) hfront, rfl⟩
      · rintro ⟨_ | ⟨c, front⟩, hfront, heq⟩
        · exact .inl heq
        · obtain ⟨-, rfl⟩ := List.cons.inj heq
          exact .inr ⟨front, List.not_mem_of_not_mem_cons hfront, rfl⟩

theorem mem_slashRests : rest ∈ slashRests bytes ↔ ∃ front, front ++ slash :: rest = bytes := by
  induction bytes with
  | nil => simp [slashRests]
  | cons b bytes ih =>
    have hcons : (∃ front, front ++ slash :: rest = b :: bytes) ↔
        (slash = b ∧ rest = bytes) ∨ ∃ front, front ++ slash :: rest = bytes := by
      constructor
      · rintro ⟨_ | ⟨c, front⟩, heq⟩
        · exact .inl (List.cons.inj heq)
        · exact .inr ⟨front, (List.cons.inj heq).2⟩
      · rintro (⟨rfl, rfl⟩ | ⟨front, rfl⟩)
        · exact ⟨[], rfl⟩
        · exact ⟨b :: front, rfl⟩
    rw [slashRests, hcons]
    split
    · rename_i hb
      rw [List.mem_cons, ih, hb, and_iff_right rfl]
    · rename_i hb
      rw [ih, or_iff_right fun h => hb h.1.symm]

theorem mem_allRests :
    rest ∈ allRests bytes ↔ ∃ front ∈ (⊤ : Language UInt8), front ++ rest = bytes := by
  have hsuffix : rest ∈ allRests bytes ↔ rest <:+ bytes := by
    induction bytes with
    | nil => simp [allRests]
    | cons b bytes ih => rw [allRests, List.mem_cons, ih, List.suffix_cons_iff]
  rw [hsuffix]
  exact ⟨fun ⟨front, h⟩ => ⟨front, trivial, h⟩, fun ⟨front, _, h⟩ => ⟨front, h⟩⟩

theorem mem_leadingRests :
    rest ∈ bytes :: slashRests bytes ↔ ∃ front ∈ dirs, front ++ rest = bytes := by
  rw [List.mem_cons, mem_slashRests]
  constructor
  · rintro (rfl | ⟨front, rfl⟩)
    · exact ⟨[], nil_mem_dirs, rfl⟩
    · exact ⟨front ++ [slash], mem_dirs_iff.2 (.inr ⟨front, rfl⟩), by simp⟩
  · rintro ⟨dir, hdir, rfl⟩
    rcases mem_dirs_iff.1 hdir with rfl | ⟨front, rfl⟩
    · exact .inl rfl
    · exact .inr ⟨front, by simp⟩

theorem exists_mem_oneByte {test : UInt8 → Bool} :
    (∃ front ∈ oneByte test, front ++ rest = bytes) ↔ ∃ b, test b = true ∧ b :: rest = bytes := by
  constructor
  · rintro ⟨_, ⟨b, hb, rfl⟩, rfl⟩
    exact ⟨b, hb, rfl⟩
  · rintro ⟨b, hb, rfl⟩
    exact ⟨[b], ⟨b, hb, rfl⟩, rfl⟩

theorem exists_mem_separator_mul {l : Language UInt8} :
    (∃ front ∈ separator * l, front ++ rest = bytes) ↔
      ∃ behind, bytes = slash :: behind ∧ ∃ front ∈ l, front ++ rest = behind := by
  constructor
  · rintro ⟨_, hmem, rfl⟩
    obtain ⟨front, hfront, rfl⟩ := mem_separator_mul.1 hmem
    exact ⟨front ++ rest, rfl, front, hfront, rfl⟩
  · rintro ⟨_, rfl, front, hfront, rfl⟩
    exact ⟨slash :: front, mem_separator_mul.2 ⟨front, hfront, rfl⟩, rfl⟩

theorem Piece.mem_rests {p : Piece} :
    rest ∈ p.rests bytes ↔ ∃ front ∈ p.language, front ++ rest = bytes := by
  cases p with
  | literal c =>
    rw [rests, Option.mem_toList, dropFront?_eq_some_iff]
    exact ⟨fun h => ⟨_, rfl, h⟩, fun ⟨_, hfront, h⟩ => hfront ▸ h⟩
  | one =>
    rw [language, exists_mem_oneByte]
    cases bytes with
    | nil => simp [rests]
    | cons b behind => by_cases hb : b = slash <;> simp [rests, hb]
  | star => exact mem_starRests
  | leadingDirs => exact mem_leadingRests
  | trailingDirs =>
    rw [language, exists_mem_separator_mul]
    simp only [← mem_allRests]
    cases bytes with
    | nil => simp [rests]
    | cons b behind => by_cases hb : b = slash <;> simp [rests, hb]
  | innerDirs =>
    rw [language, exists_mem_separator_mul]
    simp only [← mem_leadingRests]
    cases bytes with
    | nil => simp [rests]
    | cons b behind => by_cases hb : b = slash <;> simp [rests, hb]
  | everything => exact mem_allRests
  | oneOf negated ranges =>
    rw [language, exists_mem_oneByte]
    cases bytes with
    | nil => simp [rests]
    | cons b behind =>
      rw [rests]
      split <;> simp_all

end Rests

/-! ### What is left behind a glob -/

theorem mem_rests {g : Glob} {starts : List Bytes} {rest : Bytes} :
    rest ∈ g.rests starts ↔ ∃ front ∈ g.language, front ++ rest ∈ starts := by
  induction g generalizing starts rest with
  | empty => simp [rests, language]
  | piece p =>
    simp only [rests, language, List.mem_eraseDups, List.mem_flatMap, Piece.mem_rests]
    constructor
    · rintro ⟨_, hstart, front, hfront, rfl⟩
      exact ⟨front, hfront, hstart⟩
    · rintro ⟨front, hfront, hstart⟩
      exact ⟨_, hstart, front, hfront, rfl⟩
  | seq first second ihFirst ihSecond =>
    simp only [rests, language, ihSecond, ihFirst]
    constructor
    · rintro ⟨back, hback, front, hfront, hstart⟩
      exact ⟨front ++ back, Language.append_mem_mul hfront hback, by rwa [List.append_assoc]⟩
    · rintro ⟨_, hmem, hstart⟩
      obtain ⟨front, hfront, back, hback, rfl⟩ := Language.mem_mul.1 hmem
      exact ⟨back, hback, front, hfront, by rwa [← List.append_assoc]⟩
  | either first second ihFirst ihSecond =>
    simp only [rests, language, List.mem_eraseDups, List.mem_append, ihFirst, ihSecond,
      Language.mem_add, or_and_right, exists_or]
  | braces alternatives ih => simp only [rests, language, ih]

/-- A glob matches a path exactly if the bytes of the path belong to its language. -/
theorem isMatch_iff {g : Glob} {path : Text} : g.isMatch path = true ↔ path.bytes ∈ g.language := by
  rw [isMatch, List.contains_iff_mem, mem_rests]
  simp

theorem language_concat (globs : List Glob) :
    (concat globs).language = (globs.map language).prod := by
  induction globs with
  | nil => rfl
  | cons g globs ih =>
    cases globs with
    | nil => simp [concat]
    | cons h globs =>
      rw [List.map_cons, List.prod_cons, ← ih]
      rfl

end Glob

end Sweep

import Sweep.Proofs.Escapes
import Sweep.Proofs.LiteralPattern
import Sweep.Proofs.Replace
import Sweep.Proofs.Template

/-!
# Literal searches as regular expressions

The two modes of a search share no code: one looks for a text, the other runs a program. Run on the
characters of a literal, the program has one thread, which goes on as long as the text agrees with
the literal. So it matches where the literal occurs, and the matches are those that a replacement of
the literal takes.
-/

namespace Sweep

namespace Regex

/-! ### The one thread of a literal -/

section Run

variable {literal : Text}

theorem program_ofLiteral_get (front back : Text) :
    (ofLiteral (front ++ back)).program[front.length]? =
      some (match back with
        | [] => .accept
        | c :: _ => .char (.char c)) := by
  rw [ofLiteral, List.getElem?_toArray, List.map_append, List.append_assoc,
    List.getElem?_append_right (by simp), List.length_map, Nat.sub_self]
  cases back with
  | nil => rfl
  | cons c back => rfl

/-- A thread in front of a character, or at the end, stays where it is. -/
theorem settle_ofLiteral (front back : Text) (before : Option Char) (rest : Text) (position : Nat)
    (slots : List (Option Nat)) :
    settle (ofLiteral (front ++ back)).program before rest position [⟨front.length, slots⟩] =
      [⟨front.length, slots⟩] := by
  have hsize : front.length < (ofLiteral (front ++ back)).program.size := by
    simp [ofLiteral]
  have hnew : (Array.replicate (ofLiteral (front ++ back)).program.size false).getD
      front.length true = false := by
    simp [hsize]
  -- One step is for the thread, and one more shows that there is no other.
  have hfuel : [Thread.mk front.length slots].length +
      2 * (ofLiteral (front ++ back)).program.size =
      (2 * (ofLiteral (front ++ back)).program.size - 1) + 1 + 1 := by
    rw [List.length_singleton]
    omega
  rw [settle, hfuel, follow, hnew, program_ofLiteral_get, if_neg Bool.false_ne_true]
  cases back with
  | nil => rfl
  | cons c back => rfl

theorem advance_of_accepts {program : Array Instr} {t : Thread} (h : t.accepts program = true)
    (start : Nat) (rest : Text) (position : Nat) (found : Option Match) :
    advance program start [t] rest position found = some ⟨start, position, t.slots⟩ := by
  cases rest with
  | nil => simp [advance, h]
  | cons c rest => simp [advance, h]

theorem advance_nil_of_reads {program : Array Instr} {t : Thread} (h : t.accepts program = false)
    (start position : Nat) (found : Option Match) :
    advance program start [t] [] position found = found := by
  simp [advance, h]

theorem advance_cons_of_reads {program : Array Instr} {t : Thread} (h : t.accepts program = false)
    (start : Nat) (c : Char) (rest : Text) (position : Nat) (found : Option Match) :
    advance program start [t] (c :: rest) position found =
      match t.read? program c with
      | none => found
      | some next => advance program start (settle program (some c) rest (position + 1) [next]) rest
          (position + 1) found := by
  cases hread : t.read? program c with
  | none => simp [advance, h, hread]
  | some next => simp [advance, h, hread]

/-- The thread reads what is left of the literal, or there is no match. -/
theorem advance_ofLiteral (front back rest : Text) (start position : Nat)
    (slots : List (Option Nat)) :
    advance (ofLiteral (front ++ back)).program start [⟨front.length, slots⟩] rest position none =
      if back <+: rest then some ⟨start, position + back.length, slots⟩ else none := by
  -- The thread has read `front`, and its instruction is the first one of `back`.
  induction back generalizing front rest position with
  | nil =>
    have haccepts :
        Thread.accepts (ofLiteral (front ++ [])).program ⟨front.length, slots⟩ = true := by
      rw [Thread.accepts, program_ofLiteral_get]
    rw [if_pos List.nil_prefix, advance_of_accepts haccepts]
    rfl
  | cons c back ih =>
    have hreads :
        Thread.accepts (ofLiteral (front ++ c :: back)).program ⟨front.length, slots⟩ = false := by
      rw [Thread.accepts, program_ofLiteral_get]
    cases rest with
    | nil => rw [advance_nil_of_reads hreads, if_neg (by simp)]
    | cons d rest =>
      have hread : Thread.read? (ofLiteral (front ++ c :: back)).program d ⟨front.length, slots⟩ =
          if (c == d) = true then some ⟨front.length + 1, slots⟩ else none := by
        rw [Thread.read?, program_ofLiteral_get]
        rfl
      rw [advance_cons_of_reads hreads, hread]
      by_cases hcd : c = d
      · subst hcd
        have hsplit : front ++ c :: back = (front ++ [c]) ++ back := by simp
        have hlength : front.length + 1 = (front ++ [c]).length := by simp
        rw [if_pos (beq_self_eq_true c)]
        simp only [hsplit, hlength, settle_ofLiteral, ih, List.prefix_cons_inj, List.length_cons]
        rw [Nat.add_assoc, Nat.add_comm 1]
      · rw [if_neg (by simpa using hcd), if_neg (by simp [hcd])]

/-- A literal matches where the text goes on with it, and its match is as long as it is. -/
theorem matchAt_ofLiteral (literal : Text) (before : Option Char) (rest : Text) (position : Nat) :
    matchAt (ofLiteral literal).program (ofLiteral literal).slotCount before rest position =
      if literal <+: rest then some ⟨position, position + literal.length, []⟩ else none :=
  calc matchAt (ofLiteral literal).program (ofLiteral literal).slotCount before rest position
      = advance (ofLiteral literal).program position [⟨0, []⟩] rest position none :=
        congrArg (advance _ position · rest position none)
          (settle_ofLiteral [] literal before rest position [])
    _ = _ := advance_ofLiteral [] literal rest position position []

end Run

/-! ### The matches in a text -/

section Pieces

variable {literal replacement : Text}

/-- The text with the same replacement for every match. -/
def Piece.replaced (replacement : Text) : Piece → Text
  | .kept c => [c]
  | .found _ _ => replacement

theorem flatMap_piecesFrom (hne : literal ≠ []) (skip : Nat) (barred : Bool)
    (before : Option Char) (t : Text) (position : Nat) :
    ((ofLiteral literal).piecesFrom skip barred before t position).flatMap
        (Piece.replaced replacement) = Text.replaceFrom literal replacement skip t := by
  -- `skip` is the same in both: what is left of a match, and of an occurrence.
  induction t generalizing skip barred before position with
  | nil =>
    have hnone : ¬literal <+: [] := by simpa using hne
    unfold piecesFrom
    rw [matchAt_ofLiteral, if_neg hnone]
    cases skip with
    | zero => rfl
    | succ skip => rfl
  | cons c t ih =>
    cases skip with
    | succ skip => exact ih skip barred (some c) (position + 1)
    | zero =>
      rw [piecesFrom, matchAt_ofLiteral, Text.replaceFrom]
      by_cases hprefix : literal <+: c :: t
      · have hpos : 0 < literal.length := List.length_pos_of_ne_nil hne
        rw [if_pos hprefix, if_pos (List.isPrefixOf_iff_prefix.2 hprefix)]
        simp only [Nat.add_sub_cancel_left]
        rw [if_pos hpos, List.flatMap_cons, ih]
        rfl
      · rw [if_neg hprefix, if_neg fun h => hprefix (List.isPrefixOf_iff_prefix.1 h)]
        simp only
        rw [List.flatMap_cons, ih]
        rfl

/-- The empty literal matches in front of each character and at the end. -/
theorem flatMap_piecesFrom_nil (before : Option Char) (t : Text) (position : Nat) :
    ((ofLiteral []).piecesFrom 0 false before t position).flatMap
        (Piece.replaced replacement) = replacement ++ t.flatMap fun c => c :: replacement := by
  induction t generalizing before position with
  | nil =>
    unfold piecesFrom
    rw [matchAt_ofLiteral, if_pos List.nil_prefix]
    rfl
  | cons c t ih =>
    rw [piecesFrom, matchAt_ofLiteral, if_pos List.nil_prefix]
    simp only [List.length_nil, Nat.add_zero, Nat.sub_self, Nat.lt_irrefl, if_false,
      Bool.false_eq_true, List.flatMap_cons, ih]
    rfl

theorem replaceAll_ofLiteral (literal replacement t : Text) :
    (ofLiteral literal).replaceAll (fun _ => replacement) t = t.replaceAll literal replacement := by
  have hpieces : (ofLiteral literal).replaceAll (fun _ => replacement) t =
      ((ofLiteral literal).pieces t).flatMap (Piece.replaced replacement) := by
    refine congrArg (List.flatMap · _) (funext fun piece => ?_)
    cases piece with
    | kept c => rfl
    | found m text => rfl
  rw [hpieces, pieces, Text.replaceAll]
  by_cases hempty : literal = []
  · subst hempty
    exact flatMap_piecesFrom_nil none t 0
  · rw [if_neg (by simpa using hempty), flatMap_piecesFrom hempty]

def Piece.isFound : Piece → Bool
  | .kept _ => false
  | .found _ _ => true

theorem any_isFound_piecesFrom (literal : Text) (before : Option Char) (t : Text)
    (position : Nat) :
    ((ofLiteral literal).piecesFrom 0 false before t position).any Piece.isFound =
      t.contains literal := by
  induction t generalizing before position with
  | nil =>
    unfold piecesFrom
    rw [matchAt_ofLiteral, Text.contains]
    cases literal with
    | nil => rfl
    | cons c literal => rfl
  | cons c t ih =>
    rw [piecesFrom, matchAt_ofLiteral, Text.contains]
    by_cases hprefix : literal <+: c :: t
    · rw [if_pos hprefix, List.isPrefixOf_iff_prefix.2 hprefix]
      simp only
      split
      · rfl
      · rfl
    · have hnot : literal.isPrefixOf (c :: t) = false :=
          eq_false_of_ne_true fun h => hprefix (List.isPrefixOf_iff_prefix.1 h)
      rw [if_neg hprefix, hnot, Bool.false_or, ← ih]
      rfl

theorem isMatch_ofLiteral (literal t : Text) :
    (ofLiteral literal).isMatch t = t.contains literal := by
  rw [← any_isFound_piecesFrom literal none t 0]
  refine congrArg (List.any _) (funext fun piece => ?_)
  cases piece with
  | kept c => rfl
  | found m text => rfl

end Pieces

/-! ### The templates -/

section Template

variable {r : Regex} {t : Text} {m : Match}

/-- The template that writes a text: each dollar sign is doubled. -/
def doubleDollars (replacement : Text) : Text :=
  replacement.flatMap fun c => if c = '$' then ['$', '$'] else [c]

theorem decodeEscapes_of_not_mem {template : Text} (h : '\\' ∉ template) :
    decodeEscapes template = template := by
  rw [decodeEscapes_eq_decodeWith]
  exact decodeWith_eq_self fun e _ hoccurs => h (hoccurs.subset List.mem_cons_self)

theorem storeFrom_doubleDollars (replacement : Text) :
    storeFrom r 0 (doubleDollars replacement) = doubleDollars replacement := by
  induction replacement with
  | nil => rfl
  | cons c replacement ih =>
    rw [doubleDollars, List.flatMap_cons, ← doubleDollars]
    by_cases hc : c = '$'
    · subst hc
      rw [if_pos rfl]
      exact congrArg (['$', '$'] ++ ·) ih
    · rw [if_neg hc, List.singleton_append, storeFrom_cons hc, ih]

theorem expandFrom_doubleDollars (replacement : Text) :
    expandFrom r t m 0 (doubleDollars replacement) = replacement := by
  induction replacement with
  | nil => rfl
  | cons c replacement ih =>
    rw [doubleDollars, List.flatMap_cons, ← doubleDollars]
    by_cases hc : c = '$'
    · subst hc
      rw [if_pos rfl]
      exact congrArg ('$' :: ·) ih
    · rw [if_neg hc, List.singleton_append, expandFrom_cons hc, ih]

end Template

end Regex

namespace Substitution

open Regex

theorem backslash_not_mem_doubleDollars {replacement : Text} (h : '\\' ∉ replacement) :
    '\\' ∉ doubleDollars replacement := by
  intro hmem
  obtain ⟨c, hc, hwritten⟩ := List.mem_flatMap.1 hmem
  split at hwritten
  · simp at hwritten
  · exact h (List.mem_singleton.1 hwritten ▸ hc)

/-- **A literal search is the search for the escaped literal.** Whatever the literal and the
replacement, as long as this has no backslash: with every meta character escaped and every dollar
sign doubled they make up a regular expression and a template, which find matches in the same texts
and lead to the same texts. -/
theorem exists_pattern_eq_literal {replacement : Text} (h : '\\' ∉ replacement) (literal : Text) :
    ∃ pattern plain,
      ofSearch? (Regex.escape literal) (doubleDollars replacement) .regex = some pattern ∧
        ofSearch? literal replacement .literal = some plain ∧
          ∀ t, pattern.replaceIn? t = plain.replaceIn? t := by
  have hstored : (ofLiteral literal).storeTemplate (doubleDollars replacement) =
      doubleDollars replacement := by
    rw [storeTemplate, decodeEscapes_of_not_mem (backslash_not_mem_doubleDollars h),
      storeFrom_doubleDollars]
  refine ⟨.pattern (ofLiteral literal) (doubleDollars replacement), .literal literal replacement,
    ?_, rfl, fun t => ?_⟩
  · rw [ofSearch?, parse?_escape, Option.map_some, hstored]
  · have hexpand : (ofLiteral literal).expand (doubleDollars replacement) t =
        fun _ => replacement := funext fun m => expandFrom_doubleDollars replacement
    rw [replaceIn?, replaceIn?, isMatch_ofLiteral, hexpand, replaceAll_ofLiteral]

/-- Neither the dot nor the dollar sign has its meaning. -/
theorem exists_pattern_eq_literal_dot :
    '\\' ∉ ['$', '1'] ∧ ∃ pattern plain,
      ofSearch? ['a', '\\', '.'] ['$', '$', '1'] .regex = some pattern ∧
        ofSearch? ['a', '.'] ['$', '1'] .literal = some plain ∧
          (∀ t, pattern.replaceIn? t = plain.replaceIn? t) ∧
            pattern.replaceIn? "aba.a".toList = some "ab$1a".toList := by
  have hbackslash : '\\' ∉ ['$', '1'] := by decide
  obtain ⟨pattern, plain, hpattern, hplain, hsame⟩ :=
    exists_pattern_eq_literal hbackslash ['a', '.']
  refine ⟨hbackslash, pattern, plain, hpattern, hplain, hsame, ?_⟩
  obtain rfl := Option.some.inj hplain
  rw [hsame]
  decide

end Substitution

end Sweep

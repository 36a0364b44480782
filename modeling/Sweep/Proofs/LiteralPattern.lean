import Sweep.Regex.Parser

/-!
# Literals as regular expressions

A literal whose meta characters are escaped is an expression of characters only. It is read as the
sequence of these, and its program reads them one after the other and accepts.
-/

namespace Sweep.Regex

/-- The expression for a literal: each meta character stands behind a backslash. -/
def escape (literal : Text) : Text :=
  literal.flatMap fun c => if isMeta c then ['\\', c] else [c]

theorem length_le_length_escape (literal : Text) : literal.length ≤ (escape literal).length := by
  induction literal with
  | nil => exact Nat.le_refl 0
  | cons c literal ih =>
    rw [escape, List.flatMap_cons, List.length_append, List.length_cons, Nat.add_comm, ← escape]
    refine Nat.add_le_add ?_ ih
    split
    · exact Nat.le_succ 1
    · exact Nat.le_refl 1

/-- The expression that reads a literal. -/
def ofLiteral (literal : Text) : Regex where
  program := (literal.map (fun c => Instr.char (.char c)) ++ [Instr.accept]).toArray
  groupCount := 1
  names := []

namespace Reading

variable {r : Reading} {c : Char}

def charItem (c : Char) : Item := ⟨some (.char (.char c)), 0⟩

theorem readEscape_of_isMeta (hc : isMeta c = true) (rest : Text) :
    readEscape {} (c :: rest) = some (.literal c false, rest) := by
  have hne (letter : Char) (hletter : isMeta letter = false) : c ≠ letter := by
    rintro rfl
    rw [hletter] at hc
    cases hc
  have hescapable : isEscapable c = true := by
    rw [isEscapable, hc]
    rfl
  unfold readEscape
  dsimp only
  rw [if_neg, if_neg, if_neg, if_neg, if_pos hescapable]
  · simp [hne 'D' (by decide), hne 'S' (by decide), hne 'W' (by decide)]
  · simp [hne 'd' (by decide), hne 's' (by decide), hne 'w' (by decide)]
  · simp [hne 'p' (by decide), hne 'P' (by decide)]
  · simp [hne 'x' (by decide), hne 'u' (by decide), hne 'U' (by decide)]

/-- An escaped meta character stands for itself. -/
theorem step_escaped (hflags : r.flags = {}) (hc : isMeta c = true) (rest : Text) :
    r.step ('\\' :: c :: rest) = some (.more (r.push (charItem c)) rest) := by
  have hprimitive : r.readPrimitive ('\\' :: c :: rest) = some (r.push (charItem c), rest) := by
    rw [readPrimitive, hflags]
    simp only [readEscape_of_isMeta hc]
    rfl
  have hstep : r.step ('\\' :: c :: rest) =
      (r.readPrimitive ('\\' :: c :: rest)).map fun next => .more next.1 next.2 := by
    rw [step, hflags]
    rfl
  rw [hstep, hprimitive]
  rfl

theorem readPrimitive_of_not_isMeta (hflags : r.flags = {}) (hc : isMeta c = false)
    (rest : Text) : r.readPrimitive (c :: rest) = some (r.push (charItem c), rest) := by
  have hne (letter : Char) (hletter : isMeta letter = true) : c ≠ letter := by
    rintro rfl
    rw [hletter] at hc
    cases hc
  rw [readPrimitive, hflags]
  · rfl
  · exact hne '\\' (by decide)
  · exact hne '.' (by decide)
  · exact hne '^' (by decide)
  · exact hne '$' (by decide)

/-- A character that has no meaning of its own stands for itself. -/
theorem step_plain (hflags : r.flags = {}) (hc : isMeta c = false) (rest : Text) :
    r.step (c :: rest) = some (.more (r.push (charItem c)) rest) := by
  have hstep : r.step (c :: rest) =
      (r.readPrimitive (c :: rest)).map fun next => .more next.1 next.2 := by
    rw [step, hflags]
    simp only [Flags.skip]
    split
    case h_1 h => cases h
    case h_10 => rfl
    all_goals
      rename_i heq
      obtain ⟨rfl, -⟩ := List.cons.inj heq
      exact absurd hc (by decide)
  rw [hstep, readPrimitive_of_not_isMeta hflags hc]
  rfl

theorem step_nil (hflags : r.flags = {}) (hstack : r.stack = []) :
    r.step [] = some (.done r []) := by
  rw [step, hflags, hstack]
  rfl

/-- The state behind a literal. -/
def pushAll (r : Reading) (literal : Text) : Reading :=
  literal.foldl (fun r c => r.push (charItem c)) r

theorem iterate_escape (hflags : r.flags = {}) (hstack : r.stack = []) (literal : Text)
    {fuel : Nat} (hfuel : literal.length < fuel) :
    iterate step fuel r (escape literal) = some (r.pushAll literal, []) := by
  induction literal generalizing r fuel with
  | nil =>
    obtain ⟨fuel, rfl⟩ : ∃ n, fuel = n + 1 := ⟨fuel - 1, by omega⟩
    change iterate step (fuel + 1) r [] = _
    rw [iterate, step_nil hflags hstack]
    rfl
  | cons c literal ih =>
    obtain ⟨fuel, rfl⟩ : ∃ n, fuel = n + 1 := ⟨fuel - 1, by omega⟩
    have hstep : r.step (escape (c :: literal)) =
        some (.more (r.push (charItem c)) (escape literal)) := by
      rw [escape, List.flatMap_cons]
      cases hc : isMeta c with
      | false => exact step_plain hflags hc _
      | true => exact step_escaped hflags hc _
    have hpushed : (r.push (charItem c)).flags = {} ∧ (r.push (charItem c)).stack = [] :=
      ⟨hflags, hstack⟩
    rw [iterate, hstep]
    exact ih hpushed.1 hpushed.2 (Nat.lt_of_succ_lt_succ hfuel)

theorem level_pushAll (r : Reading) (literal : Text) :
    (r.pushAll literal).level =
        ⟨r.level.branches, (literal.map charItem).reverse ++ r.level.items⟩ ∧
      (r.pushAll literal).names = r.names := by
  induction literal generalizing r with
  | nil => exact ⟨rfl, rfl⟩
  | cons c literal ih =>
    obtain ⟨hlevel, hnames⟩ := ih (r.push (charItem c))
    refine ⟨hlevel.trans ?_, hnames⟩
    rw [List.map_cons, List.reverse_cons, List.append_assoc]
    rfl

end Reading

open Reading

/-- The sequence of the characters of a literal. -/
def literalNode (literal : Text) : Node := .concat (literal.map fun c => .char (.char c))

theorem foldl_max_height (literal : Text) :
    ((literal.map charItem).map (·.height)).foldl max 0 = 0 := by
  induction literal with
  | nil => rfl
  | cons c literal ih => exact ih

theorem concat_charItem (literal : Text) :
    (Item.concat (literal.map charItem)).toNode = literalNode literal ∧
      (Item.concat (literal.map charItem)).height ≤ 1 := by
  match literal with
  | [] => exact ⟨rfl, Nat.zero_le 1⟩
  | [c] => exact ⟨rfl, Nat.zero_le 1⟩
  | c :: d :: literal =>
    constructor
    · change Node.concat (((c :: d :: literal).map charItem).map Item.toNode) = _
      rw [List.map_map]
      rfl
    · change 1 + (((c :: d :: literal).map charItem).map (·.height)).foldl max 0 ≤ 1
      exact Nat.le_of_eq (congrArg (1 + ·) (foldl_max_height (c :: d :: literal)))

theorem groups_literalNode (literal : Text) : (literalNode literal).groups = [] := by
  induction literal with
  | nil => rfl
  | cons c literal ih =>
    cases literal with
    | nil => rfl
    | cons d literal => exact ih

theorem code_literalNode (literal : Text) (base : Nat) :
    (literalNode literal).code base = literal.map fun c => .char (.char c) := by
  induction literal generalizing base with
  | nil => rfl
  | cons c literal ih =>
    cases literal with
    | nil => rfl
    | cons d literal => exact congrArg (_ :: ·) (ih (base + 1))

theorem ofNode_literalNode (literal : Text) :
    ofNode (literalNode literal) [] = ofLiteral literal := by
  rw [ofNode, ofLiteral, Node.program, code_literalNode, groups_literalNode]
  rfl

/-- **An escaped literal is read as that literal.** -/
theorem parse?_escape (literal : Text) : parse? (escape literal) = some (ofLiteral literal) := by
  have hlength := Nat.lt_succ_of_le (length_le_length_escape literal)
  obtain ⟨hlevel, hnames⟩ := level_pushAll {} literal
  obtain ⟨hnode, hheight⟩ := concat_charItem literal
  have hitem : (pushAll {} literal).level.item = Item.concat (literal.map charItem) := by
    rw [hlevel, Level.item]
    simp [Item.alternate]
  rw [parse?, iterate_escape rfl rfl literal hlength]
  simp only [hitem, hnode, hnames]
  rw [if_pos (Nat.le_trans hheight (by decide)), ofNode_literalNode]

end Sweep.Regex

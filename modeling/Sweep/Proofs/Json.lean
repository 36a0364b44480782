import Sweep.Json.Value
import Sweep.Proofs.Instruction

/-!
# Reading what was written as JSON

A quoted text is one token, and it stands for the text that was quoted. What a longer text is read
as is put together from its parts: each spells its own tokens, whatever follows it.
-/

namespace Sweep.Json

/-! ### Quoted texts -/

section Quoted

variable {c : Char}

theorem hexNumber_hexByte {n : Nat} (h : n < 0x20) :
    ('0' :: '0' :: hexByte n).all isHexDigit = true ∧ hexNumber ('0' :: '0' :: hexByte n) = n := by
  have hall : ∀ n < 0x20, ('0' :: '0' :: hexByte n).all isHexDigit = true ∧
      hexNumber ('0' :: '0' :: hexByte n) = n := by decide
  exact hall n h

theorem readUnits_shortEscape {letter : Char} (h : shortEscape? c = some letter) (rest : Text) :
    readUnits ('\\' :: letter :: rest) =
      (readUnits rest).map fun (units, length) => (c.toNat :: units, length + 2) := by
  unfold shortEscape? at h
  split at h <;> cases h <;> rfl

/-- Control characters without a letter of their own are written by their number. -/
theorem readUnits_control (hc : c.toNat < 0x20) (rest : Text) :
    readUnits ("\\u00".toList ++ hexByte c.toNat ++ rest) =
      (readUnits rest).map fun (units, length) => (c.toNat :: units, length + 6) := by
  have hbyte := hexNumber_hexByte hc
  unfold hexByte at hbyte
  change readUnits ('\\' :: 'u' :: '0' :: '0' :: _ :: _ :: rest) = _
  rw [readUnits, if_pos hbyte.1, hbyte.2]

theorem readUnits_plain (hescape : shortEscape? c = none) (hc : ¬c.toNat < 0x20) (rest : Text) :
    readUnits (c :: rest) =
      (readUnits rest).map fun (units, length) => (c.toNat :: units, length + 1) := by
  have hquote : c ≠ '"' := by
    rintro rfl
    cases hescape
  have hbackslash : c ≠ '\\' := by
    rintro rfl
    cases hescape
  rw [readUnits, if_neg hc]
  · exact hquote
  · intro _ _ _ _ _ h
    exact absurd h hbackslash
  · intro _ _ h
    exact absurd h hbackslash

theorem readUnits_escape (c : Char) (rest : Text) :
    readUnits (escape c ++ rest) = (readUnits rest).map fun (units, length) =>
      (c.toNat :: units, length + (escape c).length) := by
  unfold escape
  cases hescape : shortEscape? c with
  | some letter => exact readUnits_shortEscape hescape rest
  | none =>
    by_cases hc : c.toNat < 0x20
    · rw [if_pos hc]
      exact readUnits_control hc rest
    · rw [if_neg hc]
      exact readUnits_plain hescape hc rest

theorem readUnits_quote (t rest : Text) :
    readUnits (t.flatMap escape ++ '"' :: rest) =
      some (t.map Char.toNat, (t.flatMap escape).length + 1) := by
  induction t with
  | nil => rfl
  | cons c t ih =>
    rw [List.flatMap_cons, List.append_assoc, readUnits_escape, ih]
    simp only [Option.map_some, List.map_cons, List.length_append, Option.some.injEq,
      Prod.mk.injEq, true_and]
    omega

/-- No character is a surrogate. -/
theorem isSurrogate_toNat (c : Char) :
    isHighSurrogate c.toNat = false ∧ isLowSurrogate c.toNat = false := by
  have hvalid : c.toNat < 0xD800 ∨ 0xDFFF < c.toNat := c.valid.imp_right And.left
  unfold isHighSurrogate isLowSurrogate
  simp only [Bool.and_eq_false_iff, decide_eq_false_iff_not]
  omega

theorem ofUnits?_toNat (t : Text) : ofUnits? (t.map Char.toNat) = some t := by
  induction t with
  | nil => rfl
  | cons c t ih =>
    obtain ⟨hhigh, hlow⟩ := isSurrogate_toNat c
    cases t with
    | nil =>
      rw [List.map_singleton, ofUnits?, hhigh, hlow, Char.ofNat_toNat]
      rfl
    | cons d t =>
      rw [List.map_cons, List.map_cons, ofUnits?, hhigh, hlow, ← List.map_cons, ih,
        Char.ofNat_toNat]
      rfl

end Quoted

/-! ### The tokens of a text -/

/-- Whatever follows the text, it is read as these tokens and what follows is read on its own. -/
def Spells (t : Text) (tokens : List Token) : Prop :=
  ∀ rest, tokensFrom? 0 (t ++ rest) = (tokensFrom? 0 rest).map (tokens ++ ·)

section Spells

variable {t u : Text} {tokens others : List Token} {token : Token} {c : Char}

theorem spells_nil : Spells [] [] := by
  intro rest
  cases h : tokensFrom? 0 rest with
  | none => simp [h]
  | some following => simp [h]

theorem Spells.append (ht : Spells t tokens) (hu : Spells u others) :
    Spells (t ++ u) (tokens ++ others) := by
  intro rest
  rw [List.append_assoc, ht, hu, Option.map_map]
  refine congrArg (Option.map · _) (funext fun following => ?_)
  exact (List.append_assoc tokens others following).symm

theorem Spells.flatMap {α : Type} {f : α → Text} {g : α → List Token} {as : List α}
    (h : ∀ a ∈ as, Spells (f a) (g a)) : Spells (as.flatMap f) (as.flatMap g) := by
  induction as with
  | nil => exact spells_nil
  | cons a as ih =>
    rw [List.flatMap_cons, List.flatMap_cons]
    exact (h a List.mem_cons_self).append (ih fun b hb => h b (List.mem_cons_of_mem a hb))

theorem spells_spaces (h : t.all isSpace = true) : Spells t [] := by
  induction t with
  | nil => exact spells_nil
  | cons c t ih =>
    rw [List.all_cons, Bool.and_eq_true] at h
    intro rest
    rw [← ih h.2 rest, List.cons_append, tokensFrom?, if_pos h.1]

theorem tokensFrom?_append (t rest : Text) :
    tokensFrom? t.length (t ++ rest) = tokensFrom? 0 rest := by
  induction t with
  | nil => rfl
  | cons c t ih => exact ih

theorem spells_token (hc : isSpace c = false)
    (h : ∀ rest, Token.read? c (t ++ rest) = some (token, t.length)) :
    Spells (c :: t) [token] := by
  intro rest
  rw [List.cons_append, tokensFrom?, hc, h, if_neg Bool.false_ne_true]
  simp only [tokensFrom?_append, List.singleton_append]

theorem spells_quote (t : Text) : Spells (quote t) [.string (some t)] := by
  change Spells ('"' :: (t.flatMap escape ++ ['"'])) _
  refine spells_token rfl fun rest => ?_
  rw [Token.read?, List.append_assoc, List.singleton_append, readUnits_quote]
  simp only [Option.map_some, ofUnits?_toNat, List.length_append, List.length_singleton]

theorem spells_word {word : Text} (hc : isSpace c = false)
    (h : ∀ rest, Token.read? c rest = word? word token rest) : Spells (c :: word) [token] := by
  refine spells_token hc fun rest => ?_
  rw [h, word?, Text.after?_eq_some_iff.2 rfl]
  rfl

theorem Spells.tokens? (h : Spells t tokens) : tokens? t = some tokens := by
  have hall := h []
  rwa [List.append_nil, tokensFrom?, Option.map_some, List.append_nil] at hall

end Spells

/-! ### The value of some tokens -/

section Reading

open Reading

variable {r next : Reading} {frames : List Frame}

theorem readAll?_append {tokens : List Token} (h : readAll? r tokens = some next)
    (others : List Token) : readAll? r (tokens ++ others) = readAll? next others := by
  induction tokens generalizing r with
  | nil => rw [List.nil_append, Option.some.inj h]
  | cons token tokens ih =>
    rw [readAll?] at h
    rw [List.cons_append, readAll?]
    cases hstep : r.step? token with
    | none =>
      rw [hstep] at h
      cases h
    | some following =>
      rw [hstep] at h
      exact ih h

/-- The tokens of an array of texts. -/
def arrayTokens : List Text → List Token
  | [] => [.openArray, .closeArray]
  | t :: others =>
    .openArray :: .string (some t) ::
      (others.flatMap fun u => [.comma, .string (some u)]) ++ [.closeArray]

theorem readAll?_items (texts : List Text) (v : Value) (before : List Value) :
    readAll? (.complete v (.array before :: frames))
        ((texts.flatMap fun u => [.comma, .string (some u)]) ++ [.closeArray]) =
      some (.complete (.array ((v :: before).reverse ++ texts.map (.string <| some ·)))
        frames) := by
  induction texts generalizing v before with
  | nil => rw [List.map_nil, List.append_nil]; rfl
  | cons t texts ih =>
    have hnext := ih (.string (some t)) (v :: before)
    rw [List.reverse_cons, List.append_assoc, List.singleton_append] at hnext
    exact hnext

theorem readAll?_array (texts : List Text) :
    readAll? (.value frames) (arrayTokens texts) =
      some (.complete (.array (texts.map (.string <| some ·))) frames) := by
  cases texts with
  | nil => rfl
  | cons t others => exact readAll?_items others (.string (some t)) []

end Reading

end Sweep.Json

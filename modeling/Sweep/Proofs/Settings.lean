import Sweep.Configuration.File
import Sweep.Machine.Memory
import Sweep.Proofs.Following
import Sweep.Proofs.Json
import Sweep.Proofs.Phases

/-!
# Settings that are saved and loaded

A file of settings is read as the settings that were written to it, so the defaults never take
their place. Where a path can be written, it leads to what was written under it afterwards.
-/

namespace Sweep

namespace Configuration

open Json

/-! ### The text of settings -/

theorem spells_bool (b : Bool) :
    Spells (if b then "true".toList else "false".toList) [.bool b] := by
  cases b with
  | false =>
    have hword : "false".toList = 'f' :: "alse".toList := by decide
    rw [if_neg Bool.false_ne_true, hword]
    exact spells_word rfl fun rest => rfl
  | true =>
    have hword : "true".toList = 't' :: "rue".toList := by decide
    rw [if_pos rfl, hword]
    exact spells_word rfl fun rest => rfl

theorem spells_renderTexts (texts : List Text) :
    Spells (renderTexts texts) (arrayTokens texts) := by
  have hopen : Spells ['['] [.openArray] := spells_token rfl fun rest => rfl
  have hclose : Spells [']'] [.closeArray] := spells_token rfl fun rest => rfl
  have hcomma : Spells [','] [.comma] := spells_token rfl fun rest => rfl
  have hline : Spells ['\n'] [] := spells_spaces rfl
  have hitem (t : Text) : Spells ("    ".toList ++ quote t) [.string (some t)] :=
    (spells_spaces (by decide)).append (spells_quote t)
  cases texts with
  | nil => exact hopen.append hclose
  | cons t others =>
    have hothers : Spells (others.flatMap fun u => ",\n".toList ++ ("    ".toList ++ quote u))
        (others.flatMap fun u => [.comma, .string (some u)]) :=
      .flatMap fun u _ => hcomma.append (hline.append (hitem u))
    have hend : Spells ("\n  ".toList ++ [']']) [.closeArray] :=
      (spells_spaces (by decide)).append hclose
    have hall := ((hopen.append (hline.append (hitem t))).append hothers).append hend
    rw [renderTexts, List.map_cons, Text.join_cons, List.flatMap_map]
    · exact hall
    · exact List.cons_ne_nil _ _

/-- The tokens of settings: an object with both fields. -/
def fieldTokens (c : Configuration) : List Token :=
  [.openObject, .string (some "exclude".toList), .colon] ++ arrayTokens c.exclude ++
    [.comma, .string (some "dry_run".toList), .colon] ++ [.bool c.dryRun] ++ [.closeObject]

theorem spells_render (c : Configuration) : Spells c.render (fieldTokens c) := by
  have hopen : Spells ['\x7b'] [.openObject] := spells_token rfl fun rest => rfl
  have hclose : Spells ['\x7d'] [.closeObject] := spells_token rfl fun rest => rfl
  have hcomma : Spells [','] [.comma] := spells_token rfl fun rest => rfl
  have hcolon : Spells [':'] [.colon] := spells_token rfl fun rest => rfl
  have hfield (key : Text) :
      Spells ("\n  ".toList ++ quote key ++ ": ".toList) [.string (some key), .colon] :=
    ((spells_spaces (by decide)).append (spells_quote key)).append
      (hcolon.append (spells_spaces (t := [' ']) rfl))
  have hexclude : Spells "\x7b\n  \"exclude\": ".toList
      [.openObject, .string (some "exclude".toList), .colon] := by
    -- The program writes this as one string; its parts spell the tokens.
    have hparts : "\x7b\n  \"exclude\": ".toList =
        ['\x7b'] ++ ("\n  ".toList ++ quote "exclude".toList ++ ": ".toList) := by decide
    rw [hparts]
    exact hopen.append (hfield _)
  have hdryRun : Spells ",\n  \"dry_run\": ".toList
      [.comma, .string (some "dry_run".toList), .colon] := by
    have hparts : ",\n  \"dry_run\": ".toList =
        [','] ++ ("\n  ".toList ++ quote "dry_run".toList ++ ": ".toList) := by decide
    rw [hparts]
    exact hcomma.append (hfield _)
  have hend : Spells (['\n'] ++ ['\x7d']) [.closeObject] := (spells_spaces rfl).append hclose
  exact (((hexclude.append (spells_renderTexts c.exclude)).append hdryRun).append
    (spells_bool c.dryRun)).append hend

/-! ### The settings of a text -/

/-- The value of settings: an object with both fields. -/
def fieldsValue (c : Configuration) : Value :=
  .object [(some "exclude".toList, .array (c.exclude.map (.string <| some ·))),
    (some "dry_run".toList, .bool c.dryRun)]

theorem readAll?_fieldTokens (c : Configuration) :
    (Reading.value []).readAll? (fieldTokens c) = some (.complete (fieldsValue c) []) := by
  have harray : (Reading.value [.object [] (some "exclude".toList)]).readAll?
      (arrayTokens c.exclude) = some _ := readAll?_array c.exclude
  have hfields := readAll?_append harray
    ([.comma, .string (some "dry_run".toList), .colon] ++ [.bool c.dryRun] ++ [.closeObject])
  unfold fieldTokens
  simp only [List.append_assoc]
  exact hfields

theorem textsOf?_texts (texts : List Text) :
    textsOf? (.array (texts.map (.string <| some ·))) = some texts := by
  rw [textsOf?]
  induction texts with
  | nil => rfl
  | cons t others ih =>
    rw [List.map_cons, List.mapM_cons, ih]
    rfl

theorem ofValue?_fieldsValue (c : Configuration) : ofValue? (fieldsValue c) = some c := by
  have hexclude : ({} : Fields).add? (some "exclude".toList)
      (.array (c.exclude.map (.string <| some ·))) = some { exclude := some c.exclude } := by
    rw [Fields.add?, if_pos rfl, textsOf?_texts]
    rfl
  have hdryRun : ({ exclude := some c.exclude } : Fields).add? (some "dry_run".toList)
      (.bool c.dryRun) = some ⟨some c.exclude, some c.dryRun⟩ := by
    rw [Fields.add?, if_neg (by decide), if_pos rfl]
    rfl
  rw [fieldsValue, ofValue?, Fields.addAll?, hexclude, Option.bind_some, Fields.addAll?, hdryRun,
    Option.bind_some]
  rfl

/-- What was written of settings is read as these settings. -/
theorem parse?_render (c : Configuration) : parse? c.render = some c := by
  rw [parse?, Value.parse?, (spells_render c).tokens?, Option.bind_some, readAll?_fieldTokens]
  exact ofValue?_fieldsValue c

/-! ### The file of settings -/

theorem run_loadFrom (p : Path) (s : MemoryMachine) :
    (loadFrom MemoryMachine.machine p).run s = (load (s.tree.read p).toOption, s) := by
  have hread : MemoryMachine.machine.read p s = (s.tree.read p, s) := rfl
  refine (bind_of_eq hread _).trans ?_
  cases s.tree.read p with
  | error fault => rfl
  | ok content => rfl

/-- **Saving and loading keeps the settings.** The text of any settings can be read, as these
settings. So wherever a file can be written, saving settings there succeeds, and loading them from
there gives them back. -/
theorem load_save (c : Configuration) :
    (Bytes.text? c.render.bytes).bind parse? = some c ∧
      ∀ (p : Path) (content : Bytes) (s : MemoryMachine) (tree : FileTree),
        s.tree.write p content = .ok tree →
          ∃ saved, (c.saveTo MemoryMachine.machine p).run s = (.ok (), saved) ∧
            (loadFrom MemoryMachine.machine p).run saved = (c, saved) := by
  have hparse : (Bytes.text? c.render.bytes).bind parse? = some c := by
    rw [Bytes.text?_bytes, Option.bind_some, parse?_render]
  refine ⟨hparse, fun p content s tree h => ?_⟩
  obtain ⟨l, hplace, -⟩ := FileTree.write_eq_ok_iff.1 h
  have hwrite : s.tree.write p c.render.bytes = .ok (s.tree.putFile l c.render.bytes) :=
    FileTree.write_eq_ok_iff.2 ⟨l, hplace, rfl⟩
  refine ⟨{ s with tree := s.tree.putFile l c.render.bytes }, ?_, ?_⟩
  · change MemoryMachine.change (fun tree => tree.write p c.render.bytes) s = _
    rw [MemoryMachine.change, hwrite]
  · rw [run_loadFrom, FileTree.read_of_write hwrite]
    change (((Bytes.text? c.render.bytes).bind parse?).getD {}, _) = _
    rw [hparse]
    rfl

/-- Quotes, backslashes, control characters and the empty text survive. -/
theorem load_save_escapes :
    let c : Configuration := ⟨[['"', '\\', '\n', '\x00', '\x7f', 'ß'], []], true⟩
    ({} : FileTree).write ⟨['c']⟩ [] = .ok { files := [([['c']], [])] } ∧
      ∃ saved, (c.saveTo MemoryMachine.machine ⟨['c']⟩).run {} = (.ok (), saved) ∧
        (loadFrom MemoryMachine.machine ⟨['c']⟩).run saved = (c, saved) := by
  have hwrite : ({} : FileTree).write ⟨['c']⟩ [] = .ok { files := [([['c']], [])] } := by rfl
  exact ⟨hwrite, (load_save _).2 ⟨['c']⟩ [] {} _ hwrite⟩

end Configuration

end Sweep

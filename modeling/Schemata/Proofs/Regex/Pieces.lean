import Schemata.Proofs.Format.Examples
import Schemata.Proofs.Regex.Build
import Schemata.Regex.Basic

/-!
# Patterns of digits in groups

* `Parser.loop`, `Parser.pattern_eq` : the loops of the reading, without their counters;
* `Parser.before` : a reading that stands before some characters; `run_counted`, `run_setClass`, ... : what the forms
  of the syntax read there;
* `Piece` : the parts of a pattern that asks for digits in groups, and the blanks that may stand around it;
* `Parser.exists_loop_pieces` : the reading goes from piece to piece;
* `spans_iff_of_compile` : the expression of such a pattern matches what its pieces match one after the other;
* `isMatch_of_fitsAll`, `mem_of_isMatch` : hence it matches a text that the pieces fit, and only texts that have all
  characters among the pieces.
-/

namespace Schemata.Regex

open Schemata.Text (isBlank)

namespace Parser

/-! ## Loops -/

/-- A loop that does not look at its counter. -/
def loop {β : Type} (body : β → Parser (ForInStep β)) : Nat → β → Parser β
  | 0, b => pure b
  | n + 1, b => do
    match ← body b with
    | .done b => pure b
    | .yield b => loop body n b

theorem forIn_range_eq_loop {β : Type} (body : β → Parser (ForInStep β)) (n : Nat) (b : β) :
    forIn [:n] b (fun _ b => body b) = loop body n b := by
  rw [Std.Legacy.Range.forIn_eq_forIn_range']
  simp only [Std.Legacy.Range.size, Nat.sub_zero, Nat.add_sub_cancel, Nat.div_one]
  suffices ∀ start, forIn (List.range' start n 1) b (fun _ b => body b) = loop body n b from this 0
  intro start
  induction n generalizing b start with
  | zero => rfl
  | succ n ih =>
    rw [List.range'_succ, List.forIn_cons, loop]
    congr 1
    funext r
    cases r with
    | done b => rfl
    | yield b => exact ih b _

/-- One round of the reading of a pattern. -/
def step (r : List Frame × Sequence) : Parser (ForInStep (List Frame × Sequence)) := do
  let (stack, s) := r
  skipSpace
  match ← current? with
  | none => return .done (stack, s)
  | some '(' => return .yield (← openGroup stack s)
  | some ')' => return .yield (← closeGroup stack s)
  | some '|' =>
    let stack := pushBranch stack s (← place)
    let _ ← bump
    return .yield (stack, ⟨← place, []⟩)
  | some '[' => return .yield (stack, { s with parts := (← setClass) :: s.parts })
  | some '?' => return .yield (stack, { s with parts := ← uncounted s.parts 0 (some 1) })
  | some '*' => return .yield (stack, { s with parts := ← uncounted s.parts 0 none })
  | some '+' => return .yield (stack, { s with parts := ← uncounted s.parts 1 none })
  | some '\x7b' => return .yield (stack, { s with parts := ← counted s.parts })
  | some '\\' => return .yield (stack, { s with parts := (← escape).toAst :: s.parts })
  | some c =>
    let span ← currentSpan
    let _ ← bump
    let ast := match c with
      | '.' => .dot span
      | '^' => .assertion span .startLine
      | '$' => .assertion span .endLine
      | c => .literal ⟨span, c, false⟩
    return .yield (stack, { s with parts := ast :: s.parts })

theorem pattern_eq : pattern = do
    let start ← place
    let (stack, s) ← loop step ((← left) + 1) ([], ⟨start, []⟩)
    let stop ← place
    let (rest, ast) := closeAlternation stack (s.toAst stop) stop
    match rest with
    | .group _ span _ _ :: _ => fail .groupUnclosed span
    | _ => return ast := by
  simp only [pattern, forIn_range_eq_loop]
  rfl

/-! ## Single steps -/

/-- The reading stands before some characters; blanks count, and no group was opened. -/
def before (rest : List Char) (p : Place) : Scan := ⟨rest, p, false, 0, []⟩

/-- The place after some characters. -/
def after (p : Place) (read : List Char) : Place := read.foldl advance p

variable {rest : List Char} {p : Place} {c : Char}

@[simp] theorem run_place : place.run (before rest p) = pure (p, before rest p) := rfl

@[simp] theorem run_current? : current?.run (before rest p) = pure (rest.head?, before rest p) := rfl

@[simp] theorem run_atEnd : atEnd.run (before rest p) = pure (rest.isEmpty, before rest p) := rfl

@[simp] theorem run_left : left.run (before rest p) = pure (rest.length, before rest p) := rfl

@[simp] theorem run_skipSpace : skipSpace.run (before rest p) = pure ((), before rest p) := rfl

@[simp] theorem run_currentSpan :
    currentSpan.run (before (c :: rest) p) = pure (⟨p, advance p c⟩, before (c :: rest) p) := rfl

@[simp] theorem run_bump : bump.run (before (c :: rest) p) = pure (!rest.isEmpty, before rest (advance p c)) := rfl

@[simp] theorem run_bumpSpace :
    bumpSpace.run (before (c :: rest) p) = pure (!rest.isEmpty, before rest (advance p c)) := by
  cases rest <;> rfl

/-! ## Forms of the syntax -/

theorem isEscapable_d : isEscapable 'd' = false := by
  rw [isEscapable, isMeta, String.contains_char_eq]
  decide

theorem run_escape_digit : escape.run (before ('\\' :: 'd' :: rest) p) =
    pure (.escape (.perl ⟨p, after p ['\\', 'd']⟩ .digit false), before rest (after p ['\\', 'd'])) := by
  simp [escape, isEscapable_d, after]

theorem run_openBracket : openBracket.run (before ('[' :: '0' :: rest) p) =
    pure ((⟨p, after p ['[']⟩, false, ⟨⟨after p ['['], after p ['[']⟩, []⟩), before ('0' :: rest) (after p ['['])) := by
  simp only [openBracket, forIn_range_eq_loop]
  rfl

theorem run_setRange (stack : List ClassFrame) :
    (setRange stack).run (before ('0' :: '-' :: '9' :: ']' :: rest) p) =
      pure ((.range ⟨⟨p, after p ['0']⟩, '0', false⟩ ⟨⟨after p ['0', '-'], after p ['0', '-', '9']⟩, '9', false⟩,
        ⟨p, after p ['0', '-', '9']⟩), before (']' :: rest) (after p ['0', '-', '9'])) := rfl

theorem run_operation? : operation?.run (before ('0' :: rest) p) = pure (none, before ('0' :: rest) p) := rfl

theorem run_setClass : setClass.run (before ("[0-9]".toList ++ rest) p) =
    pure (.bracketed ⟨p, after p "[0-9]".toList⟩ false
        (.range ⟨⟨after p ['['], after p "[0".toList⟩, '0', false⟩
          ⟨⟨after p "[0-".toList, after p "[0-9".toList⟩, '9', false⟩),
      before rest (after p "[0-9]".toList)) := by
  simp only [setClass, forIn_range_eq_loop]
  simp [loop, here, run_openBracket, run_operation?, run_setRange, closeOperation, Items.push, Items.toAst, after]

theorem isBlank_of_isDigit (h : c.isDigit = true) : isBlank c = false := by
  have hcode := Format.toNat_of_isDigit h
  simp only [isBlank, Bool.or_eq_false_iff, Bool.and_eq_false_iff, decide_eq_false_iff_not, beq_eq_false_iff_ne]
  omega

theorem run_decimal (h : c.isDigit = true) : decimal.run (before (c :: '\x7d' :: rest) p) =
    pure (.ok (c.toNat - 48), before ('\x7d' :: rest) (advance p c)) := by
  have hblank : isBlank c = false := isBlank_of_isDigit h
  have hbrace : isBlank '\x7d' = false := by decide
  have hcode := Format.toNat_of_isDigit h
  have hmin : (c.toNat - 48).min 0x100000000 = c.toNat - 48 := Nat.min_eq_left (by omega)
  have hlt : c.toNat - 48 < 0x100000000 := by omega
  simp only [decimal, forIn_range_eq_loop]
  simp [loop, hblank, h, hbrace, hmin, hlt]

theorem run_counted (h : c.isDigit = true) (hrest : rest.head? ≠ some '?') {ast : Ast} {start : Place}
    (hstart : ast.start? = some start) (parts : List Ast) :
    (counted (ast :: parts)).run (before ('\x7b' :: c :: '\x7d' :: rest) p) =
      pure (.repetition ⟨start, after p ['\x7b', c, '\x7d']⟩ (c.toNat - 48) (some (c.toNat - 48)) true ast :: parts,
        before rest (after p ['\x7b', c, '\x7d'])) := by
  have hoperand : operand (ast :: parts) = pure (ast, parts) := by
    cases ast <;> first | rfl | cases hstart
  simp [counted, run_decimal h, hoperand, counted.liftExcept, repeated, hstart, after, hrest]

end Parser

/-! ## Pieces -/

/-- A part of a pattern: a test of an end of the text, a character that stands for itself, or one of the spellings of
a class of digits with a count of one digit. -/
inductive Piece where
  | start
  | stop
  | char (c : Char) (plain : isBlank c = true ∨ c = '-')
  | digits (anyScript : Bool) (count : Char) (many : count ∈ "23456789".toList)

namespace Piece

def text : Piece → List Char
  | start => ['^']
  | stop => ['$']
  | char c _ => [c]
  | digits anyScript count _ => (if anyScript then "\\d".toList else "[0-9]".toList) ++ ['\x7b', count, '\x7d']

def digitSet (anyScript : Bool) : CharSet := if anyScript then Unicode.digits else .ofRanges [(48, 57)]

def expr : Piece → Expr
  | start => .look .startText
  | stop => .look .endText
  | char c _ => .literal [c]
  | digits anyScript count _ =>
    .repetition (count.toNat - 48) (some (count.toNat - 48)) true (.ofSet false (digitSet anyScript))

theorem isDigit_of_mem {c : Char} (h : c ∈ "23456789".toList) : c.isDigit = true ∧ 2 ≤ c.toNat - 48 := by
  have hall : "23456789".toList.all (fun c => c.isDigit && decide (2 ≤ c.toNat - 48)) = true := by decide
  simpa using List.all_eq_true.1 hall c h

theorem head?_text_ne (piece : Piece) (rest : List Char) : (piece.text ++ rest).head? ≠ some '?' := by
  cases piece with
  | start => simp [text]
  | stop => simp [text]
  | char c plain =>
    rintro ⟨⟩
    exact absurd plain (by decide)
  | digits anyScript count many => cases anyScript <;> simp [text]

theorem head?_flatMap_text_ne (pieces : List Piece) : (pieces.flatMap text).head? ≠ some '?' := by
  cases pieces with
  | nil => simp
  | cons piece rest => exact head?_text_ne piece _

end Piece

namespace Parser

variable {rest : List Char} {p : Place} {stack : List Frame} {s : Sequence}

theorem run_loop_yield {β : Type} {body : β → Parser (ForInStep β)} {b b' : β} {scan scan' : Scan}
    (h : (body b).run scan = pure (.yield b', scan')) (n : Nat) :
    (loop body (n + 1) b).run scan = (loop body n b').run scan' := by
  rw [loop, StateT.run_bind, h, pure_bind]

theorem run_loop_done {β : Type} {body : β → Parser (ForInStep β)} {b b' : β} {scan scan' : Scan}
    (h : (body b).run scan = pure (.done b', scan')) (n : Nat) :
    (loop body (n + 1) b).run scan = pure (b', scan') := by
  rw [loop, StateT.run_bind, h, pure_bind]
  rfl

theorem run_step_end : (step (stack, s)).run (before [] p) = pure (.done (stack, s), before [] p) := rfl

theorem run_step_char {c : Char} (plain : isBlank c = true ∨ c = '-') :
    (step (stack, s)).run (before (c :: rest) p) =
      pure (.yield (stack, { s with parts := .literal ⟨⟨p, advance p c⟩, c, false⟩ :: s.parts }),
        before rest (advance p c)) := by
  simp only [step, StateT.run_bind, run_skipSpace, pure_bind, run_current?, List.head?_cons]
  -- No character with a meaning of its own is a blank or a hyphen.
  split
  all_goals try (rename_i heq; cases heq; exact absurd plain (by decide))
  · rename_i heq
    exact nomatch heq
  · rename_i heq
    cases heq
    simp only [StateT.run_bind, run_currentSpan, run_bump, pure_bind, StateT.run_pure]
    split
    all_goals try exact absurd plain (by decide)
    rfl

theorem run_step_start : (step (stack, s)).run (before ('^' :: rest) p) =
    pure (.yield (stack, { s with parts := .assertion ⟨p, advance p '^'⟩ .startLine :: s.parts }),
      before rest (advance p '^')) := rfl

theorem run_step_stop : (step (stack, s)).run (before ('$' :: rest) p) =
    pure (.yield (stack, { s with parts := .assertion ⟨p, advance p '$'⟩ .endLine :: s.parts }),
      before rest (advance p '$')) := rfl

theorem elaborate_digit_range (span first last : Span) :
    (Ast.bracketed span false (.range ⟨first, '0', false⟩ ⟨last, '9', false⟩)).elaborate {} =
      .ok (.ofSet false (Piece.digitSet false), {}) := by
  have hcode : ∀ l : Literal, Flags.classCode {} l = .ok l.char.toNat := fun _ => rfl
  have hfinish : ∀ set, Flags.finish {} span false set = .ok set := fun _ => rfl
  have hrange : (SetAst.range ⟨first, '0', false⟩ ⟨last, '9', false⟩).elaborate {} = .ok (.ofRanges [(48, 57)]) := by
    rw [SetAst.elaborate, hcode, hcode]
    rfl
  rw [Ast.elaborate, hrange]
  show (do let set ← Flags.finish {} span false _; return (Expr.ofSet false set, ({} : Flags))) = Except.ok _
  rw [hfinish]
  rfl

theorem elaborate_digit_escape (span : Span) : (Ast.escape (.perl span .digit false)).elaborate {} =
    .ok (.ofSet false (Piece.digitSet true), {}) := by
  have hset : ClassEscape.elaborate {} (.perl span .digit false) = .ok Unicode.digits := rfl
  rw [Ast.elaborate, hset]
  rfl

theorem run_step_digit_escape : (step (stack, s)).run (before ("\\d".toList ++ rest) p) =
    pure (.yield (stack, { s with parts := .escape (.perl ⟨p, after p ['\\', 'd']⟩ .digit false) :: s.parts }),
      before rest (after p ['\\', 'd'])) := by
  have htext : "\\d".toList ++ rest = '\\' :: 'd' :: rest := rfl
  rw [htext]
  simp only [step, StateT.run_bind, run_skipSpace, pure_bind, run_current?, List.head?_cons, run_escape_digit]
  rfl

theorem run_step_digit_range : (step (stack, s)).run (before ("[0-9]".toList ++ rest) p) =
    pure (.yield (stack, { s with
        parts := .bracketed ⟨p, after p "[0-9]".toList⟩ false
          (.range ⟨⟨after p ['['], after p "[0".toList⟩, '0', false⟩
            ⟨⟨after p "[0-".toList, after p "[0-9".toList⟩, '9', false⟩) :: s.parts }),
      before rest (after p "[0-9]".toList)) := by
  have hhead : ("[0-9]".toList ++ rest).head? = some '[' := rfl
  simp only [step, StateT.run_bind, run_skipSpace, pure_bind, run_current?, hhead, run_setClass, StateT.run_pure]

theorem exists_run_step_digits (anyScript : Bool) (rest : List Char) (p : Place) (stack : List Frame) (s : Sequence) :
    ∃ ast start p', ast.start? = some start ∧
      ast.elaborate {} = .ok (.ofSet false (Piece.digitSet anyScript), {}) ∧
      (step (stack, s)).run (before ((if anyScript then "\\d".toList else "[0-9]".toList) ++ rest) p) =
        pure (.yield (stack, { s with parts := ast :: s.parts }), before rest p') := by
  cases anyScript with
  | true => exact ⟨_, _, _, rfl, elaborate_digit_escape _, run_step_digit_escape⟩
  | false => exact ⟨_, _, _, rfl, elaborate_digit_range .., run_step_digit_range⟩

theorem run_step_count {c : Char} (h : c.isDigit = true) (hrest : rest.head? ≠ some '?') {ast : Ast} {start : Place}
    (hstart : ast.start? = some start) :
    (step (stack, { s with parts := ast :: s.parts })).run (before ('\x7b' :: c :: '\x7d' :: rest) p) =
      pure (.yield (stack, { s with
          parts := .repetition ⟨start, after p ['\x7b', c, '\x7d']⟩ (c.toNat - 48) (some (c.toNat - 48)) true ast ::
            s.parts }),
        before rest (after p ['\x7b', c, '\x7d'])) := by
  simp only [step, StateT.run_bind, run_skipSpace, pure_bind, run_current?, List.head?_cons,
    run_counted h hrest hstart, StateT.run_pure]

theorem elaborate_repetition {ast : Ast} {set : CharSet} {n : Nat} (h : ast.elaborate {} = .ok (.ofSet false set, {}))
    (many : 2 ≤ n) (span : Span) :
    (Ast.repetition span n (some n) true ast).elaborate {} =
      .ok (.repetition n (some n) true (.ofSet false set), {}) := by
  have hrepeated : Expr.repeated n (some n) true (.ofSet false set) =
      .repetition n (some n) true (.ofSet false set) := by
    rw [Expr.repeated, if_neg (Expr.maxBytes?_ofSet_ne_zero false set)]
    dsimp only
    rw [if_neg (by omega), if_neg (by omega)]
  rw [Ast.elaborate, h, ← hrepeated]
  rfl

theorem elaborateList_cons {ast : Ast} {asts : List Ast} {e : Expr} {es : List Expr}
    (h : ast.elaborate {} = .ok (e, {})) (hrest : Ast.elaborateList {} asts = .ok (es, {})) :
    Ast.elaborateList {} (ast :: asts) = .ok (e :: es, {}) := by
  rw [Ast.elaborateList, h]
  show Ast.elaborateList {} asts >>= _ = _
  rw [hrest]
  rfl

/-- The reading goes past a piece and leaves its tree behind. It takes no more rounds than the piece has characters. -/
theorem exists_loop_piece (piece : Piece) {rest : List Char} (hrest : rest.head? ≠ some '?') (p : Place)
    (stack : List Frame) (s : Sequence) :
    ∃ ast p', ast.elaborate {} = .ok (piece.expr, {}) ∧ ∀ n, ∃ m ≥ n,
      (loop step (n + piece.text.length) (stack, s)).run (before (piece.text ++ rest) p) =
        (loop step m (stack, { s with parts := ast :: s.parts })).run (before rest p') := by
  cases piece with
  | start => exact ⟨_, _, rfl, fun n => ⟨n, Nat.le_refl n, run_loop_yield run_step_start n⟩⟩
  | stop => exact ⟨_, _, rfl, fun n => ⟨n, Nat.le_refl n, run_loop_yield run_step_stop n⟩⟩
  | char c plain => exact ⟨_, _, rfl, fun n => ⟨n, Nat.le_refl n, run_loop_yield (run_step_char plain) n⟩⟩
  | digits anyScript count many =>
    obtain ⟨hdigit, htwo⟩ := Piece.isDigit_of_mem many
    obtain ⟨ast, start, p', hstart, helaborate, hclass⟩ :=
      exists_run_step_digits anyScript ('\x7b' :: count :: '\x7d' :: rest) p stack s
    have hlength : ∃ extra, (Piece.digits anyScript count many).text.length = extra + 2 := by
      cases anyScript with
      | true => exact ⟨3, rfl⟩
      | false => exact ⟨6, rfl⟩
    obtain ⟨extra, hextra⟩ := hlength
    let after' := after p' ['\x7b', count, '\x7d']
    refine ⟨_, after', elaborate_repetition helaborate htwo ⟨start, after'⟩, fun n => ⟨n + extra, Nat.le_add_right .., ?_⟩⟩
    rw [hextra, Piece.text, List.append_assoc]
    -- One round reads the class, and another one its count.
    exact (run_loop_yield hclass _).trans (run_loop_yield (run_step_count hdigit hrest hstart) _)

theorem exists_loop_pieces (pieces : List Piece) (p : Place) (stack : List Frame) (s : Sequence) :
    ∃ asts p', Ast.elaborateList {} asts = .ok (pieces.map Piece.expr, {}) ∧ ∀ n, ∃ m ≥ n,
      (loop step (n + (pieces.flatMap Piece.text).length) (stack, s)).run (before (pieces.flatMap Piece.text) p) =
        (loop step m (stack, { s with parts := asts.reverse ++ s.parts })).run (before [] p') := by
  induction pieces generalizing p s with
  | nil => exact ⟨[], p, rfl, fun n => ⟨n, Nat.le_refl n, rfl⟩⟩
  | cons piece rest ih =>
    obtain ⟨ast, p', helaborate, hfirst⟩ := exists_loop_piece piece (Piece.head?_flatMap_text_ne rest) p stack s
    obtain ⟨asts, p'', helaborates, hrest⟩ := ih p' { s with parts := ast :: s.parts }
    refine ⟨ast :: asts, p'', ?_, fun n => ?_⟩
    · exact elaborateList_cons helaborate helaborates
    · obtain ⟨m, hm, hfirst⟩ := hfirst (n + (rest.flatMap Piece.text).length)
      obtain ⟨k, rfl⟩ := Nat.exists_eq_add_of_le hm
      obtain ⟨m', hm', hrest⟩ := hrest (n + k)
      refine ⟨m', by omega, ?_⟩
      rw [List.flatMap_cons, List.length_append, Nat.add_comm piece.text.length, ← Nat.add_assoc, hfirst,
        Nat.add_right_comm, hrest, List.reverse_cons, List.append_assoc]
      rfl

/-- A sequence of trees stands for what the trees stand for one after the other. -/
theorem exists_elaborate_toAst {s : Sequence} {es : List Expr}
    (h : Ast.elaborateList {} s.parts.reverse = .ok (es, {})) (stop : Place) :
    ∃ e, (s.toAst stop).elaborate {} = .ok (e, {}) ∧
      ∀ text i j, e.Spans text i j ↔ Expr.SpansAll text es i j := by
  rw [Sequence.toAst]
  split
  next hparts =>
    rw [hparts] at h
    cases h
    exact ⟨.empty, rfl, fun text i j => by rw [Expr.Spans, Expr.SpansAll]⟩
  next ast hparts =>
    rw [hparts, List.reverse_singleton, Ast.elaborateList] at h
    cases hast : ast.elaborate {} with
    | error => rw [hast] at h; cases h
    | ok result =>
      obtain ⟨e, flags⟩ := result
      rw [hast] at h
      cases h
      exact ⟨e, rfl, fun text i j => Expr.spansAll_singleton.symm⟩
  next =>
    refine ⟨.concatOf es, ?_, fun text i j => Expr.spans_concatOf⟩
    rw [Ast.elaborate, h]
    rfl

/-- What is read of pieces stands for what the pieces stand for one after the other. -/
theorem exists_run_pattern (pieces : List Piece) (p : Place) :
    ∃ ast e scan, pattern.run (before (pieces.flatMap Piece.text) p) = pure (ast, scan) ∧
      ast.elaborate {} = .ok (e, {}) ∧
      ∀ text i j, e.Spans text i j ↔ Expr.SpansAll text (pieces.map Piece.expr) i j := by
  obtain ⟨asts, p', helaborates, hloop⟩ := exists_loop_pieces pieces p [] ⟨p, []⟩
  obtain ⟨m, hm, hloop⟩ := hloop 1
  obtain ⟨k, rfl⟩ := Nat.exists_eq_add_of_le' hm
  let last : Sequence := ⟨p, asts.reverse⟩
  have hlast : (loop step ((pieces.flatMap Piece.text).length + 1) ([], ⟨p, []⟩)).run
      (before (pieces.flatMap Piece.text) p) = pure (([], last), before [] p') := by
    rw [Nat.add_comm, hloop, List.append_nil]
    exact run_loop_done run_step_end k
  have hreverse : Ast.elaborateList {} last.parts.reverse = .ok (pieces.map Piece.expr, {}) := by
    rw [List.reverse_reverse, helaborates]
  obtain ⟨e, helaborate, hspans⟩ := exists_elaborate_toAst hreverse p'
  refine ⟨last.toAst p', e, before [] p', ?_, helaborate, hspans⟩
  rw [pattern_eq]
  simp only [StateT.run_bind, run_place, run_left, pure_bind, hlast]
  rfl

end Parser

/-! ## Matches -/

theorem exists_of_compile {source : String} {expr : Expr} (h : compile source = .ok expr) :
    ∃ ast scan after, Parser.pattern.run (Parser.before source.toList ⟨0, 1, 1⟩) = .ok (ast, scan) ∧
      ast.elaborate {} = .ok (expr, after) := by
  have hstart : (⟨source.toList, ⟨0, 1, 1⟩, false, 0, []⟩ : Scan) = Parser.before source.toList ⟨0, 1, 1⟩ := rfl
  rw [compile, Ast.parse, hstart] at h
  cases hrun : Parser.pattern.run (Parser.before source.toList ⟨0, 1, 1⟩) with
  | error error => rw [hrun] at h; cases h
  | ok result =>
    obtain ⟨ast, scan⟩ := result
    rw [hrun] at h
    dsimp only at h
    cases hdeep : ast.tooDeep? 0 with
    | some span => rw [hdeep] at h; cases h
    | none =>
      rw [hdeep] at h
      cases helaborate : ast.elaborate {} with
      | error error => simp [Except.mapError, bind, Except.bind, helaborate] at h
      | ok result =>
        obtain ⟨e, after⟩ := result
        simp only [Except.mapError, bind, Except.bind, helaborate] at h
        split at h
        · cases h
        · obtain rfl : e = expr := Except.ok.inj h
          exact ⟨ast, scan, after, rfl, helaborate⟩

/-- If a pattern of pieces can be used, it matches what the pieces match one after the other. -/
theorem spans_iff_of_compile {source : String} {expr : Expr} (h : compile source = .ok expr) {pieces : List Piece}
    (hsource : source.toList = pieces.flatMap Piece.text) (text : List Char) (i j : Nat) :
    expr.Spans text i j ↔ Expr.SpansAll text (pieces.map Piece.expr) i j := by
  obtain ⟨ast, scan, after, hrun, helaborate⟩ := exists_of_compile h
  obtain ⟨_, e, _, hpattern, helaborate', hspans⟩ := Parser.exists_run_pattern pieces ⟨0, 1, 1⟩
  rw [← hsource] at hpattern
  cases hpattern.symm.trans hrun
  cases helaborate'.symm.trans helaborate
  exact hspans text i j

/-- A text matches if some part of it matches all pieces one after the other. -/
theorem isMatch_iff_of_compile {source : String} {expr : Expr} (h : compile source = .ok expr) {pieces : List Piece}
    (hsource : source.toList = pieces.flatMap Piece.text) (text : String) :
    expr.isMatch text = true ↔ ∃ i ≤ text.length, ∃ j, Expr.SpansAll text.toList (pieces.map Piece.expr) i j := by
  simp only [Expr.isMatch_iff, spans_iff_of_compile h hsource]

namespace Piece

variable {text : List Char} {i j : Nat}

/-- A character among the pieces is one of the text. -/
theorem mem_of_spansAll {pieces : List Piece} {c : Char} {plain : isBlank c = true ∨ c = '-'}
    (mem : char c plain ∈ pieces) (h : Expr.SpansAll text (pieces.map expr) i j) : c ∈ text := by
  induction pieces generalizing i with
  | nil => cases mem
  | cons piece rest ih =>
    obtain ⟨k, hfirst, hrest⟩ := h
    rcases List.mem_cons.1 mem with rfl | mem
    · rw [expr, Expr.Spans, Expr.cons_prefix_drop] at hfirst
      exact List.mem_of_getElem? hfirst.1.1
    · exact ih mem hrest

theorem rounds_of_forall {step : Nat → Nat → Prop} {n : Nat} (h : ∀ k < n, step (i + k) (i + k + 1)) :
    Rounds step n i (i + n) := by
  induction n generalizing i with
  | zero => rfl
  | succ n ih =>
    refine ⟨i + 1, h 0 (Nat.succ_pos n), ?_⟩
    rw [show i + (n + 1) = i + 1 + n by omega]
    refine ih fun k hk => ?_
    have hstep := h (k + 1) (Nat.succ_lt_succ hk)
    rwa [show i + (k + 1) = i + 1 + k by omega] at hstep

def width : Piece → Nat
  | start | stop => 0
  | char _ _ => 1
  | digits _ count _ => count.toNat - 48

/-- The piece takes what stands at a place of a text; of digits, those of ASCII. -/
def fits (text : List Char) (i : Nat) : Piece → Bool
  | start => i == 0
  | stop => i == text.length
  | char c _ => text[i]? == some c
  | digits _ count _ => (List.range (count.toNat - 48)).all fun k => text[i + k]?.any Char.isDigit

def fitsAll (text : List Char) : Nat → List Piece → Bool
  | _, [] => true
  | i, piece :: rest => piece.fits text i && fitsAll text (i + piece.width) rest

theorem contains_digitSet (anyScript : Bool) {c : Char} (h : c.isDigit = true) :
    (digitSet anyScript).contains c = true := by
  cases anyScript with
  | true => exact Format.isAnyDigit_of_isDigit h
  | false => exact CharSet.contains_ofRanges (List.mem_singleton.2 rfl) (Format.toNat_of_isDigit h)

theorem spans_of_fits {piece : Piece} (h : piece.fits text i = true) : piece.expr.Spans text i (i + piece.width) := by
  cases piece with
  | start =>
    obtain rfl : i = 0 := by simpa [fits] using h
    simp [expr, Expr.Spans, Look.holds, charBefore, width]
  | stop =>
    obtain rfl : i = text.length := by simpa [fits] using h
    simp [expr, Expr.Spans, Look.holds, width]
  | char c plain =>
    have there : text[i]? = some c := by simpa [fits] using h
    rw [expr, Expr.Spans, Expr.cons_prefix_drop]
    exact ⟨⟨there, List.nil_prefix⟩, rfl⟩
  | digits anyScript count many =>
    rw [expr, Expr.Spans, width]
    refine ⟨_, Nat.le_refl _, fun most hmost => .inl rfl, rounds_of_forall fun k hk => ?_⟩
    obtain ⟨c, there, hdigit⟩ := (Option.any_eq_true ..).1 (List.all_eq_true.1 h k (List.mem_range.2 hk))
    exact Expr.spans_ofSet there (contains_digitSet anyScript hdigit)

theorem exists_spansAll_of_fitsAll {pieces : List Piece} (h : fitsAll text i pieces = true) :
    ∃ j, Expr.SpansAll text (pieces.map expr) i j := by
  induction pieces generalizing i with
  | nil => exact ⟨i, rfl⟩
  | cons piece rest ih =>
    obtain ⟨hfirst, hrest⟩ := Bool.and_eq_true_iff.1 h
    obtain ⟨j, hj⟩ := ih hrest
    exact ⟨j, _, spans_of_fits hfirst, hj⟩

end Piece

/-- A pattern of pieces matches the texts that they fit. -/
theorem isMatch_of_fitsAll {source : String} {expr : Expr} (h : compile source = .ok expr) {pieces : List Piece}
    (hsource : source.toList = pieces.flatMap Piece.text) {text : String}
    (hfits : Piece.fitsAll text.toList 0 pieces = true) : expr.isMatch text = true := by
  obtain ⟨j, hj⟩ := Piece.exists_spansAll_of_fitsAll hfits
  exact (isMatch_iff_of_compile h hsource text).2 ⟨0, Nat.zero_le _, j, hj⟩

/-- A pattern of pieces matches no text without the characters among them. -/
theorem mem_of_isMatch {source : String} {expr : Expr} (h : compile source = .ok expr) {pieces : List Piece}
    (hsource : source.toList = pieces.flatMap Piece.text) {text : String} (hmatch : expr.isMatch text = true)
    {c : Char} {plain : isBlank c = true ∨ c = '-'} (mem : .char c plain ∈ pieces) : c ∈ text.toList := by
  obtain ⟨i, -, j, hspans⟩ := (isMatch_iff_of_compile h hsource text).1 hmatch
  exact Piece.mem_of_spansAll mem hspans

end Schemata.Regex

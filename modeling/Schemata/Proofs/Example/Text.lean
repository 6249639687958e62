import Schemata.Proofs.Example.Merged
import Schemata.Proofs.Example.Valid
import Schemata.Proofs.Format.Examples
import Schemata.Proofs.Validation.Violations

/-!
# Example texts

* `Rules.checkString_eq_nil_iff` : the keywords of a text find nothing where its format, its pattern and its length
  bounds accept it;
* `Pattern.exists_emit_of_made?`, `Pattern.exists_made_of_synthesize?`, `Rules.acceptsText_of_patternText?`,
  `Rules.exists_formatText?` : what is known about a text by where it comes from;
* `Node.toExample_string` : an example that is made for a pattern need not have the format.
-/

namespace Schemata

/-! ## Where the keywords find nothing -/

theorem fitsLength_iff {lower upper : Option Nat} {chars : List Char} :
    fitsLength lower upper chars = true ↔
      (∀ least ∈ lower, least ≤ chars.length) ∧ ∀ greatest ∈ upper, chars.length ≤ greatest := by
  simp [fitsLength, Option.all_eq_true]

namespace Rules

theorem acceptsText_iff {rules : Rules} {text : String} :
    rules.acceptsText text = true ↔ (∀ pattern ∈ rules.pattern, pattern.isMatch text = true) ∧
      (∀ least ∈ rules.minLength, least ≤ text.length) ∧ ∀ greatest ∈ rules.maxLength, text.length ≤ greatest := by
  simp [acceptsText, fitsLength_iff, Option.all_eq_true, ← String.length_toList, and_comm]

theorem checkString_eq_nil_iff {rules : Rules} {path : FieldPath} {text : String} :
    rules.checkString path text = [] ↔
      (∀ format ∈ rules.format, format.check text = true) ∧ rules.acceptsText text = true := by
  simp only [checkString, List.append_eq_nil_iff, checkFormat, checkPattern, checkMinLength, checkMaxLength,
    keyword_eq_nil_iff, acceptsText_iff, decide_eq_true_eq, and_assoc]

end Rules

namespace Node

theorem isReference_of_effectiveKind? {node : Node} {kind : Kind} (hk : node.effectiveKind? = some kind) :
    node.isReference = false := by
  cases node with
  | reference target => cases hk
  | schema => rfl

theorem valid_string_iff {node : Node} {limits : ValidateOptions} {text : String} (ha : node.rules.allowed = none)
    (hk : node.effectiveKind? = some .string) :
    (node.validate limits (.string text)).valid = true ↔
      (∀ format ∈ node.rules.format, format.check text = true) ∧ node.rules.acceptsText text = true := by
  have hfits : node.rules.fits (.string text) = true := by
    refine fits_of_effectiveKind? fun kind hkind => ?_
    obtain rfl := Option.some.inj (hk.symm.trans hkind)
    rfl
  have hopen : Visit.Open limits.maxDepth ⟨[], node, .string text⟩ :=
    ⟨Nat.zero_le _, isReference_of_effectiveKind? hk, fun h => nomatch h.1⟩
  have herrors : (node.validate limits (.string text)).errors = node.rules.checkString [] text := by
    show Visit.errors limits.maxDepth ⟨[], node, .string text⟩ = _
    rw [Visit.errors_of_open hopen, Rules.violations_of_fits hfits, Rules.checkAllowed_of_allowed ha]
    simp [Visit.children, Rules.checkContent]
  rw [← @Rules.checkString_eq_nil_iff node.rules [] text, ← herrors]
  exact List.isEmpty_iff

end Node

/-! ## Where a text comes from -/

namespace Pattern

variable {pattern : Pattern} {min max : Option Nat}

theorem exists_emit_of_made? {chars : List Char} (h : pattern.made? min = some chars) :
    ∃ growth made, pattern.expr.emit growth = some made ∧ made.text = chars := by
  obtain ⟨shortest, hshortest, h⟩ := Option.bind_eq_some_iff.1 h
  dsimp only at h
  split at h
  next =>
    obtain rfl := Option.some.inj h
    exact ⟨0, shortest, hshortest, rfl⟩
  next =>
    obtain ⟨made, hmade, rfl⟩ := Option.map_eq_some_iff.1 h
    exact ⟨_, made, hmade, rfl⟩

/-- The text for a pattern is the one made for it, as it is or fitted to the bounds, and it is accepted. -/
theorem exists_made_of_synthesize? {text : List Char} (h : pattern.synthesize? min max = some text) :
    ∃ made, pattern.made? min = some made ∧ (text = made ∨ text = fitLength min max made) ∧
      pattern.accepts min max text = true := by
  obtain ⟨made, hmade, h⟩ := Option.bind_eq_some_iff.1 h
  refine ⟨made, hmade, ?_⟩
  split at h
  next haccepts =>
    obtain rfl := Option.some.inj h
    exact ⟨.inl rfl, haccepts⟩
  next =>
    obtain ⟨haccepts, h⟩ := Option.ite_none_right_eq_some.1 h
    obtain rfl := Option.some.inj h
    exact ⟨.inr rfl, haccepts⟩

end Pattern

theorem Pattern.accepts_of_synthesize? {pattern : Pattern} {min max : Option Nat} {text : List Char}
    (h : pattern.synthesize? min max = some text) :
    pattern.isMatch (String.ofList text) = true ∧ fitsLength min max text = true := by
  obtain ⟨_, -, -, haccepts⟩ := exists_made_of_synthesize? h
  exact Bool.and_eq_true_iff.1 haccepts

namespace Rules

variable {rules : Rules} {text : String}

theorem exists_format_of_usualText? (h : rules.usualText? = some text) :
    ∃ pattern format, rules.pattern = some pattern ∧ Format.ofPattern? pattern.source = some format ∧
      format.example? = some text ∧ rules.acceptsText text = true := by
  obtain ⟨pattern, hpattern, h⟩ := Option.bind_eq_some_iff.1 h
  obtain ⟨hliteral, haccepts⟩ := Option.filter_eq_some_iff.1 h
  obtain ⟨format, hformat, hexample⟩ := Option.bind_eq_some_iff.1 hliteral
  exact ⟨pattern, format, hpattern, hformat, hexample, haccepts⟩

theorem acceptsText_of_patternText? (h : rules.patternText? = some text) : rules.acceptsText text = true := by
  obtain ⟨pattern, hpattern, h⟩ := Option.bind_eq_some_iff.1 h
  obtain usual | ⟨-, made⟩ := Option.or_eq_some_iff.1 h
  · obtain ⟨_, _, -, -, -, haccepts⟩ := exists_format_of_usualText? usual
    exact haccepts
  · obtain ⟨chars, synthesized, rfl⟩ := Option.map_eq_some_iff.1 made
    obtain ⟨hmatch, hlength⟩ := Pattern.accepts_of_synthesize? synthesized
    rw [acceptsText, String.toList_ofList, hlength, hpattern]
    exact hmatch

theorem exists_formatText? {format : Format} (hf : rules.format = some format)
    (hliteral : ∃ literal ∈ format.examples, rules.acceptsText literal = true) :
    ∃ text, rules.formatText? = some text ∧ format.check text = true ∧ rules.acceptsText text = true := by
  have hfound : (format.examples.find? rules.acceptsText).isSome = true := List.find?_isSome.2 hliteral
  obtain ⟨text, hfind⟩ := Option.isSome_iff_exists.1 hfound
  refine ⟨text, ?_, Format.check_of_mem_examples _ (List.mem_of_find?_eq_some hfind), List.find?_some hfind⟩
  rw [formatText?, hf]
  exact hfind

end Rules

/-! ## Examples of nodes -/

namespace Node

theorem toExample_of_allowed {node : Node} (options : ExampleOptions) (ha : node.rules.allowed = none)
    (hall : node.HasNoAllOf) : node.toExample options = node.exampleOfKind options 0 := by
  have hfree : node.rules.allowed.bind List.head? = none := by
    rw [ha]
    rfl
  exact exampleAt_of_merged?_eq_none hfree (merged?_eq_none_iff.2 hall)

/-- **What the example of a text meets.** Where a text of the format meets pattern and length bounds, so does the
example. It has the format too if nothing could be made for the pattern; what is made for the pattern is not tested for
the format. -/
theorem toExample_string {node : Node} {format : Format} (options : ExampleOptions) (limits : ValidateOptions)
    (ha : node.rules.allowed = none) (hall : node.HasNoAllOf) (hk : node.effectiveKind? = some .string)
    (hf : node.rules.format = some format)
    (hliteral : ∃ literal ∈ format.examples, node.rules.acceptsText literal = true) :
    ∃ text, node.toExample options = .string text ∧ node.rules.acceptsText text = true ∧
      ((node.validate limits (.string text)).valid = true ↔ format.check text = true) ∧
      (format.check text = true ↔ ∀ made, node.rules.patternText? = some made → format.check made = true) := by
  have hexample : node.toExample options = .string node.rules.exampleString := by
    rw [toExample_of_allowed options ha hall, exampleOfKind, hk]
  have hvalid (text : String) (haccepts : node.rules.acceptsText text = true) :
      (node.validate limits (.string text)).valid = true ↔ format.check text = true := by
    simp [valid_string_iff ha hk, hf, haccepts]
  obtain ⟨literal, hliteral, hformat, hfits⟩ := Rules.exists_formatText? hf hliteral
  cases hpattern : node.rules.patternText? with
  | some made =>
    have haccepts := Rules.acceptsText_of_patternText? hpattern
    refine ⟨made, by rw [hexample, Rules.exampleString, hpattern]; rfl, haccepts, hvalid made haccepts, ?_⟩
    simp
  | none =>
    refine ⟨literal, by rw [hexample, Rules.exampleString, hpattern, hliteral]; rfl, hfits, hvalid literal hfits, ?_⟩
    simp [hformat]

def mailSchema (source : String) : Json :=
  .object [("type", .string "string"), ("format", .string "email"), ("pattern", .string source)]

def mail (pattern : Pattern) : Node :=
  schema { kind := some .string, format := some .email, pattern := some pattern } [] none .open []

theorem hasNoAllOf_mail (pattern : Pattern) : (mail pattern).HasNoAllOf := by
  intro branches h
  cases h

def comPattern : Pattern where
  source := "^[a-z]+@[a-z]+[.]com$"
  expr :=
    let letters := .repetition 1 none true (.charClass false ⟨[(97, 122)]⟩)
    .concat [.look .startText, letters, .literal ['@'], letters, .literal ".com".toList, .look .endText]
  compiled := by with_unfolding_all rfl

/-- The pattern spells out enough of an address for what is made for it to be one. -/
theorem toExample_string_mail :
    (mail comPattern).rules.allowed = none ∧ (mail comPattern).HasNoAllOf ∧
      (mail comPattern).effectiveKind? = some .string ∧ (mail comPattern).rules.format = some .email ∧
      (∃ literal ∈ Format.email.examples, (mail comPattern).rules.acceptsText literal = true) ∧
      ∃ text, (mail comPattern).toExample {} = .string text ∧ (mail comPattern).rules.acceptsText text = true ∧
        ((mail comPattern).validate {} (.string text)).valid = true := by
  have hliteral : ∃ literal ∈ Format.email.examples, (mail comPattern).rules.acceptsText literal = true :=
    ⟨"user@example.com", by decide, by decide +kernel⟩
  have hmade : (mail comPattern).rules.patternText? = some "a@a.com" := by decide +kernel
  obtain ⟨text, hexample, haccepts, hvalid, hformat⟩ :=
    toExample_string {} {} rfl (hasNoAllOf_mail comPattern) rfl rfl hliteral
  have hcheck : Format.email.check text = true := by
    refine hformat.2 fun made h => ?_
    obtain rfl := Option.some.inj (hmade.symm.trans h)
    decide
  exact ⟨rfl, hasNoAllOf_mail comPattern, rfl, rfl, hliteral, text, hexample, haccepts, hvalid.2 hcheck⟩

def someTextPattern : Pattern where
  source := "^.+$"
  expr :=
    let anyChar := .charClass false ⟨[(0, 9), (11, 0x10FFFF)]⟩
    .concat [.look .startText, .repetition 1 none true anyChar, .look .endText]
  compiled := by with_unfolding_all rfl

/-- The usual address matches the pattern, and the example, a single letter that is made for the pattern, is no
address. -/
theorem not_valid_example_of_pattern :
    compile (mailSchema "^.+$") = .ok (mail someTextPattern) ∧ (mail someTextPattern).rules.allowed = none ∧
      (mail someTextPattern).HasNoAllOf ∧ (mail someTextPattern).effectiveKind? = some .string ∧
      (mail someTextPattern).rules.format = some .email ∧ "user@example.com" ∈ Format.email.examples ∧
      Format.email.check "user@example.com" = true ∧
      (mail someTextPattern).rules.acceptsText "user@example.com" = true ∧
      (mail someTextPattern).toExample {} = .string "a" ∧ Format.email.check "a" = false ∧
      ((mail someTextPattern).validate {} (.string "a")).valid = false := by
  have hcompile : compile (mailSchema "^.+$") = .ok (mail someTextPattern) := by with_unfolding_all rfl
  have haccepts : (mail someTextPattern).rules.acceptsText "user@example.com" = true := by decide +kernel
  have hmade : (mail someTextPattern).rules.exampleString = "a" := by decide +kernel
  have hexample : (mail someTextPattern).toExample {} = .string "a" := by
    rw [toExample_of_allowed {} rfl (hasNoAllOf_mail _), ← hmade]
    rfl
  have hinvalid : ((mail someTextPattern).validate {} (.string "a")).valid = false := by
    rw [Bool.eq_false_iff, ne_eq, valid_string_iff rfl rfl]
    exact fun h => absurd (h.1 .email rfl) (by decide)
  exact ⟨hcompile, rfl, hasNoAllOf_mail _, rfl, rfl, by decide, by decide, haccepts, hexample, by decide, hinvalid⟩

end Node

end Schemata

import Schemata.Proofs.Example.Text

/-!
# Lengths of example texts

* `length_fitLength`, `fitsLength_fitLength_iff` : how long a fitted text is, and when it is within the bounds;
* `Rules.Candidate` : the texts that an example is chosen from; `Rules.candidate_exampleString` : it is one of them;
* `Rules.Candidate.length_within` : they are all within the bounds, if these leave room;
* `Node.exampleAt_string_within` : so is the example of a node for texts.
-/

namespace Schemata

/-! ## Fitted texts -/

/-- Some length is within the bounds. -/
def HasRoom (lower upper : Option Nat) : Prop := ∀ least ∈ lower, ∀ greatest ∈ upper, least ≤ greatest

/-- The text is filled up after it is cut, so the least length is always reached. -/
theorem length_fitLength (lower upper : Option Nat) (chars : List Char) :
    (fitLength lower upper chars).length =
      max (lower.getD 0) (min (upper.getD chars.length) chars.length) := by
  unfold fitLength cutLength
  cases upper with
  | none => simp; omega
  | some greatest => simp; omega

theorem fitsLength_fitLength_iff {lower upper : Option Nat} (chars : List Char) :
    fitsLength lower upper (fitLength lower upper chars) = true ↔ HasRoom lower upper := by
  rw [fitsLength_iff, length_fitLength]
  constructor
  · rintro ⟨hlower, hupper⟩ least hleast greatest hgreatest
    exact Nat.le_trans (hlower least hleast) (hupper greatest hgreatest)
  · intro hroom
    constructor
    · rintro least rfl
      exact Nat.le_max_left ..
    · rintro greatest rfl
      apply Nat.max_le.2
      constructor
      · cases lower with
        | none => exact Nat.zero_le _
        | some least => exact hroom least rfl greatest rfl
      · exact Nat.min_le_left ..

/-! ## Where an example comes from -/

namespace Rules

variable {rules : Rules} {text : String}

/-- The texts that an example is chosen from: the usual text of the format that the pattern spells out, a text of the
pattern's expression, such a text fitted to the bounds, a text of the format, and the fitted sample word. All but the
last are tested before they are taken. -/
inductive Candidate (rules : Rules) : String → Prop
  | usual {pattern format literal} (hp : rules.pattern = some pattern)
      (hf : Format.ofPattern? pattern.source = some format) (hl : format.example? = some literal)
      (ha : rules.acceptsText literal = true) : Candidate rules literal
  | made {pattern growth made} (hp : rules.pattern = some pattern) (he : pattern.expr.emit growth = some made)
      (ha : rules.acceptsText (String.ofList made.text) = true) : Candidate rules (String.ofList made.text)
  | fitted {pattern growth made} (hp : rules.pattern = some pattern) (he : pattern.expr.emit growth = some made)
      (ha : rules.acceptsText (String.ofList (fitLength rules.minLength rules.maxLength made.text)) = true) :
      Candidate rules (String.ofList (fitLength rules.minLength rules.maxLength made.text))
  | literal {format literal} (hf : rules.format = some format) (hl : literal ∈ format.examples)
      (ha : rules.acceptsText literal = true) : Candidate rules literal
  | word : Candidate rules (String.ofList (fitLength rules.minLength rules.maxLength "string".toList))

theorem candidate_of_patternText? (h : rules.patternText? = some text) : rules.Candidate text := by
  have haccepts := acceptsText_of_patternText? h
  obtain ⟨pattern, hp, h⟩ := Option.bind_eq_some_iff.1 h
  obtain husual | ⟨-, htext⟩ := Option.or_eq_some_iff.1 h
  · obtain ⟨_, _, hp, hf, hl, -⟩ := exists_format_of_usualText? husual
    exact .usual hp hf hl haccepts
  · obtain ⟨chars, hchars, rfl⟩ := Option.map_eq_some_iff.1 htext
    obtain ⟨_, hmade, hfrom, -⟩ := Pattern.exists_made_of_synthesize? hchars
    obtain ⟨growth, made, he, rfl⟩ := Pattern.exists_emit_of_made? hmade
    obtain rfl | rfl := hfrom
    · exact .made hp he haccepts
    · exact .fitted hp he haccepts

theorem candidate_of_formatText? (h : rules.formatText? = some text) : rules.Candidate text := by
  obtain ⟨format, hf, h⟩ := Option.bind_eq_some_iff.1 h
  exact .literal hf (List.mem_of_find?_eq_some h) (List.find?_some h)

theorem candidate_exampleString (rules : Rules) : rules.Candidate rules.exampleString := by
  unfold exampleString
  cases hp : rules.patternText? with
  | some text => exact candidate_of_patternText? hp
  | none =>
    cases hf : rules.formatText? with
    | some text => exact candidate_of_formatText? hf
    | none => exact .word

theorem Candidate.length_within (h : rules.Candidate text) (hroom : HasRoom rules.minLength rules.maxLength) :
    (∀ least ∈ rules.minLength, least ≤ text.length) ∧ ∀ greatest ∈ rules.maxLength, text.length ≤ greatest := by
  cases h with
  | usual _ _ _ ha | made _ _ ha | fitted _ _ ha | literal _ _ ha => exact (acceptsText_iff.1 ha).2
  | word =>
    -- The word is not tested; it is within the bounds since it is fitted to them.
    rw [← String.length_toList, String.toList_ofList]
    exact fitsLength_iff.1 ((fitsLength_fitLength_iff _).2 hroom)

end Rules

/-! ## Examples of nodes -/

namespace Node

/-- **Example texts respect the length bounds.** Where the bounds of a node for texts leave room, every text that its
example is chosen from is within them, and the example is one of these texts. -/
theorem exampleAt_string_within {node : Node} (options : ExampleOptions) (depth : Nat)
    (ha : node.rules.allowed.bind List.head? = none) (hall : node.HasNoAllOf)
    (hk : node.effectiveKind? = some .string) (hroom : HasRoom node.rules.minLength node.rules.maxLength) :
    (∀ text, node.rules.Candidate text →
        (∀ least ∈ node.rules.minLength, least ≤ text.length) ∧
          ∀ greatest ∈ node.rules.maxLength, text.length ≤ greatest) ∧
      ∃ text, node.rules.Candidate text ∧ node.exampleAt options depth = .string text := by
  constructor
  · intro text hcandidate
    exact hcandidate.length_within hroom
  · refine ⟨node.rules.exampleString, node.rules.candidate_exampleString, ?_⟩
    rw [exampleAt_of_merged?_eq_none ha (merged?_eq_none_iff.2 hall), exampleOfKind, hk]

def abPattern : Pattern where
  source := "ab"
  expr := .literal ['a', 'b']
  compiled := by with_unfolding_all rfl

/-- Four to six characters, with `ab` among them. -/
def filled : Node := schema { pattern := some abPattern, minLength := some 4, maxLength := some 6 } [] none .open []

/-- What is made for the pattern is too short, and filled up. -/
theorem exampleAt_string_within_filled :
    filled.rules.allowed.bind List.head? = none ∧ filled.HasNoAllOf ∧ filled.effectiveKind? = some .string ∧
      HasRoom filled.rules.minLength filled.rules.maxLength ∧ filled.exampleAt {} 0 = .string "abxx" ∧
      4 ≤ "abxx".length ∧ "abxx".length ≤ 6 := by
  have hall : filled.HasNoAllOf := by
    intro branches h
    cases h
  have hroom : HasRoom filled.rules.minLength filled.rules.maxLength := by
    rintro least ⟨rfl⟩ greatest ⟨rfl⟩
    decide
  have hmade : filled.rules.exampleString = "abxx" := by decide +kernel
  have hexample : filled.exampleAt {} 0 = .string "abxx" := by
    rw [← hmade]
    exact toExample_of_allowed {} rfl hall
  obtain ⟨hwithin, text, hcandidate, htext⟩ := exampleAt_string_within {} 0 rfl hall rfl hroom
  obtain rfl : "abxx" = text := Json.string.inj (hexample.symm.trans htext)
  obtain ⟨hleast, hgreatest⟩ := hwithin _ hcandidate
  exact ⟨rfl, hall, rfl, hroom, hexample, hleast 4 rfl, hgreatest 6 rfl⟩

end Node

end Schemata

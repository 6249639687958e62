import Schemata.Proofs.Example.Calls

/-!
# Examples that are too long

* `fitOverflows_iff` : a fitted text overflows just if it is too long, though it is not made to tell;
* `Rules.Fits` : the texts that are fitted on the way to an example; `Rules.exampleOverflows_iff` : whether one of them
  gets too long;
* `Node.Overflows` : a text that is called for gets too long; `Node.overflowsAt_iff` : that is what is computed;
* `Node.example?_eq_some_iff`, `Node.example?_eq_none_iff` : there is an example if and only if nothing does.
-/

namespace Schemata

/-! ## Fitted texts -/

/-- No text can have so many characters. -/
def TooLong (chars : List Char) : Prop := textCapacity < (String.ofList chars).utf8ByteSize

theorem utf8ByteSize_replicate_x (n : Nat) : (String.ofList (List.replicate n 'x')).utf8ByteSize = n := by
  induction n with
  | zero => rfl
  | succ n ih =>
    rw [List.replicate_succ, String.ofList_cons, String.utf8ByteSize_append, ih, String.utf8ByteSize_singleton]
    exact Nat.add_comm ..

theorem fitOverflows_iff {lower upper : Option Nat} {chars : List Char} :
    fitOverflows lower upper chars = true ↔ TooLong (fitLength lower upper chars) := by
  unfold fitOverflows TooLong fitLength
  rw [decide_eq_true_iff, String.ofList_append, String.utf8ByteSize_append, utf8ByteSize_replicate_x]

namespace Rules

/-- The texts that are fitted to the length bounds on the way to an example: what is made for a pattern and not
accepted, and the sample word where nothing else is found. -/
inductive Fits (rules : Rules) : List Char → Prop
  | made {pattern made} (usual : rules.usualText? = none) (hp : rules.pattern = some pattern)
      (hm : pattern.made? rules.minLength = some made)
      (refused : pattern.accepts rules.minLength rules.maxLength made = false) : Fits rules made
  | word (hp : rules.patternText? = none) (hf : rules.formatText? = none) : Fits rules "string".toList

/-- A text that is fitted on the way to the example gets too long. -/
def Overflows (rules : Rules) : Prop :=
  ∃ chars, rules.Fits chars ∧ TooLong (fitLength rules.minLength rules.maxLength chars)

theorem exampleOverflows_iff {rules : Rules} : rules.exampleOverflows = true ↔ rules.Overflows := by
  simp only [exampleOverflows, Pattern.overflows, Bool.or_eq_true, Bool.and_eq_true, Option.isNone_iff_eq_none,
    Option.any_eq_true, Option.or_eq_none_iff, Bool.not_eq_true', fitOverflows_iff]
  constructor
  · rintro (⟨husual, pattern, hp, made, hm, hrefused, hlong⟩ | ⟨⟨hp, hf⟩, hlong⟩)
    · exact ⟨made, .made husual hp hm hrefused, hlong⟩
    · exact ⟨_, .word hp hf, hlong⟩
  · rintro ⟨_, ⟨husual, hp, hm, hrefused⟩ | ⟨hp, hf⟩, hlong⟩
    · exact .inl ⟨husual, _, hp, _, hm, hrefused, hlong⟩
    · exact .inr ⟨⟨hp, hf⟩, hlong⟩

end Rules

namespace Node

variable {options : ExampleOptions} {depth : Nat} {node : Node}

/-! ## Examples -/

/-- The example of the node is a text, and one that is fitted on the way to it gets too long. -/
structure TextOverflows (node : Node) : Prop where
  byKind : node.ByKind
  kind : node.effectiveKind? = some .string
  text : node.rules.Overflows

theorem textOverflows_iff : node.textOverflows = true ↔ node.TextOverflows := by
  simp only [textOverflows, Bool.and_eq_true, Option.isNone_iff_eq_none, decide_eq_true_iff, Rules.exampleOverflows_iff]
  constructor
  · rintro ⟨⟨⟨hfree, hmerged⟩, hkind⟩, htext⟩
    exact ⟨⟨hfree, hmerged⟩, hkind, htext⟩
  · rintro ⟨⟨hfree, hmerged⟩, hkind, htext⟩
    exact ⟨⟨⟨hfree, hmerged⟩, hkind⟩, htext⟩

/-- A text that the example of the node at the depth calls for gets too long. -/
def Overflows (options : ExampleOptions) (depth : Nat) (node : Node) : Prop :=
  ∃ call : Nat × Node, Relation.ReflTransGen (Calls options) (depth, node) call ∧ call.2.TextOverflows

theorem overflows_iff_or :
    node.Overflows options depth ↔
      node.TextOverflows ∨ ∃ next, Calls options (depth, node) next ∧ next.2.Overflows options next.1 := by
  constructor
  · rintro ⟨call, hcalls, htext⟩
    obtain rfl | ⟨next, hnext, hrest⟩ := hcalls.cases_head
    · exact .inl htext
    · exact .inr ⟨next, hnext, call, hrest, htext⟩
  · rintro (htext | ⟨next, hnext, call, hrest, htext⟩)
    · exact ⟨_, .refl, htext⟩
    · exact ⟨call, .head hnext hrest, htext⟩

theorem overflowsAt_iff : node.overflowsAt options depth = true ↔ node.Overflows options depth := by
  induction depth, node using Calls.induction options with
  | step depth node ih =>
    rw [overflowsAt, overflows_iff_or, Bool.or_eq_true, textOverflows_iff, List.any_eq_true]
    refine or_congr_right ⟨?_, ?_⟩
    · rintro ⟨⟨next, hmem⟩, -, hnext⟩
      have hcalls := mem_exampleCalls_iff.1 hmem
      exact ⟨next, hcalls, (ih next hcalls).1 hnext⟩
    · rintro ⟨next, hcalls, hnext⟩
      exact ⟨⟨next, mem_exampleCalls_iff.2 hcalls⟩, List.mem_attach _ _, (ih next hcalls).2 hnext⟩

theorem example?_eq_none_iff : node.example? options = none ↔ node.Overflows options 0 := by
  rw [← overflowsAt_iff, example?]
  simp

theorem example?_eq_some_iff {value : Json} :
    node.example? options = some value ↔ ¬ node.Overflows options 0 ∧ node.toExample options = value := by
  rw [← overflowsAt_iff, example?]
  simp

end Node

end Schemata

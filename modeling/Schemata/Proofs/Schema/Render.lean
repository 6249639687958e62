import Schemata.Proofs.Json.Names
import Schemata.Schema.Render

/-!
# What is written for a node

* `Rules.lookup_entry`, `Node.lookup_combinationsToJson` and their companions : each piece that is written has its own
  keywords only;
* `Node.Shows`, `Node.shows_toJson` : what is written for a schema shows it, each keyword having the value that the
  schema gives it.
-/

namespace Schemata

/-! ## Finding what was written -/

namespace Rules

theorem lookup_entry (keyword name : String) (value : Option Json) :
    (entry keyword value).lookup name = if name = keyword then value else none :=
  Names.lookup_toList keyword name value

theorem lookup_flag (keyword name : String) (on : Bool) :
    (flag keyword on).lookup name = if name = keyword then (if on then some (.bool true) else none) else none := by
  cases on with
  | false => exact (ite_self none).symm
  | true => exact Names.lookup_single keyword name _

/-- The limit that is written behind one of the two keywords of a bound. -/
def limitValue? (exclusive : Bool) (bound : Option Bound) : Option Json :=
  bound.bind fun b => if b.exclusive = exclusive then some (.number b.limit) else none

theorem lookup_boundEntry {inclusive exclusive : String} (hne : inclusive ≠ exclusive) (bound : Option Bound)
    (name : String) :
    (boundEntry inclusive exclusive bound).lookup name =
      if name = inclusive then limitValue? false bound
      else if name = exclusive then limitValue? true bound else none := by
  cases bound with
  | none => simp [boundEntry, limitValue?]
  | some b =>
    obtain ⟨limit, flag⟩ := b
    cases flag with
    | false =>
      refine (Names.lookup_single inclusive name _).trans ?_
      simp [limitValue?]
    | true =>
      refine (Names.lookup_single exclusive name _).trans ?_
      by_cases hi : name = inclusive
      · subst hi
        simp [limitValue?, hne]
      · simp [limitValue?, hi]

end Rules

namespace Combinator

theorem keyword_inj {a b : Combinator} (h : a.keyword = b.keyword) : a = b := by
  cases a <;> cases b <;> first | rfl | exact absurd h (by decide)

/-- The keywords of combinators, to tell them from all others. -/
theorem keyword_mem (c : Combinator) : c.keyword ∈ ["allOf", "anyOf", "oneOf", "not"] := by
  cases c <;> decide

end Combinator

namespace Node

theorem lookup_itemsToJson (items : Option Node) (name : String) :
    (itemsToJson items).lookup name = if name = "items" then items.map toJson else none := by
  cases items with
  | none => exact (ite_self none).symm
  | some node => exact Names.lookup_single "items" name _

/-- The value of `additionalProperties`. -/
def additionalValue? : Additional Node → Option Json
  | .open => none
  | .forbidden => some (.bool false)
  | .constrained node => some node.toJson

theorem lookup_additionalToJson (additional : Additional Node) (name : String) :
    (additionalToJson additional).lookup name =
      if name = "additionalProperties" then additionalValue? additional else none := by
  cases additional with
  | «open» => exact (ite_self none).symm
  | forbidden => exact Names.lookup_single "additionalProperties" name _
  | constrained node => exact Names.lookup_single "additionalProperties" name _

theorem lookup_combinationsToJson (combinations : List (Combinator × List Node)) (c : Combinator) :
    (combinationsToJson combinations).lookup c.keyword =
      (combinations.lookup c).map fun branches => c.write (nodesToJson branches) := by
  induction combinations with
  | nil => rfl
  | cons entry rest ih =>
    obtain ⟨d, branches⟩ := entry
    rw [combinationsToJson, Names.lookup_cons, Names.lookup_cons]
    by_cases h : c = d
    · rw [if_pos h, if_pos (congrArg Combinator.keyword h), h]
      rfl
    · rw [if_neg h, if_neg fun e => h (Combinator.keyword_inj e), ih]

theorem lookup_combinationsToJson_eq_none {name : String} (h : name ∉ ["allOf", "anyOf", "oneOf", "not"])
    (combinations : List (Combinator × List Node)) : (combinationsToJson combinations).lookup name = none := by
  induction combinations with
  | nil => rfl
  | cons entry rest ih =>
    obtain ⟨c, branches⟩ := entry
    have hne : name ≠ c.keyword := fun e => h (e ▸ c.keyword_mem)
    rw [combinationsToJson, Names.lookup_cons, if_neg hne, ih]

/-- An object shows a node: each keyword has the value that the node gives it. -/
structure Shows (node : Node) (members : List (String × Json)) : Prop where
  ref : members.lookup "$ref" = none
  type : members.lookup "type" = node.rules.kind.map fun kind => .string kind.tag
  nullable : members.lookup "nullable" = if node.rules.nullable then some (.bool true) else none
  description : members.lookup "description" = node.rules.description.map .string
  format : members.lookup "format" = node.rules.format.map fun format => .string format.name
  pattern : members.lookup "pattern" = node.rules.pattern.map fun pattern => .string pattern.source
  allowed : members.lookup "enum" = node.rules.allowed.map .array
  minLength : members.lookup "minLength" = node.rules.minLength.map .ofNat
  maxLength : members.lookup "maxLength" = node.rules.maxLength.map .ofNat
  minimum : members.lookup "minimum" = Rules.limitValue? false node.rules.minimum
  exclusiveMinimum : members.lookup "exclusiveMinimum" = Rules.limitValue? true node.rules.minimum
  maximum : members.lookup "maximum" = Rules.limitValue? false node.rules.maximum
  exclusiveMaximum : members.lookup "exclusiveMaximum" = Rules.limitValue? true node.rules.maximum
  required : members.lookup "required" =
    if node.rules.required.isEmpty then none else some (.array (node.rules.required.map .string))
  properties : members.lookup "properties" =
    if node.properties.isEmpty then none else some (.object (propertiesToJson node.properties))
  items : members.lookup "items" = node.items.map toJson
  additional : members.lookup "additionalProperties" = additionalValue? node.additional
  deprecated : members.lookup "deprecated" = if node.rules.deprecated then some (.bool true) else none
  combinations : ∀ c : Combinator, members.lookup c.keyword =
    (node.combinations.lookup c).map fun branches => c.write (nodesToJson branches)

theorem shows_toJson (rules : Rules) (properties : List (String × Node)) (items : Option Node)
    (additional : Additional Node) (combinations : List (Combinator × List Node)) :
    ∃ members, (schema rules properties items additional combinations).toJson = .object members ∧
      (schema rules properties items additional combinations).Shows members := by
  refine ⟨_, toJson.eq_2 .., ?_⟩
  constructor
  case combinations =>
    intro c
    have h := lookup_combinationsToJson combinations c
    cases c <;>
    · simp only [Combinator.keyword] at h ⊢
      simp [Rules.toMembers, Node.combinations, List.lookup_append, Rules.lookup_entry, Rules.lookup_flag,
        Rules.lookup_boundEntry, Names.lookup_unless, lookup_itemsToJson, lookup_additionalToJson, h]
  all_goals
    simp [Rules.toMembers, Node.rules, Node.properties, Node.items, Node.additional, List.lookup_append,
      Rules.lookup_entry, Rules.lookup_flag, Rules.lookup_boundEntry, Names.lookup_unless, lookup_itemsToJson,
      lookup_additionalToJson, lookup_combinationsToJson_eq_none]
  all_goals rfl

theorem exists_toJson_eq (node : Node) : ∃ members, node.toJson = .object members := by
  cases node with
  | reference target => exact ⟨_, toJson.eq_1 target⟩
  | schema => exact ⟨_, toJson.eq_2 ..⟩

end Node

end Schemata

import Schemata.Proofs.Schema.Congruence
import Schemata.Validation.Basic

/-!
# Two spellings of one schema

* `Respelling` : older and newer dialects write a kind that allows `null`, and the two sorts of bounds, in different
  ways;
* `Respelling.readAlike` : both ways are read alike;
* `Node.compile_of_respelled` : so a schema may be written in either way at each of its nodes.
-/

namespace Schemata

def boundKeywords : List (String × String) :=
  [("minimum", "exclusiveMinimum"), ("maximum", "exclusiveMaximum")]

theorem mem_boundKeywords {inclusive exclusive : String} (h : (inclusive, exclusive) ∈ boundKeywords) :
    (inclusive = "minimum" ∧ exclusive = "exclusiveMinimum") ∨
      (inclusive = "maximum" ∧ exclusive = "exclusiveMaximum") := by
  simpa [boundKeywords] using h

/-- The members of an object in a newer spelling and in an older one, all others being the same. A kind that allows
`null` is a union of two tags, or has a flag beside it. A limit stands behind the keyword of its own sort, or behind the
inclusive one with a flag that says whether it is exclusive. -/
inductive Respelling : List (String × Json) → List (String × Json) → Prop
  | nullable {members members' tag} (ht : tag ≠ "null")
      (union : members.lookup "type" = some (.array [.string tag, .string "null"]) ∨
        members.lookup "type" = some (.array [.string "null", .string tag]))
      (type : members'.lookup "type" = some (.string tag))
      (flag : members'.lookup "nullable" = some (.bool true))
      (others : ∀ name, name ∉ ["type", "nullable"] → members.lookup name = members'.lookup name) :
      Respelling members members'
  | bound {members members' inclusive exclusive n isExclusive} (hk : (inclusive, exclusive) ∈ boundKeywords)
      (own : members.lookup (if isExclusive then exclusive else inclusive) = some (.number n))
      (absent : members.lookup (if isExclusive then inclusive else exclusive) = none)
      (limit : members'.lookup inclusive = some (.number n))
      (flag : members'.lookup exclusive = some (.bool isExclusive))
      (others : ∀ name, name ∉ [inclusive, exclusive] → members.lookup name = members'.lookup name) :
      Respelling members members'

/-- The members of an object in two spellings, either of which may be the older one. -/
def Respelled (members members' : List (String × Json)) : Prop :=
  Respelling members members' ∨ Respelling members' members

namespace Rules

theorem kindOfTags_pair {tag : String} (h : tag ≠ "null") {tags : List String}
    (ht : tags = [tag, "null"] ∨ tags = ["null", tag]) : kindOfTags tags = (some (.ofTag tag), true) := by
  rcases ht with rfl | rfl
  · simp [kindOfTags, h]
  · simp [kindOfTags, h]

variable {path : String} {object object' : Json}

/-- A union with `null` says the same as a tag with a flag. -/
theorem readNullable_union {tag : String} (h : tag ≠ "null")
    (union : object.member? "type" = some (.array [.string tag, .string "null"]) ∨
      object.member? "type" = some (.array [.string "null", .string tag]))
    (type : object'.member? "type" = some (.string tag)) (flag : object'.member? "nullable" = some (.bool true)) :
    readNullable path object = readNullable path object' := by
  obtain ⟨tags, ht, hm⟩ : ∃ tags, (tags = [tag, "null"] ∨ tags = ["null", tag]) ∧
      object.member? "type" = some (.array (tags.map .string)) := by
    rcases union with hm | hm
    · exact ⟨_, .inl rfl, hm⟩
    · exact ⟨_, .inr rfl, hm⟩
  have hread : readKind path object = .ok (some (.ofTag tag), true) := by
    rw [readKind, hm]
    dsimp only
    rw [readTexts_map_string, ok_bind, kindOfTags_pair h ht]
    rfl
  have hread' : readKind path object' = .ok (some (.ofTag tag), false) := by
    rw [readKind, type]
  unfold readNullable
  rw [hread, hread', flag, Except.map, Except.map]
  rfl

/-- A limit behind the keyword of its own sort says the same as one with a flag. -/
theorem readBound_flag {inclusive exclusive : String} {n : Number} {isExclusive : Bool}
    (own : object.member? (if isExclusive then exclusive else inclusive) = some (.number n))
    (absent : object.member? (if isExclusive then inclusive else exclusive) = none)
    (limit : object'.member? inclusive = some (.number n))
    (flag : object'.member? exclusive = some (.bool isExclusive)) :
    readBound path inclusive exclusive object = readBound path inclusive exclusive object' := by
  unfold readBound
  rw [limit, flag]
  cases isExclusive with
  | true =>
    rw [if_pos rfl] at own absent
    rw [own, absent]
    rfl
  | false =>
    rw [if_neg Bool.false_ne_true] at own absent
    rw [own, absent]

end Rules

namespace Respelling

variable {members members' : List (String × Json)}

theorem agree (h : Respelling members members') (name : String) (hname : name ∉ Rules.keywords) :
    members.lookup name = members'.lookup name := by
  cases h with
  | nullable ht union type flag others =>
    have rules : ∀ keyword ∈ ["type", "nullable"], keyword ∈ Rules.keywords := by decide
    exact others name fun hmem => hname (rules name hmem)
  | bound hk own absent limit flag others =>
    have rules : ∀ pair ∈ boundKeywords, ∀ keyword ∈ [pair.1, pair.2], keyword ∈ Rules.keywords := by decide
    exact others name fun hmem => hname (rules _ hk name hmem)

theorem readAlike (h : Respelling members members') (path : String) :
    Rules.ReadAlike path (.object members) (.object members') := by
  cases h with
  | nullable ht union type flag others =>
    have single : ∀ keyword ∈ Rules.singleKeywords, keyword ∉ ["type", "nullable"] := by decide
    refine ⟨Rules.readNullable_union ht union type flag, ?_, ?_, fun keyword hk => others keyword (single keyword hk)⟩
    · exact Rules.readBound_congr (others _ (by decide)) (others _ (by decide))
    · exact Rules.readBound_congr (others _ (by decide)) (others _ (by decide))
  | bound hk own absent limit flag others =>
    have hbound : Rules.readBound path _ _ (.object members) = Rules.readBound path _ _ (.object members') :=
      Rules.readBound_flag own absent limit flag
    obtain ⟨rfl, rfl⟩ | ⟨rfl, rfl⟩ := mem_boundKeywords hk
    · have single : ∀ keyword ∈ Rules.singleKeywords, keyword ∉ ["minimum", "exclusiveMinimum"] := by decide
      refine ⟨?_, hbound, ?_, fun keyword hk => others keyword (single keyword hk)⟩
      · exact Rules.readNullable_congr (others _ (by decide)) (others _ (by decide))
      · exact Rules.readBound_congr (others _ (by decide)) (others _ (by decide))
    · have single : ∀ keyword ∈ Rules.singleKeywords, keyword ∉ ["maximum", "exclusiveMaximum"] := by decide
      refine ⟨?_, ?_, hbound, fun keyword hk => others keyword (single keyword hk)⟩
      · exact Rules.readNullable_congr (others _ (by decide)) (others _ (by decide))
      · exact Rules.readBound_congr (others _ (by decide)) (others _ (by decide))

end Respelling

namespace Node

/-- The two spellings of an object are read as the same node, or have the same error. -/
theorem map_compileAt_of_respelling {members members' : List (String × Json)} (h : Respelling members members')
    (path : String) : (compileAt path (.object members)).map id = (compileAt path (.object members')).map id := by
  refine map_compileAt_object through_id (h.agree _ (by decide)) (Rules.read_congr (h.readAlike path)) ?_ ?_ ?_ ?_
  · rw [compileProperties_congr (h.agree _ (by decide))]
  · rw [compileItems_congr (h.agree _ (by decide))]
  · rw [compileAdditional_congr (h.agree _ (by decide))]
  · rw [compileCombinations_congr fun c => h.agree _ (by cases c <;> decide)]

/-- **The spelling of a schema does not matter.** A schema that is written in the other way at any of its nodes is read
as the same node, or has the same error; so all values have the same reports. -/
theorem compile_of_respelled {s t : Json} (h : Relation.ReflTransGen (Json.AtNode Respelled) s t) :
    compile t = compile s ∧
      ∀ options payload, Schemata.validate options payload t = Schemata.validate options payload s := by
  have hview : ∀ {members members'}, Respelled members members' → ∀ path,
      (compileAt path (.object members)).map id = (compileAt path (.object members')).map id := by
    rintro members members' (h | h) path
    · exact map_compileAt_of_respelling h path
    · exact (map_compileAt_of_respelling h path).symm
  have hcompile : compile t = compile s := by
    have hsame := map_compileAt_of_changes through_id hview h "#"
    rw [Except.map_id] at hsame
    exact hsame.symm
  refine ⟨hcompile, fun options payload => ?_⟩
  unfold Schemata.validate
  rw [hcompile]

/-- A schema of objects with an age. -/
def ageSchema (age further : List (String × Json)) : Json :=
  .object (("properties", .object [("age", .object age)]) :: further)

theorem atNode_ageSchema {R : List (String × Json) → List (String × Json) → Prop} {age age' : List (String × Json)}
    (h : R age age') (further : List (String × Json)) :
    Json.AtNode R (ageSchema age further) (ageSchema age' further) := by
  have hlookup : [("age", Json.object age)].lookup "age" = some (.object age) := rfl
  have hstep := @Json.AtNode.property R (("properties", .object [("age", .object age)]) :: further) _ _ _ _ rfl
    hlookup (.here h)
  simpa only [ageSchema, Json.setMember, if_pos] using hstep

/-- The age in a newer dialect, halfway, and in an older one. -/
def newerAge : List (String × Json) :=
  [("type", .array [.string "null", .string "integer"]), ("exclusiveMinimum", .ofNat 0)]

def mixedAge : List (String × Json) :=
  [("type", .string "integer"), ("nullable", .bool true), ("exclusiveMinimum", .ofNat 0)]

def olderAge : List (String × Json) :=
  [("type", .string "integer"), ("nullable", .bool true), ("minimum", .ofNat 0), ("exclusiveMinimum", .bool true)]

/-- A bound beside the age is written in the newer dialect while the age is written in the older one. -/
theorem respelled_ageSchema :
    Relation.ReflTransGen (Json.AtNode Respelled)
      (ageSchema newerAge [("maximum", .ofNat 9), ("exclusiveMaximum", .bool false)])
      (ageSchema olderAge [("maximum", .ofNat 9)]) := by
  have kind : Respelled newerAge mixedAge := by
    refine .inl (.nullable (by decide) (.inr rfl) rfl rfl fun name hname => ?_)
    rw [List.mem_cons, List.mem_singleton, not_or] at hname
    simp [newerAge, mixedAge, Names.lookup_cons, hname]
  have minimum : Respelled mixedAge olderAge := by
    refine .inl (@Respelling.bound _ _ "minimum" "exclusiveMinimum" _ true (by decide) rfl rfl rfl rfl
      fun name hname => ?_)
    rw [List.mem_cons, List.mem_singleton, not_or] at hname
    simp [mixedAge, olderAge, Names.lookup_cons, hname]
  have maximum : Json.AtNode Respelled
      (ageSchema olderAge [("maximum", .ofNat 9), ("exclusiveMaximum", .bool false)])
      (ageSchema olderAge [("maximum", .ofNat 9)]) := by
    refine .here (.inr (@Respelling.bound _ _ "maximum" "exclusiveMaximum" _ false (by decide) rfl rfl rfl rfl
      fun name hname => ?_))
    rw [List.mem_cons, List.mem_singleton, not_or] at hname
    simp [Names.lookup_cons, hname]
  exact ((Relation.ReflTransGen.single (atNode_ageSchema kind _)).tail (atNode_ageSchema minimum _)).tail maximum

theorem compile_of_respelled_age :
    Relation.ReflTransGen (Json.AtNode Respelled)
        (ageSchema newerAge [("maximum", .ofNat 9), ("exclusiveMaximum", .bool false)])
        (ageSchema olderAge [("maximum", .ofNat 9)]) ∧
      compile (ageSchema olderAge [("maximum", .ofNat 9)]) =
        compile (ageSchema newerAge [("maximum", .ofNat 9), ("exclusiveMaximum", .bool false)]) :=
  ⟨respelled_ageSchema, (compile_of_respelled respelled_ageSchema).1⟩

end Node

end Schemata

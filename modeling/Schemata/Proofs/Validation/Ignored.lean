import Schemata.Proofs.Schema.Congruence
import Schemata.Validation.Basic

/-!
# What a validation does not look at

* `Node.bare` : a node that combines no schemas, nor does any node in it;
* `Node.check_bare` : a value is checked against a node as against the bare node;
* `IgnoredEdit` : a change of an object that leaves the keywords alone which say something about a value;
* `Node.map_bare_compileAt_of_ignoredEdit` : it changes what the node combines, at most;
* `validate_of_ignoredEdits` : so no number of such changes, at whatever nodes of a schema, shows in a report.
-/

namespace Schemata

namespace Node

/-! ## Bare nodes -/

mutual

/-- The node without the schemas that it combines, or that a node in it combines. -/
def bare : Node → Node
  | .reference target => .reference target
  | .schema rules properties items additional _ =>
    .schema rules (bareProperties properties) (bareItems items) (bareAdditional additional) []

def bareProperties : List (String × Node) → List (String × Node)
  | [] => []
  | (name, node) :: rest => (name, node.bare) :: bareProperties rest

def bareItems : Option Node → Option Node
  | none => none
  | some node => some node.bare

def bareAdditional : Additional Node → Additional Node
  | .open => .open
  | .forbidden => .forbidden
  | .constrained node => .constrained node.bare

end

theorem through_bare : Through bare fun _ => [] := by
  intro rules properties items additional combinations
  have hproperties : ∀ properties, bareProperties properties = viewProperties bare properties := by
    intro properties
    induction properties with
    | nil => rfl
    | cons entry rest ih =>
      obtain ⟨name, node⟩ := entry
      rw [bareProperties, ih, viewProperties_cons]
  have hitems : bareItems items = items.map bare := by
    cases items <;> rfl
  have hadditional : bareAdditional additional = additional.map bare := by
    cases additional <;> rfl
  rw [bare, hproperties, hitems, hadditional]

theorem rules_bare (node : Node) : node.bare.rules = node.rules := by
  cases node <;> rfl

theorem isNone_lookup_bareProperties (properties : List (String × Node)) (name : String) :
    ((bareProperties properties).lookup name).isNone = (properties.lookup name).isNone := by
  induction properties with
  | nil => rfl
  | cons entry rest ih =>
    obtain ⟨key, node⟩ := entry
    rw [bareProperties, Names.lookup_cons, Names.lookup_cons]
    by_cases h : name = key
    · rw [if_pos h, if_pos h]
      rfl
    · rw [if_neg h, if_neg h, ih]

mutual

theorem check_bare (limit : Nat) (path : FieldPath) : ∀ (node : Node) (value : Json),
    check limit path node.bare value = check limit path node value
  | .reference _, _ => rfl
  | .schema rules properties items additional combinations, value => by
    rw [bare, check.eq_def, check.eq_def]
    dsimp only
    simp only [isNone_lookup_bareProperties, checkProperties_bare, checkItems_bare, checkAdditional_bare]

theorem checkProperties_bare (limit : Nat) (path : FieldPath) (required : List String)
    (members : List (String × Json)) : ∀ properties : List (String × Node),
    checkProperties limit path required members (bareProperties properties) =
      checkProperties limit path required members properties
  | [] => rfl
  | (name, node) :: rest => by
    rw [bareProperties, checkProperties, checkProperties, checkProperties_bare limit path required members rest,
      rules_bare]
    simp only [check_bare]

theorem checkItems_bare (limit : Nat) (path : FieldPath) : ∀ (items : Option Node) (values : List Json),
    checkItems limit path (bareItems items) values = checkItems limit path items values
  | none, _ => rfl
  | some node, values => by
    rw [bareItems, checkItems, checkItems]
    simp only [check_bare]

theorem checkAdditional_bare (limit : Nat) (path : FieldPath) :
    ∀ (additional : Additional Node) (members : List (String × Json)),
    checkAdditional limit path (bareAdditional additional) members = checkAdditional limit path additional members
  | .open, _ => rfl
  | .forbidden, _ => rfl
  | .constrained node, members => by
    rw [bareAdditional, checkAdditional, checkAdditional]
    simp only [check_bare]

end

theorem validate_bare (node : Node) (options : ValidateOptions) (payload : Json) :
    node.bare.validate options payload = node.validate options payload := by
  unfold validate
  rw [check_bare]

/-- The keywords that are read for a validation. -/
def enforcedKeywords : List String := "$ref" :: Rules.keywords ++ partKeywords

end Node

/-! ## Changes that do not show -/

/-- A change of an object that is no change for a validation: any other keyword gets a value or loses it, the keywords
change places, or something changes beside a reference. -/
inductive IgnoredEdit : List (String × Json) → List (String × Json) → Prop
  | put {members keyword} (value : Json) (h : keyword ∉ Node.enforcedKeywords) :
      IgnoredEdit members (Json.setMember keyword value members)
  | remove {members keyword} (h : keyword ∉ Node.enforcedKeywords) :
      IgnoredEdit members (members.filter fun m => m.1 ≠ keyword)
  | reorder {members members'} (distinct : (members.map Prod.fst).Nodup) (h : members.Perm members') :
      IgnoredEdit members members'
  | besideReference {members members' target} (h : members.lookup "$ref" = some (.string target))
      (h' : members'.lookup "$ref" = some (.string target)) : IgnoredEdit members members'

namespace Node

variable {members members' : List (String × Json)}

theorem map_bare_compileAt_of_agree (h : ∀ name ∈ enforcedKeywords, members'.lookup name = members.lookup name)
    (path : String) :
    (compileAt path (.object members)).map bare = (compileAt path (.object members')).map bare := by
  refine map_compileAt_object through_bare (h _ (by decide)).symm (Rules.read_congr ?_) ?_ ?_ ?_ rfl
  · have rules : ∀ keyword ∈ Rules.keywords, keyword ∈ enforcedKeywords := by decide
    exact .of_agree fun keyword hk => (h keyword (rules keyword hk)).symm
  · rw [compileProperties_congr (h _ (by decide))]
  · rw [compileItems_congr (h _ (by decide))]
  · rw [compileAdditional_congr (h _ (by decide))]

theorem map_bare_compileAt_of_ignoredEdit (h : IgnoredEdit members members') (path : String) :
    (compileAt path (.object members)).map bare = (compileAt path (.object members')).map bare := by
  cases h with
  | put value h =>
    refine map_bare_compileAt_of_agree (fun name hname => ?_) path
    exact Json.lookup_setMember_of_ne fun heq => h (heq ▸ hname)
  | remove h =>
    refine map_bare_compileAt_of_agree (fun name hname => ?_) path
    exact Names.lookup_filter_ne fun heq => h (heq ▸ hname)
  | reorder distinct h => exact map_bare_compileAt_of_agree (fun name _ => Names.lookup_perm distinct h name) path
  | besideReference h h' => rw [compileAt_of_reference h, compileAt_of_reference h']

end Node

/-- **What is ignored does not show.** A schema may be changed at any of its nodes in keywords that are not read for a
validation, in the order of the keywords, and beside references: all values have the same reports, and the schema has
the same error, if it has one. -/
theorem validate_of_ignoredEdits {s t : Json} (h : Relation.ReflTransGen (Json.AtNode IgnoredEdit) s t) :
    (∀ options payload, validate options payload t = validate options payload s) ∧
      ∀ e, Node.compile t = .error e ↔ Node.compile s = .error e := by
  have hbare : (Node.compile s).map Node.bare = (Node.compile t).map Node.bare :=
    Node.map_compileAt_of_changes Node.through_bare Node.map_bare_compileAt_of_ignoredEdit h "#"
  obtain ⟨e, hs, ht⟩ | ⟨node, node', hs, ht, hnode⟩ := cases_of_map_eq hbare
  · unfold validate
    rw [hs, ht]
    exact ⟨fun _ _ => rfl, fun _ => Iff.rfl⟩
  · unfold validate
    rw [hs, ht]
    refine ⟨fun options payload => ?_, fun e => ⟨nofun, nofun⟩⟩
    calc node'.validate options payload
        = node'.bare.validate options payload := (node'.validate_bare options payload).symm
      _ = node.bare.validate options payload := by rw [hnode]
      _ = node.validate options payload := node.validate_bare options payload

/-- A schema of objects whose name and whose parent may be described further. -/
def personSchema (name parent : List (String × Json)) : List (String × Json) :=
  [("required", .array [.string "name"]), ("properties", .object [("name", .object name), ("parent", .object parent)])]

def plainName : List (String × Json) := [("minLength", .ofNat 2)]

/-- Behind this combinator there is no schema, nor is there a regular expression. -/
def brokenBranches : Json := .array [.null, .object [("pattern", .string "(")]]

def brokenName : List (String × Json) := plainName ++ [("allOf", brokenBranches)]

def plainParent : List (String × Json) := [("$ref", .string "#")]

/-- What stands beside the reference would be at fault elsewhere. -/
def brokenParent : List (String × Json) := [("minLength", .string "long"), ("$ref", .string "#")]

/-- The name gets broken branches, the parent a keyword that is at fault, and the keywords change places. -/
theorem ignoredEdits_personSchema :
    Relation.ReflTransGen (Json.AtNode IgnoredEdit) (.object (personSchema plainName plainParent))
      (.object (personSchema brokenName brokenParent).reverse) := by
  have name : Json.AtNode IgnoredEdit (.object (personSchema plainName plainParent))
      (.object (personSchema brokenName plainParent)) := by
    have hput : IgnoredEdit plainName brokenName :=
      .put brokenBranches (show "allOf" ∉ Node.enforcedKeywords by decide)
    exact @Json.AtNode.property IgnoredEdit (personSchema plainName plainParent) _ "name" _ _ rfl rfl (.here hput)
  have parent : Json.AtNode IgnoredEdit (.object (personSchema brokenName plainParent))
      (.object (personSchema brokenName brokenParent)) := by
    have hbeside : IgnoredEdit plainParent brokenParent := .besideReference rfl rfl
    exact @Json.AtNode.property IgnoredEdit (personSchema brokenName plainParent) _ "parent" _ _ rfl rfl (.here hbeside)
  have order : Json.AtNode IgnoredEdit (.object (personSchema brokenName brokenParent))
      (.object (personSchema brokenName brokenParent).reverse) :=
    .here (.reorder (by decide) (List.reverse_perm _).symm)
  exact ((Relation.ReflTransGen.single name).tail parent).tail order

theorem validate_of_ignoredEdits_person :
    Relation.ReflTransGen (Json.AtNode IgnoredEdit) (.object (personSchema plainName plainParent))
        (.object (personSchema brokenName brokenParent).reverse) ∧
      ∀ options payload,
        validate options payload (.object (personSchema brokenName brokenParent).reverse) =
          validate options payload (.object (personSchema plainName plainParent)) :=
  ⟨ignoredEdits_personSchema, (validate_of_ignoredEdits ignoredEdits_personSchema).1⟩

end Schemata

import Schemata.Proofs.Field.Path
import Schemata.Proofs.Field.Resolve
import Schemata.Proofs.Field.Search
import Schemata.Proofs.Schema.Normal
import Schemata.Proofs.Validation.Visit

/-!
# The schema that a validation asks is the schema of the field

* `Visit.DeclaredStep` : a step down to a declared property or to an item;
* `Visit.step_of_declaredStep` : the step of a lookup leads to the same node;
* `Node.resolve_of_reachedDeclared` : so wherever a validation comes by such steps, the lookup of its path leads to the
  node that it asks.
-/

namespace Schemata

namespace Visit

/-- A step down to a declared property or to an item. -/
inductive DeclaredStep : Visit → Visit → Prop
  | property {path node members name child value} (declared : (name, child) ∈ node.properties)
      (there : members.lookup name = some value) :
      DeclaredStep ⟨path, node, .object members⟩ ⟨path ++ [.name name], child, value⟩
  | item {path node values i child value} (items : node.items = some child) (there : values[i]? = some value) :
      DeclaredStep ⟨path, node, .array values⟩ ⟨path ++ [.index i], child, value⟩

/-- A step that a validation takes to a declared property or to an item. -/
def DescendsDeclared (limit : Nat) (v w : Visit) : Prop := Descends limit v w ∧ v.DeclaredStep w

/-- One visit leads to another by such steps. -/
abbrev ReachedDeclared (limit : Nat) : Visit → Visit → Prop := Relation.ReflTransGen (DescendsDeclared limit)

theorem DeclaredStep.child {v w : Visit} (h : v.DeclaredStep w) : v.node.Child w.node := by
  cases h with
  | property declared _ => exact .property declared
  | item items _ => exact .items items

theorem step_of_declaredStep {v w : Visit} (hd : (v.node.properties.map Prod.fst).Nodup) (h : v.DeclaredStep w) :
    ∃ segment, w.path = v.path ++ [segment] ∧ v.node.step segment = .ok w.node := by
  cases h with
  | @property path node members name child value declared there =>
    have hown : node.property? name = some child := Names.lookup_of_mem hd declared
    exact ⟨.name name, rfl, Node.step_name_eq_ok_iff.2 (Node.findProperty?_of_property? hown)⟩
  | @item path node values i child value items there =>
    refine ⟨.index i, rfl, ?_⟩
    simp only [Node.step, items]

end Visit

namespace Node

theorem resolve_path_of_reachedDeclared {root : Node} {payload : Json} {limit : Nat} {v : Visit}
    (hnames : root.Everywhere NamesHere) (h : Visit.ReachedDeclared limit ⟨[], root, payload⟩ v) :
    v.node.Everywhere NamesHere ∧ root.resolve v.path = .resolved v.node := by
  induction h with
  | refl => exact ⟨hnames, resolve_nil root⟩
  | tail _ hs ih =>
    obtain ⟨hhere, hresolve⟩ := ih
    obtain ⟨segment, hpath, hstep⟩ := Visit.step_of_declaredStep hhere.here.properties hs.2
    refine ⟨hhere.child hs.2.child, ?_⟩
    rw [hpath]
    exact resolve_concat_iff.2 ⟨_, hresolve, hstep⟩

/-- **The schema that a validation asks is the schema of the field.** Wherever a validation comes from the root by
declared properties and items, the lookup of the path leads to the node that is asked there; and so does the lookup of
its dotted text, if its segments can stand in one. -/
theorem resolve_of_reachedDeclared {schema : Json} {root : Node} {payload : Json} {limit : Nat} {v : Visit}
    (hc : compile schema = .ok root) (hd : schema.hasDistinctNames = true)
    (h : Visit.ReachedDeclared limit ⟨[], root, payload⟩ v) :
    root.resolve v.path = .resolved v.node ∧
      ((∀ segment ∈ v.path, segment.Dottable) → root.field v.path.toDot = .resolved v.node) := by
  have hresolve := (resolve_path_of_reachedDeclared (everywhere_namesHere hc hd) h).2
  refine ⟨hresolve, fun hdot => ?_⟩
  unfold field
  rw [FieldPath.ofDot?_toDot hdot]
  exact hresolve

/-- A list with a property that is called like a position, of objects that declare a name twice; another schema for
the list is combined with it. -/
def listedSchema : Json :=
  .object [
    ("properties", .object [
      ("list", .object [
        ("properties", .object [("0", .object [("type", .string "boolean")])]),
        ("items", .object [
          ("properties", .object [("id", .object [("type", .string "integer")])]),
          ("allOf", .array [.object [("properties", .object [("id", .object [("type", .string "string")])])]])])])]),
    ("anyOf", .array [.object [("properties", .object [("list", .object [])])]])]

def listedId : Node := schema { kind := some .integer } [] none .open []

def listedOther : Node := schema {} [("id", schema { kind := some .string } [] none .open [])] none .open []

def listedItem : Node := schema {} [("id", listedId)] none .open [(.allOf, [listedOther])]

def listedItems : Node :=
  schema {} [("0", schema { kind := some .boolean } [] none .open [])] (some listedItem) .open []

def listed : Node :=
  schema {} [("list", listedItems)] none .open [(.anyOf, [schema {} [("list", any)] none .open []])]

def listedPayload : Json := .object [("list", .array [.object [("id", .ofNat 7)]])]

theorem reachedDeclared_listed :
    Visit.ReachedDeclared 64 ⟨[], listed, listedPayload⟩
      ⟨[.name "list", .index 0, .name "id"], listedId, .ofNat 7⟩ := by
  have list : Visit.DescendsDeclared 64 ⟨[], listed, listedPayload⟩
      ⟨[.name "list"], listedItems, .array [.object [("id", .ofNat 7)]]⟩ :=
    ⟨⟨⟨by decide, rfl, fun h => nomatch h.1⟩, rfl, .property (List.mem_singleton_self _) rfl⟩,
      .property (List.mem_singleton_self _) rfl⟩
  have item : Visit.DescendsDeclared 64 ⟨[.name "list"], listedItems, .array [.object [("id", .ofNat 7)]]⟩
      ⟨[.name "list", .index 0], listedItem, .object [("id", .ofNat 7)]⟩ :=
    ⟨⟨⟨by decide, rfl, fun h => nomatch h.1⟩, rfl, .item rfl rfl⟩, .item rfl rfl⟩
  have id : Visit.DescendsDeclared 64 ⟨[.name "list", .index 0], listedItem, .object [("id", .ofNat 7)]⟩
      ⟨[.name "list", .index 0, .name "id"], listedId, .ofNat 7⟩ :=
    ⟨⟨⟨by decide, rfl, fun h => nomatch h.1⟩, rfl, .property (List.mem_singleton_self _) rfl⟩,
      .property (List.mem_singleton_self _) rfl⟩
  exact ((Relation.ReflTransGen.single list).tail item).tail id

theorem resolve_of_reachedDeclared_listed :
    compile listedSchema = .ok listed ∧ listedSchema.hasDistinctNames = true ∧
      Visit.ReachedDeclared 64 ⟨[], listed, listedPayload⟩
        ⟨[.name "list", .index 0, .name "id"], listedId, .ofNat 7⟩ ∧
      listed.resolve [.name "list", .index 0, .name "id"] = .resolved listedId ∧
      listed.field "list.0.id" = .resolved listedId := by
  have hc : compile listedSchema = .ok listed := by rfl
  have hd : listedSchema.hasDistinctNames = true := by decide
  have hdot : ∀ segment ∈ [Segment.name "list", .index 0, .name "id"], segment.Dottable := by
    have hlist : Segment.Dottable (.name "list") := ⟨by decide, by decide, Segment.index?_eq_none_iff.1 rfl⟩
    have hzero : Segment.Dottable (.index 0) := Nat.zero_lt_succ _
    have hid : Segment.Dottable (.name "id") := ⟨by decide, by decide, Segment.index?_eq_none_iff.1 rfl⟩
    simp [hlist, hzero, hid]
  have h := resolve_of_reachedDeclared hc hd reachedDeclared_listed
  exact ⟨hc, hd, reachedDeclared_listed, h.1, h.2 hdot⟩

end Node

end Schemata

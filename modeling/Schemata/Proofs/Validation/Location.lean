import Schemata.Proofs.Json.Names
import Schemata.Proofs.Json.Pointer
import Schemata.Proofs.Validation.Violations

/-!
# Where violations point

* `Visit.Step.step?_eq` : a step down leads to the part that its segment names;
* `Visit.Located` : the path of a visit leads to its value in the payload; a step down keeps this, and so
  does everything that a validation reaches;
* `Violation.PointsInto` : what the pointer of a violation says about the payload;
* `Node.pointsInto_of_mem_errors` : this is true of every violation that a validation reports.
-/

namespace Schemata

namespace Visit

theorem Step.step?_eq {v w : Visit} (h : v.Step w) (hd : v.value.hasDistinctNames = true) {segment : Segment}
    (hp : w.path = v.path ++ [segment]) : v.value.step? segment.text = some w.value := by
  cases h with
  | property declared there =>
    obtain rfl := List.singleton_inj.1 (List.append_cancel_left hp)
    exact (Json.step?_name _ _).trans there
  | additional constrained undeclared there =>
    obtain rfl := List.singleton_inj.1 (List.append_cancel_left hp)
    exact (Json.step?_name _ _).trans (Names.lookup_of_mem (Json.hasDistinctNames_object.1 hd).1 there)
  | item items there =>
    obtain rfl := List.singleton_inj.1 (List.append_cancel_left hp)
    exact (Json.step?_index _ _).trans there

/-- The path of a visit leads to its value in the payload. -/
structure Located (payload : Json) (v : Visit) : Prop where
  leads : payload.atTokens? (v.path.map Segment.text) = some v.value
  distinct : v.value.hasDistinctNames = true

theorem Located.root {payload : Json} (hd : payload.hasDistinctNames = true) (node : Node) :
    Located payload ⟨[], node, payload⟩ := ⟨rfl, hd⟩

theorem Located.atTokens?_concat {payload : Json} {v : Visit} (h : v.Located payload) (segment : Segment) :
    payload.atTokens? ((v.path ++ [segment]).map Segment.text) = v.value.step? segment.text := by
  rw [List.map_append, List.map_singleton, Json.atTokens?_concat, h.leads, Option.bind_some]

theorem Located.step {payload : Json} {v w : Visit} (h : v.Located payload) (hs : v.Step w) :
    w.Located payload := by
  obtain ⟨segment, hp⟩ := hs.exists_path_eq
  have hpart := hs.step?_eq h.distinct hp
  refine ⟨?_, (Json.HasPart.of_step? hpart).hasDistinctNames h.distinct⟩
  rw [hp, h.atTokens?_concat, hpart]

theorem Located.reached {payload : Json} {limit : Nat} {v w : Visit} (h : v.Located payload)
    (hr : Reached limit v w) : w.Located payload := by
  induction hr with
  | refl => exact h
  | tail _ hs ih => exact ih.step hs.2.2

end Visit

/-- What the pointer of a violation says about the payload. It leads to the value that was received, for
`type` to one of the kind that was received. For `required` it leads nowhere, and without its last token to
an object that lacks the name of that token. -/
def Violation.PointsInto (payload : Json) (e : Violation) : Prop :=
  match e.kind with
  | .type => ∃ value, payload.atPointer? e.path = some value ∧ e.received = some (.string value.kindName)
  | .required =>
    payload.atPointer? e.path = none ∧
      ∃ front name members, Pointer.tokens? e.path = some (front ++ [name]) ∧
        payload.atTokens? front = some (.object members) ∧ members.lookup name = none
  | .enum | .format | .pattern | .minLength | .maxLength | .minimum | .maximum =>
    ∃ value, payload.atPointer? e.path = some value ∧ e.received = some value
  | .custom => False

theorem Violation.pointsInto_of_breaks {payload : Json} {v : Visit} (h : v.Located payload) {e : Violation}
    {sub : FieldPath} (hb : v.node.rules.Breaks v.value e.kind sub)
    (hp : e.path = FieldPath.toPointer (v.path ++ sub)) (hr : e.received = Rules.received v.value e.kind) :
    e.PointsInto payload := by
  have here : payload.atPointer? (FieldPath.toPointer (v.path ++ [])) = some v.value := by
    rw [List.append_nil, Json.atPointer?_toPointer, h.leads]
  obtain ⟨path, node, value⟩ := v
  unfold PointsInto
  rw [hp, hr]
  generalize e.kind = kind at hb
  cases hb with
  | type asked broken => exact ⟨value, here, rfl⟩
  | @required members name fits asked broken =>
    have hstep := h.atTokens?_concat (.name name)
    refine ⟨?_, path.map Segment.text, name, members, ?_, h.leads, broken⟩
    · rw [Json.atPointer?_toPointer, hstep]
      exact broken
    · rw [FieldPath.tokens?_toPointer, List.map_append]
      rfl
  | _ => exact ⟨_, here, rfl⟩

/-- **A violation points at what it is about.** The pointer of every violation that a validation reports
leads to the value that was received; that of a missing member leads to no value, and its object is there. -/
theorem Node.pointsInto_of_mem_errors (node : Node) (options : ValidateOptions) {payload : Json}
    (hd : payload.hasDistinctNames = true) {e : Violation} (he : e ∈ (node.validate options payload).errors) :
    e.PointsInto payload := by
  have he : e ∈ Visit.errors options.maxDepth ⟨[], node, payload⟩ := he
  obtain ⟨v, hv, -, he⟩ := Visit.mem_errors_iff.1 he
  obtain ⟨sub, hb, hp, hr⟩ := Rules.breaks_of_mem_violations he
  exact Violation.pointsInto_of_breaks ((Visit.Located.root hd node).reached hv) hb hp hr

/-- A list of strings under a name with a slash, beside a required name with a tilde. -/
def slashNode : Node :=
  .schema { kind := some .object, required := ["x~y"] }
    [("a/b", .schema {} [] (some (.schema { kind := some .string } [] none .open [])) .open [])]
    none .open []

def slashPayload : Json := .object [("a/b", .array [.string "", .bool true])]

theorem Node.pointsInto_of_mem_errors_slash :
    slashPayload.hasDistinctNames = true ∧
      ∃ e ∈ (slashNode.validate {} slashPayload).errors, e.path = "/a~1b/1" ∧ e.PointsInto slashPayload := by
  have hd : slashPayload.hasDistinctNames = true := by decide
  have hpath : "/a~1b/1" ∈ (slashNode.validate {} slashPayload).errors.map Violation.path := by decide
  obtain ⟨e, he, hp⟩ := List.mem_map.1 hpath
  exact ⟨hd, e, he, hp, Node.pointsInto_of_mem_errors slashNode {} hd he⟩

end Schemata

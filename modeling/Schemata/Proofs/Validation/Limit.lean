import Schemata.Proofs.Validation.Locality

/-!
# The greatest depth of a validation

* `Json.nesting` : how deep the parts of a value go; `Visit.Reached.length_add_nesting_le` : a validation goes no deeper;
* `Violation.nodeDepth` : the depth of the node that found a violation, read from its pointer;
* `Rules.nodeDepth_of_mem_violations` : it is the length of the path at which the node was asked;
* `Visit.errors_eq_filter` : with a smaller limit, a visit has those of its errors that are not too deep;
* `Node.errors_eq_filter_of_le` : so a smaller limit is a filter, and one that the value does not exceed does nothing.
-/

namespace Schemata

/-! ## Nesting -/

namespace Json

mutual

/-- The most steps that lead from a value to a part of it. -/
def nesting : Json → Nat
  | .array items => itemsNesting items
  | .object members => membersNesting members
  | .null | .bool _ | .number _ | .string _ => 0

def itemsNesting : List Json → Nat
  | [] => 0
  | value :: rest => Nat.max (value.nesting + 1) (itemsNesting rest)

def membersNesting : List (String × Json) → Nat
  | [] => 0
  | (_, value) :: rest => Nat.max (value.nesting + 1) (membersNesting rest)

end

theorem nesting_lt_itemsNesting {items : List Json} {value : Json} (h : value ∈ items) :
    value.nesting < itemsNesting items := by
  induction items with
  | nil => cases h
  | cons first rest ih =>
    rw [itemsNesting]
    rcases List.mem_cons.1 h with rfl | h
    · exact Nat.le_max_left _ _
    · exact Nat.lt_of_lt_of_le (ih h) (Nat.le_max_right _ _)

theorem nesting_lt_membersNesting {members : List (String × Json)} {m : String × Json} (h : m ∈ members) :
    m.2.nesting < membersNesting members := by
  induction members with
  | nil => cases h
  | cons first rest ih =>
    rw [membersNesting]
    rcases List.mem_cons.1 h with rfl | h
    · exact Nat.le_max_left _ _
    · exact Nat.lt_of_lt_of_le (ih h) (Nat.le_max_right _ _)

theorem HasPart.nesting_lt {whole part : Json} (h : whole.HasPart part) : part.nesting < whole.nesting := by
  induction h with
  | member h =>
    rw [nesting]
    exact nesting_lt_membersNesting h
  | item h =>
    rw [nesting]
    exact nesting_lt_itemsNesting h
  | trans _ _ hab hbc => exact Nat.lt_trans hbc hab

end Json

namespace Visit

theorem Reached.length_add_nesting_le {limit : Nat} {v w : Visit} (h : Reached limit v w) :
    w.path.length + w.value.nesting ≤ v.path.length + v.value.nesting := by
  induction h with
  | refl => exact Nat.le_refl _
  | tail _ hs ih =>
    obtain ⟨segment, hp⟩ := hs.2.2.exists_path_eq
    have hlt := hs.2.2.hasPart.nesting_lt
    rw [hp, List.length_append, List.length_singleton]
    omega

end Visit

/-! ## Depth of violations -/

namespace Pointer

theorem count_slash_append (parent : String) (tokens : List String) :
    (append parent tokens).toList.count '/' = parent.toList.count '/' + tokens.length := by
  induction tokens generalizing parent with
  | nil => rfl
  | cons token rest ih =>
    have hnone : (escapeChars token.toList).count '/' = 0 := List.count_eq_zero.2 (slash_not_mem_escapeChars _)
    have hchild : (child parent token).toList.count '/' = parent.toList.count '/' + 1 := by
      rw [toList_child, List.count_append, List.count_cons_self, hnone]
    show (append (child parent token) rest).toList.count '/' = _
    rw [ih, hchild, List.length_cons]
    omega

end Pointer

theorem FieldPath.count_slash_toPointer (path : FieldPath) : path.toPointer.toList.count '/' = path.length := by
  rw [toPointer, Pointer.count_slash_append, List.length_map]
  simp

/-- The depth of the node that found a violation: the number of slashes in the pointer, but that of a missing member
is one below its object. -/
def Violation.nodeDepth (e : Violation) : Nat := e.path.toList.count '/' - if e.kind = .required then 1 else 0

theorem Rules.nodeDepth_of_mem_violations {rules : Rules} {path : FieldPath} {value : Json} {e : Violation}
    (h : e ∈ rules.violations path value) : e.nodeDepth = path.length := by
  obtain ⟨sub, hb, hp, -⟩ := breaks_of_mem_violations h
  rw [Violation.nodeDepth, hp, FieldPath.count_slash_toPointer, List.length_append]
  generalize e.kind = kind at hb
  cases hb with
  | required _ _ _ => rfl
  | _ => rfl

namespace Visit

theorem length_le_nodeDepth_of_mem_errors {limit : Nat} {v : Visit} {e : Violation} (h : e ∈ v.errors limit) :
    v.path.length ≤ e.nodeDepth := by
  obtain ⟨w, hw, -, he⟩ := mem_errors_iff.1 h
  obtain ⟨steps, hsteps⟩ := exists_path_of_reached hw
  rw [Rules.nodeDepth_of_mem_violations he, hsteps, List.length_append]
  exact Nat.le_add_right _ _

theorem nodeDepth_le_of_mem_errors {limit : Nat} {v : Visit} {e : Violation} (h : e ∈ v.errors limit) :
    e.nodeDepth ≤ v.path.length + v.value.nesting := by
  obtain ⟨w, hw, -, he⟩ := mem_errors_iff.1 h
  rw [Rules.nodeDepth_of_mem_violations he]
  exact Nat.le_trans (Nat.le_add_right _ _) hw.length_add_nesting_le

/-! ## Limits -/

/-- With a smaller limit, a visit has those of its errors that are not too deep, in the same order. -/
theorem errors_eq_filter {least greatest : Nat} (hle : least ≤ greatest) (v : Visit) :
    v.errors least = (v.errors greatest).filter fun e => e.nodeDepth ≤ least := by
  by_cases hleast : v.Open least
  · have hgreatest : v.Open greatest := ⟨Nat.le_trans hleast.within hle, hleast.known, hleast.unexcused⟩
    have hown : (v.node.rules.violations v.path v.value).filter (fun e => e.nodeDepth ≤ least)
        = v.node.rules.violations v.path v.value := by
      refine List.filter_eq_self.2 fun e he => ?_
      rw [Rules.nodeDepth_of_mem_violations he]
      exact decide_eq_true hleast.within
    rw [errors_of_open hleast, errors_of_open hgreatest, List.filter_append, hown]
    congr 1
    split
    · rw [List.filter_flatMap]
      refine List.flatMap_congr fun w hw => ?_
      have := (mem_children_iff.1 hw).count_lt
      exact errors_eq_filter hle w
    · rfl
  · rw [errors_of_not_open hleast]
    symm
    refine List.filter_eq_nil_iff.2 fun e he => ?_
    by_cases hgreatest : v.Open greatest
    · -- Only the depth can have closed the visit, and all that it finds is at least as deep.
      have hdeep : ¬ v.path.length ≤ least := fun hw => hleast ⟨hw, hgreatest.known, hgreatest.unexcused⟩
      have := length_le_nodeDepth_of_mem_errors he
      simp only [decide_eq_true_eq]
      omega
    · rw [errors_of_not_open hgreatest] at he
      cases he
termination_by v.node.count

end Visit

namespace Node

/-- **The limit is a filter.** With a smaller limit a validation reports those of the errors, in the same order, whose
node is not deeper than the limit, and no others. A limit that the nesting of the value does not exceed leaves
nothing out. -/
theorem errors_eq_filter_of_le (node : Node) (payload : Json) {least greatest : Nat} (hle : least ≤ greatest) :
    (node.validate ⟨least⟩ payload).errors =
        (node.validate ⟨greatest⟩ payload).errors.filter (fun e => e.nodeDepth ≤ least) ∧
      (node.validate ⟨least⟩ payload).errors.Sublist (node.validate ⟨greatest⟩ payload).errors ∧
      (payload.nesting ≤ least →
        (node.validate ⟨least⟩ payload).errors = (node.validate ⟨greatest⟩ payload).errors) := by
  have hfilter : (node.validate ⟨least⟩ payload).errors =
      (node.validate ⟨greatest⟩ payload).errors.filter fun e => e.nodeDepth ≤ least :=
    Visit.errors_eq_filter hle ⟨[], node, payload⟩
  refine ⟨hfilter, hfilter ▸ List.filter_sublist, fun hn => ?_⟩
  rw [hfilter]
  refine List.filter_eq_self.2 fun e he => decide_eq_true ?_
  have he : e ∈ Visit.errors greatest ⟨[], node, payload⟩ := he
  have := Visit.nodeDepth_le_of_mem_errors he
  rw [List.length_nil, Nat.zero_add] at this
  exact Nat.le_trans this hn

/-- An object and one in it, both without a name that they require, one of them with a slash. -/
def nestedNode : Node :=
  .schema { required := ["id"] } [("part", .schema { required := ["a/b"] } [] none .open [])] none .open []

def nestedPayload : Json := .object [("part", .object [])]

theorem errors_eq_filter_of_le_nested :
    0 ≤ 1 ∧ nestedPayload.nesting = 1 ∧
      (nestedNode.validate ⟨1⟩ nestedPayload).errors.map Violation.path = ["/id", "/part/a~1b"] ∧
      (nestedNode.validate ⟨0⟩ nestedPayload).errors =
        (nestedNode.validate ⟨1⟩ nestedPayload).errors.filter (fun e => e.nodeDepth ≤ 0) ∧
      (nestedNode.validate ⟨0⟩ nestedPayload).errors.map Violation.path = ["/id"] ∧
      (nestedNode.validate ⟨1⟩ nestedPayload).errors = (nestedNode.validate ⟨64⟩ nestedPayload).errors := by
  refine ⟨by decide, by decide, by decide, ?_, by decide, ?_⟩
  · exact (errors_eq_filter_of_le nestedNode nestedPayload (by decide)).1
  · exact (errors_eq_filter_of_le nestedNode nestedPayload (by decide)).2.2 (by decide)

end Node

end Schemata

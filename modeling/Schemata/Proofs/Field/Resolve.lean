import Mathlib.Data.List.Induction
import Schemata.Field.Lookup
import Schemata.Proofs.Schema.Compile

/-!
# A path leads where its steps lead

* `Node.resolveFrom_eq_resolved_iff` : a path leads to the schema that its steps lead to, one after the other;
* `Node.resolve_nil`, `Node.resolve_cons_iff`, `Node.resolve_concat_iff` : hence the empty path, and a path with one
  more step at either end;
* `Node.resolve_of_step_eq_error` : the first step that fails ends the path;
* `Node.FailsAt` : which one that is;
* `Node.resolve_eq_unresolved_iff` : a path leads to no schema if and only if there is one;
* `Node.resolve_composes` : two paths in a row lead where the second one leads after the first one.
-/

namespace Schemata.Node

theorem step_name_eq_ok_iff {node child : Node} {name : String} :
    node.step (.name name) = .ok child ↔ findProperty? name node = some child := by
  rw [step]
  cases findProperty? name node with
  | none => exact ⟨nofun, nofun⟩
  | some found => exact ⟨fun h => congrArg _ (Except.ok.inj h), fun h => congrArg _ (Option.some.inj h)⟩

theorem resolveFrom_eq_resolved_iff {walked : FieldPath} {node child : Node} {path : FieldPath} :
    resolveFrom walked node path = .resolved child ↔ path.foldlM step node = .ok child := by
  induction path generalizing walked node with
  | nil =>
    rw [resolveFrom, List.foldlM_nil, pure_eq_ok]
    exact ⟨Lookup.resolved.inj, congrArg _⟩
  | cons segment rest ih =>
    rw [resolveFrom, List.foldlM_cons]
    cases hs : node.step segment with
    | ok next => exact ih
    | error reason => exact ⟨nofun, nofun⟩

theorem resolve_eq_resolved_iff {node child : Node} {path : FieldPath} :
    node.resolve path = .resolved child ↔ path.foldlM step node = .ok child :=
  resolveFrom_eq_resolved_iff

theorem resolve_nil (node : Node) : node.resolve [] = .resolved node := rfl

theorem resolve_cons_iff {node child : Node} {segment : Segment} {rest : FieldPath} :
    node.resolve (segment :: rest) = .resolved child ↔
      ∃ next, node.step segment = .ok next ∧ next.resolve rest = .resolved child := by
  simp only [resolve_eq_resolved_iff]
  rw [List.foldlM_cons, bind_eq_ok]

theorem resolve_concat_iff {node child : Node} {segment : Segment} {front : FieldPath} :
    node.resolve (front ++ [segment]) = .resolved child ↔
      ∃ last, node.resolve front = .resolved last ∧ last.step segment = .ok child := by
  simp only [resolve_eq_resolved_iff]
  rw [List.foldlM_append, bind_eq_ok]
  simp only [List.foldlM_cons, List.foldlM_nil, bind_pure]

theorem resolveFrom_of_step_eq_error {walked front rest : FieldPath} {node last : Node} {segment : Segment}
    {reason : UnresolvedReason} (hfront : front.foldlM step node = .ok last) (h : last.step segment = .error reason) :
    resolveFrom walked node (front ++ segment :: rest) =
      .unresolved (FieldPath.toDot (walked ++ front ++ [segment])) reason := by
  induction front generalizing walked node with
  | nil =>
    obtain rfl := pure_eq_ok.1 hfront
    rw [List.nil_append, resolveFrom, List.append_nil, h]
  | cons first front ih =>
    obtain ⟨next, hnext, hfront⟩ := bind_eq_ok.1 hfront
    rw [List.cons_append, resolveFrom, hnext]
    dsimp only
    rw [ih hfront, List.append_assoc walked, List.singleton_append]

theorem resolve_of_step_eq_error {front : FieldPath} (rest : FieldPath) {node last : Node} {segment : Segment}
    {reason : UnresolvedReason} (hfront : node.resolve front = .resolved last) (h : last.step segment = .error reason) :
    node.resolve (front ++ segment :: rest) = .unresolved (FieldPath.toDot (front ++ [segment])) reason :=
  resolveFrom_of_step_eq_error (resolve_eq_resolved_iff.1 hfront) h

/-! ## Where a path fails -/

/-- The step after `front` is the first one of the path that fails: `front` leads to a schema, and this has no such
step. -/
structure FailsAt (node : Node) (path front : FieldPath) (segment : Segment) (reason : UnresolvedReason) : Prop where
  begins : front ++ [segment] <+: path
  fails : ∃ last, node.resolve front = .resolved last ∧ last.step segment = .error reason

section Fails

variable {node next : Node} {path first second front : FieldPath} {segment : Segment} {reason : UnresolvedReason}

theorem FailsAt.resolve_eq (h : node.FailsAt path front segment reason) :
    node.resolve path = .unresolved (FieldPath.toDot (front ++ [segment])) reason := by
  obtain ⟨rest, rfl⟩ := h.begins
  obtain ⟨last, hfront, hstep⟩ := h.fails
  rw [List.append_assoc, List.singleton_append]
  exact resolve_of_step_eq_error rest hfront hstep

/-- A longer path fails at the same step. -/
theorem FailsAt.append (h : node.FailsAt first front segment reason) (second : FieldPath) :
    node.FailsAt (first ++ second) front segment reason :=
  ⟨h.begins.trans (List.prefix_append first second), h.fails⟩

theorem resolved_or_failsAt (node : Node) (path : FieldPath) :
    (∃ last, node.resolve path = .resolved last) ∨ ∃ front segment reason, node.FailsAt path front segment reason := by
  -- From the end: a step more leaves the first one that fails where it is.
  induction path using List.reverseRecOn with
  | nil => exact .inl ⟨node, resolve_nil node⟩
  | append_singleton front segment ih =>
    rcases ih with ⟨last, hfront⟩ | ⟨before, failing, reason, h⟩
    · cases hstep : last.step segment with
      | ok child => exact .inl ⟨child, resolve_concat_iff.2 ⟨last, hfront, hstep⟩⟩
      | error reason => exact .inr ⟨front, segment, reason, List.prefix_rfl, last, hfront, hstep⟩
    · exact .inr ⟨before, failing, reason, h.append [segment]⟩

/-- A path leads to no schema if and only if a step of it is the first one that fails; the place ends with that step. -/
theorem resolve_eq_unresolved_iff {place : String} :
    node.resolve path = .unresolved place reason ↔
      ∃ front segment, node.FailsAt path front segment reason ∧ place = FieldPath.toDot (front ++ [segment]) := by
  constructor
  · intro h
    rcases resolved_or_failsAt node path with ⟨last, hresolved⟩ | ⟨front, segment, other, hfails⟩
    · rw [hresolved] at h
      cases h
    · have heq := hfails.resolve_eq
      rw [h] at heq
      obtain ⟨rfl, rfl⟩ := Lookup.unresolved.inj heq
      exact ⟨front, segment, hfails, rfl⟩
  · rintro ⟨front, segment, hfails, rfl⟩
    exact hfails.resolve_eq

/-! ## Paths in a row -/

theorem resolve_append_of_resolved (h : node.resolve first = .resolved next) (second : FieldPath) (last : Node) :
    node.resolve (first ++ second) = .resolved last ↔ next.resolve second = .resolved last := by
  simp only [resolve_eq_resolved_iff] at h ⊢
  rw [List.foldlM_append, h]
  rfl

theorem FailsAt.after (hfirst : node.resolve first = .resolved next) (h : next.FailsAt second front segment reason) :
    node.FailsAt (first ++ second) (first ++ front) segment reason := by
  obtain ⟨last, hfront, hstep⟩ := h.fails
  refine ⟨?_, last, (resolve_append_of_resolved hfirst front last).2 hfront, hstep⟩
  rw [List.append_assoc]
  exact (List.prefix_append_right_inj first).2 h.begins

/-- **Lookups compose.** If the first of two paths leads to a schema, both in a row lead to what the second one leads to
from there; if that is no schema, the reason is the same, and the place is the first path with the beginning of the
second one up to the step that fails. If the first path leads to no schema, both in a row give the same answer; and the
place is always a path of which all but the last step lead to a schema. -/
theorem resolve_composes (node : Node) (first second : FieldPath) :
    (∀ next, node.resolve first = .resolved next →
      (∀ last, node.resolve (first ++ second) = .resolved last ↔ next.resolve second = .resolved last) ∧
      ∀ place reason, next.resolve second = .unresolved place reason →
        ∃ front segment, next.FailsAt second front segment reason ∧ place = FieldPath.toDot (front ++ [segment]) ∧
          node.resolve (first ++ second) = .unresolved (FieldPath.toDot (first ++ (front ++ [segment]))) reason) ∧
    ∀ place reason, node.resolve first = .unresolved place reason →
      node.resolve (first ++ second) = .unresolved place reason ∧
        ∃ front segment, place = FieldPath.toDot (front ++ [segment]) ∧ node.FailsAt first front segment reason := by
  constructor
  · intro next hfirst
    refine ⟨resolve_append_of_resolved hfirst second, ?_⟩
    intro place reason h
    obtain ⟨front, segment, hfails, hplace⟩ := resolve_eq_unresolved_iff.1 h
    refine ⟨front, segment, hfails, hplace, ?_⟩
    rw [← List.append_assoc]
    exact (hfails.after hfirst).resolve_eq
  · intro place reason h
    obtain ⟨front, segment, hfails, rfl⟩ := resolve_eq_unresolved_iff.1 h
    exact ⟨(hfails.append second).resolve_eq, front, segment, rfl, hfails⟩

end Fails

def numberedItem : Node := schema {} [("id", any)] none .open []

def numbered : Node := schema {} [] none .open [(.anyOf, [schema {} [("0", numberedItem)] none .open []])]

theorem resolve_composes_numbered :
    numbered.resolve [.index 0] = .resolved numberedItem ∧
      numbered.resolve [.index 0, .name "id"] = .resolved any ∧
      numberedItem.resolve [.name "id", .index 3] = .unresolved "id.3" .notAnArray ∧
      (∃ front segment, numberedItem.FailsAt [.name "id", .index 3] front segment .notAnArray ∧
        "id.3" = FieldPath.toDot (front ++ [segment]) ∧
        numbered.resolve [.index 0, .name "id", .index 3] =
          .unresolved (FieldPath.toDot (.index 0 :: (front ++ [segment]))) .notAnArray) ∧
      numbered.resolve [.index 0, .name "id", .index 3] = .unresolved "0.id.3" .notAnArray ∧
      numbered.resolve [.index 0, .name "id", .index 3, .name "unit"] = .unresolved "0.id.3" .notAnArray := by
  have hfirst : numbered.resolve [.index 0] = .resolved numberedItem := rfl
  have hfails : numberedItem.resolve [.name "id", .index 3] = .unresolved "id.3" .notAnArray := rfl
  have hboth : numbered.resolve [.index 0, .name "id", .index 3] = .unresolved "0.id.3" .notAnArray := rfl
  have hid := ((resolve_composes numbered [.index 0] [.name "id"]).1 _ hfirst).1 any
  have hplace := ((resolve_composes numbered [.index 0] [.name "id", .index 3]).1 _ hfirst).2 _ _ hfails
  have hlonger := ((resolve_composes numbered [.index 0, .name "id", .index 3] [.name "unit"]).2 _ _ hboth).1
  exact ⟨hfirst, hid.2 rfl, hfails, hplace, hboth, hlonger⟩

end Schemata.Node

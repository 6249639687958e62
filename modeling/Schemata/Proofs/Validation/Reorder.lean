import Mathlib.Data.List.Perm.Basic
import Schemata.Proofs.Json.Reorder
import Schemata.Proofs.Schema.Compile
import Schemata.Proofs.Validation.Locality

/-!
# The order of members does not matter

* `Violation.Alike` : two violations that differ in the order of members of what was received, at most;
* `Violation.Agree` : two lists of such violations, in another order at most, or in the same one where that is asked;
* `Rules.forall₂_violations` : a node finds the same at a value whose members are in another order;
* `Visit.children_of_perm` : it asks about the same parts, and in the same order if it constrains no further members;
* `Visit.agree_errors_of_reorders` : so an object in another order keeps the errors;
* `Node.validate_of_reordered` : so do any number of them, and with them the verdict and the summary.
-/

namespace Schemata

/-! ## Violations that agree -/

namespace Violation

/-- The violations differ in the order of members of what was received, at most. -/
structure Alike (e e' : Violation) : Prop where
  others : e' = { e with received := e'.received }
  received : Option.Rel Json.Reordered e.received e'.received

theorem Alike.refl (e : Violation) : e.Alike e := by
  refine ⟨rfl, ?_⟩
  cases e.received with
  | none => exact .none
  | some value => exact .some .refl

theorem Alike.trans {a b c : Violation} (hab : a.Alike b) (hbc : b.Alike c) : a.Alike c := by
  refine ⟨?_, ?_⟩
  · have hc := hbc.others
    rw [hab.others] at hc
    exact hc
  · have hrel : ∀ {x y z : Option Json}, Option.Rel Json.Reordered x y → Option.Rel Json.Reordered y z →
        Option.Rel Json.Reordered x z := by
      intro x y z hxy hyz
      cases hxy with
      | none => exact hyz
      | some hxy =>
        cases hyz with
        | some hyz => exact .some (hxy.trans hyz)
    exact hrel hab.received hbc.received

theorem Alike.forall₂_refl (found : List Violation) : List.Forall₂ Alike found found :=
  List.forall₂_same.2 fun e _ => .refl e

theorem Alike.forall₂_trans {a b c : List Violation} (hab : List.Forall₂ Alike a b) (hbc : List.Forall₂ Alike b c) :
    List.Forall₂ Alike a c := by
  induction hab generalizing c with
  | nil => exact hbc
  | cons h _ ih =>
    cases hbc with
    | cons h' hrest => exact .cons (h.trans h') (ih hrest)

/-- The same violations, each alike, in some order; and in the same order if it is `ordered`. -/
structure Agree (ordered : Prop) (found found' : List Violation) : Prop where
  anyOrder : Relation.Comp List.Perm (List.Forall₂ Alike) found found'
  inOrder : ordered → List.Forall₂ Alike found found'

namespace Agree

variable {ordered : Prop} {a b c d : List Violation}

theorem of_forall₂ (h : List.Forall₂ Alike a b) : Agree ordered a b := ⟨⟨a, .refl a, h⟩, fun _ => h⟩

theorem refl (a : List Violation) : Agree ordered a a := of_forall₂ (Alike.forall₂_refl a)

theorem of_perm (h : a.Perm b) (ho : ordered → b = a) : Agree ordered a b := by
  refine ⟨⟨b, h, Alike.forall₂_refl b⟩, ?_⟩
  intro hordered
  rw [ho hordered]
  exact Alike.forall₂_refl a

theorem append (hab : Agree ordered a b) (hcd : Agree ordered c d) : Agree ordered (a ++ c) (b ++ d) := by
  refine ⟨?_, fun ho => List.rel_append (hab.inOrder ho) (hcd.inOrder ho)⟩
  obtain ⟨between, hperm, hall⟩ := hab.anyOrder
  obtain ⟨between', hperm', hall'⟩ := hcd.anyOrder
  exact ⟨between ++ between', hperm.append hperm', List.rel_append hall hall'⟩

theorem flatMap {α : Type} {as : List α} {f g : α → List Violation} (h : ∀ a ∈ as, Agree ordered (f a) (g a)) :
    Agree ordered (as.flatMap f) (as.flatMap g) := by
  induction as with
  | nil => exact refl []
  | cons a rest ih =>
    rw [List.flatMap_cons, List.flatMap_cons]
    exact (h a (List.mem_cons_self ..)).append (ih fun b hb => h b (List.mem_cons_of_mem _ hb))

theorem trans (hab : Agree ordered a b) (hbc : Agree ordered b c) : Agree ordered a c := by
  refine ⟨?_, fun ho => Alike.forall₂_trans (hab.inOrder ho) (hbc.inOrder ho)⟩
  obtain ⟨between, hperm, hall⟩ := hab.anyOrder
  obtain ⟨between', hperm', hall'⟩ := hbc.anyOrder
  -- The second change of order may as well come first.
  have hswap : Relation.Comp List.Perm (List.Forall₂ Alike) between between' := by
    rw [← List.forall₂_comp_perm_eq_perm_comp_forall₂]
    exact ⟨b, hall, hperm'⟩
  obtain ⟨first, hfirst, hlast⟩ := hswap
  exact ⟨first, hperm.trans hfirst, Alike.forall₂_trans hlast hall'⟩

theorem length_eq (h : Agree ordered a b) : b.length = a.length := by
  obtain ⟨between, hperm, hall⟩ := h.anyOrder
  rw [← hall.length_eq, hperm.length_eq]

end Agree

end Violation

/-! ## What a node finds -/

namespace Json.Reorders

variable {value value' : Json}

theorem sameShell (h : value.Reorders value') (hd : value.hasDistinctNames = true) : value.SameShell value' := by
  cases h with
  | here h =>
    refine .object fun name => ?_
    rw [Names.lookup_perm (hasDistinctNames_object.1 hd).1 h]
  | member there _ => exact .setMember there
  | item _ _ => exact .array

theorem any_equal (h : value.Reorders value') (hd : value.hasDistinctNames = true) (candidates : List Json) :
    (candidates.any fun candidate => candidate.equal value') =
      candidates.any fun candidate => candidate.equal value := by
  unfold equal
  simp only [h.equalBy_eq hd]

end Json.Reorders

namespace Rules

theorem forall₂_keyword {α : Type} {asked : Option α} {meets meets' : α → Bool} {violation violation' : α → Violation}
    (hmeets : ∀ a, meets' a = meets a) (halike : ∀ a, (violation a).Alike (violation' a)) :
    List.Forall₂ Violation.Alike (keyword asked meets violation) (keyword asked meets' violation') := by
  obtain rfl : meets' = meets := funext hmeets
  unfold keyword
  cases asked with
  | none => exact .nil
  | some a =>
    dsimp only
    split
    · exact .nil
    · exact .cons (halike a) .nil

/-- A node finds the same at a value whose members are in another order. -/
theorem forall₂_violations {value value' : Json} (h : value.Reorders value') (hd : value.hasDistinctNames = true)
    (rules : Rules) (path : FieldPath) :
    List.Forall₂ Violation.Alike (rules.violations path value) (rules.violations path value') := by
  have hshell := h.sameShell hd
  have hallowed : List.Forall₂ Violation.Alike (rules.checkAllowed path value) (rules.checkAllowed path value') :=
    forall₂_keyword (fun candidates => h.any_equal hd candidates) fun _ => ⟨rfl, .some (.single h)⟩
  unfold violations
  rw [hshell.typeError?]
  cases rules.typeError? path value with
  | some violation => exact Violation.Alike.forall₂_refl _
  | none =>
    dsimp only
    rw [hshell.checkContent]
    exact List.rel_append hallowed (Violation.Alike.forall₂_refl _)

end Rules

/-! ## What it asks about -/

/-- The node says something about members that it does not declare. -/
def Node.ConstrainsFurther (node : Node) : Prop := ∃ child, node.additional = .constrained child

namespace Visit

variable {path : FieldPath} {node : Node}

/-- Members in another order are asked about in that order if they are not declared, and else in the same order. -/
theorem children_of_perm (path : FieldPath) (node : Node) {members members' : List (String × Json)}
    (hd : (members.map Prod.fst).Nodup) (h : members.Perm members') :
    (children ⟨path, node, .object members⟩).Perm (children ⟨path, node, .object members'⟩) ∧
      (¬ node.ConstrainsFurther →
        children ⟨path, node, .object members'⟩ = children ⟨path, node, .object members⟩) := by
  have hdeclared : ofProperty? path members' = ofProperty? path members := by
    funext entry
    unfold ofProperty?
    rw [Names.lookup_perm hd h]
  unfold children
  dsimp only
  rw [hdeclared]
  constructor
  · refine List.Perm.append_left _ ?_
    cases node.additional with
    | constrained child => exact (h.filter _).map _
    | «open» => exact .nil
    | forbidden => exact .nil
  · intro hnone
    congr 1
    cases hadd : node.additional with
    | constrained child => exact absurd ⟨child, hadd⟩ hnone
    | «open» => rfl
    | forbidden => rfl

variable {limit : Nat} {ordered : Prop} {value value' : Json}

theorem agree_errors_of_children (h : value.Reorders value') (hd : value.hasDistinctNames = true)
    (hbelow : Violation.Agree ordered ((children ⟨path, node, value⟩).flatMap (errors limit))
      ((children ⟨path, node, value'⟩).flatMap (errors limit))) :
    Violation.Agree ordered (errors limit ⟨path, node, value⟩) (errors limit ⟨path, node, value'⟩) := by
  have hshell := h.sameShell hd
  by_cases hopen : Open limit ⟨path, node, value⟩
  · have hopen' : Open limit ⟨path, node, value'⟩ :=
      ⟨hopen.within, hopen.known, fun hnull => hshell.ne_null.2 hnull.1⟩
    rw [errors_of_open hopen, errors_of_open hopen']
    dsimp only
    rw [hshell.fits]
    refine .append (.of_forall₂ (Rules.forall₂_violations h hd node.rules path)) ?_
    split
    · exact hbelow
    · exact .refl []
  · have hopen' : ¬ Open limit ⟨path, node, value'⟩ := fun hother =>
      hopen ⟨hother.within, hother.known, fun hnull => hshell.ne_null.1 hnull.1⟩
    rw [errors_of_not_open hopen, errors_of_not_open hopen']
    exact .refl []

/-- The errors of the children agree if those of the one whose value changes do. -/
theorem agree_flatMap_put (segment : Segment) {old new : Json} (hd : value.hasDistinctNames = true)
    (there : value.step? segment.text = some old)
    (hbelow : ∀ child, node.Child child → Violation.Agree ordered (errors limit ⟨path ++ [segment], child, old⟩)
      (errors limit ⟨path ++ [segment], child, new⟩)) :
    Violation.Agree ordered ((children ⟨path, node, value⟩).flatMap (errors limit))
      (((children ⟨path, node, value⟩).map (put (path ++ [segment]) new)).flatMap (errors limit)) := by
  rw [List.flatMap_map]
  refine .flatMap fun v hv => ?_
  by_cases hp : v.path = path ++ [segment]
  · have hstep := mem_children_iff.1 hv
    have hvalue : value.step? segment.text = some v.value := hstep.step?_eq hd hp
    obtain rfl := Option.some.inj (there.symm.trans hvalue)
    have hchild := hbelow v.node hstep.child
    rw [put_of_path hp]
    rw [← hp] at hchild
    exact hchild
  · rw [put_of_path_ne hp]
    exact .refl _

/-- **One object in another order keeps the errors.** -/
theorem agree_errors_of_reorders (h : value.Reorders value') (hd : value.hasDistinctNames = true)
    (ho : ordered → node.Everywhere fun n => ¬ n.ConstrainsFurther) (path : FieldPath) :
    Violation.Agree ordered (errors limit ⟨path, node, value⟩) (errors limit ⟨path, node, value'⟩) := by
  induction h generalizing path node with
  | @here members members' h =>
    refine agree_errors_of_children (.here h) hd ?_
    obtain ⟨hperm, hsame⟩ := children_of_perm path node (Json.hasDistinctNames_object.1 hd).1 h
    refine .of_perm (hperm.flatMap_right _) fun hordered => ?_
    rw [hsame (ho hordered).here]
  | @member members name old new there h ih =>
    refine agree_errors_of_children (.member there h) hd ?_
    have hnames := (Json.hasDistinctNames_object.1 hd).1
    rw [children_put_member hnames (Json.mem_keys_of_lookup there)]
    refine agree_flatMap_put (.name name) hd there fun child hchild => ?_
    exact ih ((Json.HasPart.of_lookup there).hasDistinctNames hd) (fun hordered => (ho hordered).child hchild) _
  | @item items i old new there h ih =>
    refine agree_errors_of_children (.item there h) hd ?_
    have hold : old.hasDistinctNames = true :=
      Json.hasDistinctNames_array.1 hd old (List.mem_of_getElem? there)
    rw [children_put_item]
    refine agree_flatMap_put (.index i) hd ((Json.step?_index _ _).trans there) fun child hchild => ?_
    exact ih hold (fun hordered => (ho hordered).child hchild) _

theorem agree_errors_of_reordered (h : value.Reordered value') (hd : value.hasDistinctNames = true)
    (ho : ordered → node.Everywhere fun n => ¬ n.ConstrainsFurther) (path : FieldPath) :
    Violation.Agree ordered (errors limit ⟨path, node, value⟩) (errors limit ⟨path, node, value'⟩) := by
  induction h with
  | refl => exact .refl _
  | @tail between value' hbefore hlast ih =>
    have hdb : between.hasDistinctNames = true := Json.Reordered.hasDistinctNames hbefore hd
    exact ih.trans (agree_errors_of_reorders hlast hdb ho path)

end Visit

/-! ## Reports -/

namespace Node

/-- **The order of members does not matter.** A payload whose objects have their members in another order has the same
verdict and the same summary. Its errors are the same ones in some order, up to the order of members of the values that
they show; and they are in the same order, that of the declarations, if no node of the schema constrains members that it
does not declare. -/
theorem validate_of_reordered (node : Node) (options : ValidateOptions) {payload payload' : Json}
    (hd : payload.hasDistinctNames = true) (h : payload.Reordered payload') :
    (node.validate options payload').valid = (node.validate options payload).valid ∧
      (node.validate options payload').summary = (node.validate options payload).summary ∧
      (∃ found, (node.validate options payload).errors.Perm found ∧
        List.Forall₂ Violation.Alike found (node.validate options payload').errors) ∧
      (node.Everywhere (fun n => ¬ n.ConstrainsFurther) →
        List.Forall₂ Violation.Alike (node.validate options payload).errors
          (node.validate options payload').errors) := by
  have hagree : Violation.Agree (node.Everywhere fun n => ¬ n.ConstrainsFurther)
      (node.validate options payload).errors (node.validate options payload').errors :=
    Visit.agree_errors_of_reordered h hd id []
  have hlength := hagree.length_eq
  refine ⟨?_, ?_, hagree.anyOrder, hagree.inOrder⟩
  · show (node.validate options payload').errors.isEmpty = (node.validate options payload).errors.isEmpty
    rw [Bool.eq_iff_iff, List.isEmpty_iff_length_eq_zero, List.isEmpty_iff_length_eq_zero, hlength]
  · show Report.summarize (node.validate options payload').errors.length =
      Report.summarize (node.validate options payload).errors.length
    rw [hlength]

/-- A parcel has an identifier, a size that is one of a few, and stamps, which are texts. -/
def parcelNode : Node :=
  schema { kind := some .object, required := ["id"] }
    [("size", schema { allowed := some [.object [("w", .ofNat 1), ("h", .ofNat 2)]] } [] none .open [])] none
    (.constrained (schema { kind := some .string } [] none .open [])) []

/-- A parcel without an identifier, with a size and two stamps that are no texts. -/
def parcelMembers (size : List (String × Json)) : List (String × Json) :=
  [("b", .ofNat 1), ("a", .bool true), ("size", .object size)]

def parcelSize : List (String × Json) := [("w", .ofNat 1), ("h", .ofNat 3)]

def parcelPayload : Json := .object (parcelMembers parcelSize)

/-- The members of the parcel and those of its size are in the opposite order. -/
def parcelReversed : Json := .object (parcelMembers parcelSize.reverse).reverse

theorem reordered_parcel : parcelPayload.Reordered parcelReversed := by
  have size : parcelPayload.Reorders (.object (parcelMembers parcelSize.reverse)) :=
    @Json.Reorders.member (parcelMembers parcelSize) "size" _ _ rfl (.here (List.reverse_perm _).symm)
  have parcel : Json.Reorders (.object (parcelMembers parcelSize.reverse)) parcelReversed :=
    .here (List.reverse_perm _).symm
  exact .tail (.single size) parcel

theorem validate_of_reordered_parcel :
    parcelPayload.hasDistinctNames = true ∧ parcelPayload.Reordered parcelReversed ∧
      (parcelNode.validate {} parcelReversed).summary = (parcelNode.validate {} parcelPayload).summary ∧
      (∃ found, (parcelNode.validate {} parcelPayload).errors.Perm found ∧
        List.Forall₂ Violation.Alike found (parcelNode.validate {} parcelReversed).errors) ∧
      (parcelNode.validate {} parcelPayload).errors.map Violation.path = ["/id", "/size", "/b", "/a"] ∧
      (parcelNode.validate {} parcelReversed).errors.map Violation.path = ["/id", "/size", "/a", "/b"] := by
  have hd : parcelPayload.hasDistinctNames = true := by decide
  obtain ⟨-, hsummary, hfound, -⟩ := validate_of_reordered parcelNode {} hd reordered_parcel
  exact ⟨hd, reordered_parcel, hsummary, hfound, by decide, by decide⟩

end Node

end Schemata

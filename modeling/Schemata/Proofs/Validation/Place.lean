import Mathlib.Data.List.Count
import Mathlib.Data.List.Nodup
import Schemata.Proofs.Schema.Normal
import Schemata.Proofs.Validation.Locality

/-!
# No place is visited twice

* `Visit.Named` : no name stands twice where a visit looks, neither in its schema nor in its value; a step keeps this;
* `Visit.pairwise_children` : then no two children of a visit are at one place;
* `Visit.filter_isWithin_of_reached` : so the errors at the place of a reached visit and below it are its own errors and
  those of its children, and no others;
* `Node.filter_errors_of_type` : a wrong kind is the only error at its place and below;
* `Node.nodup_sites_iff` : errors of the same kind at the same place are missing members whose name is listed twice.
-/

namespace Schemata

namespace Visit

def tokens (v : Visit) : List String := v.path.map Segment.text

/-- No object in the value and no schema in the node has a name twice. -/
structure Named (v : Visit) : Prop where
  schema : v.node.Everywhere Node.NamesHere
  value : v.value.hasDistinctNames = true

theorem Named.root {schema payload : Json} {node : Node} (hc : Node.compile schema = .ok node)
    (hs : schema.hasDistinctNames = true) (hp : payload.hasDistinctNames = true) : Named ⟨[], node, payload⟩ :=
  ⟨Node.everywhere_namesHere hc hs, hp⟩

theorem Named.step {v w : Visit} (h : v.Named) (hs : v.Step w) : w.Named :=
  ⟨h.schema.child hs.child, hs.hasPart.hasDistinctNames h.value⟩

theorem Named.reached {limit : Nat} {v w : Visit} (h : v.Named) (hr : Reached limit v w) : w.Named := by
  induction hr with
  | refl => exact h
  | tail _ hs ih => exact ih.step hs.2.2

theorem Step.exists_tokens_eq {v w : Visit} (h : v.Step w) : ∃ token, w.tokens = v.tokens ++ [token] := by
  obtain ⟨segment, hp⟩ := h.exists_path_eq
  exact ⟨segment.text, by rw [tokens, hp, List.map_append]; rfl⟩

/-! ## Children -/

theorem tokens_concat_ne {path : FieldPath} {a b : Segment} (h : a.text ≠ b.text) :
    (path ++ [a]).map Segment.text ≠ (path ++ [b]).map Segment.text := by
  rw [List.map_append, List.map_append]
  exact fun heq => h (List.singleton_inj.1 (List.append_cancel_left heq))

theorem pairwise_ofItems (path : FieldPath) (values : List Json) (items : Option Node) :
    (ofItems path values items).Pairwise fun a b => a.tokens ≠ b.tokens := by
  cases items with
  | none => exact .nil
  | some child =>
    rw [ofItems, List.pairwise_iff_getElem]
    intro i j hi hj hij
    rw [List.getElem_mapIdx, List.getElem_mapIdx]
    refine tokens_concat_ne fun heq => ?_
    have hpos := congrArg Pointer.position? heq
    simp only [Segment.text, Pointer.position?_toString, Option.some.injEq] at hpos
    omega

theorem pairwise_children {v : Visit} (h : v.Named) : v.children.Pairwise fun a b => a.tokens ≠ b.tokens := by
  obtain ⟨path, node, value⟩ := v
  cases value with
  | object members =>
    have hdeclared : node.properties.Pairwise fun a b => a.1 ≠ b.1 := List.pairwise_map.1 h.schema.here.properties
    have hmembers : members.Pairwise fun a b => a.1 ≠ b.1 :=
      List.pairwise_map.1 (Json.hasDistinctNames_object.1 h.value).1
    refine List.pairwise_append.2 ⟨?_, ?_, ?_⟩
    · -- The declared properties.
      refine List.pairwise_filterMap.2 (hdeclared.imp fun hne a ha b hb => ?_)
      obtain ⟨_, _, rfl⟩ := Option.map_eq_some_iff.1 ha
      obtain ⟨_, _, rfl⟩ := Option.map_eq_some_iff.1 hb
      exact tokens_concat_ne hne
    · -- The members that are not declared.
      cases node.additional with
      | constrained child => exact List.pairwise_map.2 ((hmembers.filter _).imp fun hne => tokens_concat_ne hne)
      | _ => exact .nil
    · rintro a ha b hb
      obtain ⟨entry, hentry, ha⟩ := List.mem_filterMap.1 ha
      obtain ⟨_, _, rfl⟩ := Option.map_eq_some_iff.1 ha
      obtain ⟨_, m, _, hm, rfl⟩ := mem_ofAdditional.1 hb
      have hundeclared : node.property? m.1 = none := by simpa using (List.mem_filter.1 hm).2
      have hne : entry.1 ≠ m.1 := by
        rintro heq
        refine Names.lookup_eq_none_iff.1 hundeclared (List.mem_map.2 ⟨entry, hentry, heq⟩)
      exact tokens_concat_ne hne
  | array values => exact pairwise_ofItems ..
  | _ => exact .nil

/-! ## Errors at a place -/

variable {limit : Nat} {v w : Visit} {e : Violation}

theorem isWithin_of_mem_errors (h : e ∈ v.errors limit) : e.isWithin v.tokens = true := by
  obtain ⟨below, hbelow⟩ := path_of_mem_errors h
  exact (Violation.isWithin_iff hbelow).2 (List.prefix_append _ _)

/-- What is found at one child is not at the place of another one or below it. -/
theorem isWithin_sibling_eq_false {u : Visit} (hu : v.Step u) (hw : v.Step w) (hne : u.tokens ≠ w.tokens)
    (he : e ∈ u.errors limit) : e.isWithin w.tokens = false := by
  obtain ⟨below, hbelow⟩ := path_of_mem_errors he
  rw [Bool.eq_false_iff, ne_eq, Violation.isWithin_iff hbelow]
  intro hprefix
  -- Both places are one step below the same one.
  obtain ⟨a, ha⟩ := hu.exists_tokens_eq
  obtain ⟨b, hb⟩ := hw.exists_tokens_eq
  have hlength : w.tokens.length = u.tokens.length := by rw [ha, hb, List.length_append, List.length_append]; rfl
  have hsame : w.tokens <+: u.tokens :=
    List.prefix_of_prefix_length_le hprefix (List.prefix_append _ _) (Nat.le_of_eq hlength)
  exact hne (hsame.eq_of_length hlength).symm

/-- What a node finds at a value does not stand at the place of a child or below it. -/
theorem isWithin_child_eq_false (hv : v.Named) (hs : v.Step w) (he : e ∈ v.node.rules.violations v.path v.value) :
    e.isWithin w.tokens = false := by
  obtain ⟨sub, hb, hp, -⟩ := Rules.breaks_of_mem_violations he
  obtain ⟨segment, hpath⟩ := hs.exists_path_eq
  have hpart := hs.step?_eq hv.value hpath
  rw [Bool.eq_false_iff, ne_eq, Violation.isWithin_iff hp, tokens, hpath]
  simp only [List.map_append, List.prefix_append_right_inj]
  generalize v.value = value at hb hpart
  generalize e.kind = kind at hb
  cases hb with
  | @required members name fits asked broken =>
    -- The child has a member, and this one is missing.
    intro hprefix
    have htext : segment.text = (Segment.name name).text := by simpa using hprefix
    rw [htext] at hpart
    exact nomatch broken.symm.trans hpart
  | _ => simp

/-- The errors of a visit at the place of a child and below it are those of the child. -/
theorem filter_isWithin_of_descends (hv : v.Named) (h : Descends limit v w) :
    (v.errors limit).filter (Violation.isWithin w.tokens) = w.errors limit := by
  obtain ⟨hopen, hfits, hstep⟩ := h
  obtain ⟨front, back, hsplit⟩ := List.append_of_mem (mem_children_iff.2 hstep)
  have hpairwise := pairwise_children hv
  rw [hsplit, List.pairwise_append, List.pairwise_cons] at hpairwise
  obtain ⟨-, ⟨hback, -⟩, hfront⟩ := hpairwise
  have hother : ∀ others : List Visit, (∀ u ∈ others, u ∈ v.children ∧ u.tokens ≠ w.tokens) →
      (others.flatMap (errors limit)).filter (Violation.isWithin w.tokens) = [] := by
    intro others hothers
    rw [List.filter_flatMap, List.flatMap_eq_nil_iff]
    intro u hu
    obtain ⟨hchild, hne⟩ := hothers u hu
    exact List.filter_eq_nil_iff.2 fun e he => by
      simp [isWithin_sibling_eq_false (mem_children_iff.1 hchild) hstep hne he]
  have hfrontNil := hother front fun u hu => ⟨by simp [hsplit, hu], hfront u hu w (List.mem_cons_self ..)⟩
  have hbackNil := hother back fun u hu => ⟨by simp [hsplit, hu], (hback u hu).symm⟩
  have hself : (w.errors limit).filter (Violation.isWithin w.tokens) = w.errors limit :=
    List.filter_eq_self.2 fun e he => isWithin_of_mem_errors he
  have hown : (v.node.rules.violations v.path v.value).filter (Violation.isWithin w.tokens) = [] :=
    List.filter_eq_nil_iff.2 fun e he => by simp [isWithin_child_eq_false hv hstep he]
  rw [errors_of_open hopen, if_pos hfits, hsplit, List.filter_append, hown, List.flatMap_append, List.flatMap_cons,
    List.filter_append, List.filter_append, hfrontNil, hbackNil, hself, List.nil_append, List.nil_append,
    List.append_nil]

/-- **The errors at the place of a reached visit and below it** are those of that visit. -/
theorem filter_isWithin_of_reached (hv : v.Named) (h : Reached limit v w) :
    (v.errors limit).filter (Violation.isWithin w.tokens) = w.errors limit := by
  induction h using Relation.ReflTransGen.head_induction_on with
  | refl => exact List.filter_eq_self.2 fun e he => isWithin_of_mem_errors he
  | @head v u hs hr ih =>
    obtain ⟨steps, hsteps⟩ := exists_path_of_reached hr
    have hbelow : u.tokens <+: w.tokens := ⟨steps.map Segment.text, by rw [tokens, tokens, hsteps, List.map_append]⟩
    -- Whatever is within the place of the last visit is within that of the first one.
    have hfilter : (v.errors limit).filter (Violation.isWithin w.tokens) =
        ((v.errors limit).filter (Violation.isWithin u.tokens)).filter (Violation.isWithin w.tokens) := by
      rw [List.filter_filter]
      refine List.filter_congr fun e he => ?_
      obtain ⟨below, hpath⟩ := path_of_mem_errors he
      cases hin : e.isWithin w.tokens with
      | false => rfl
      | true => exact ((Violation.isWithin_iff hpath).2 (hbelow.trans ((Violation.isWithin_iff hpath).1 hin))).symm
    rw [hfilter, filter_isWithin_of_descends hv hs, ih (hv.step hs.2.2)]

/-- At the place of a broken keyword of a reached visit, a validation finds what the node finds by itself. -/
theorem filter_path_of_reached (hv : v.Named) (h : Reached limit v w) (hw : w.Open limit) {kind : ViolationKind}
    {sub : FieldPath} (hb : w.node.rules.Breaks w.value kind sub) :
    (v.errors limit).filter (fun e => e.path == FieldPath.toPointer (w.path ++ sub)) =
      (w.node.rules.violations w.path w.value).filter fun e => e.path == FieldPath.toPointer (w.path ++ sub) := by
  obtain ⟨found, hfound, -, hplace⟩ := Rules.exists_mem_violations_of_breaks hb w.path
  rw [← hplace]
  -- The place is within that of the visit.
  have hwithin : found.isWithin w.tokens = true := by
    refine (Violation.isWithin_iff hplace).2 ?_
    rw [List.map_append]
    exact List.prefix_append _ _
  have hfilter : (v.errors limit).filter (fun e => e.path == found.path) =
      (w.errors limit).filter fun e => e.path == found.path := by
    rw [← filter_isWithin_of_reached hv h, List.filter_filter]
    refine List.filter_congr fun e _ => ?_
    cases hpath : e.path == found.path with
    | false => rfl
    | true =>
      rw [Violation.isWithin, beq_iff_eq.1 hpath]
      exact hwithin.symm
  rw [hfilter, errors_of_open hw, List.filter_append]
  split
  · -- It is not within that of a child.
    rw [List.filter_flatMap, List.flatMap_eq_nil_iff.2, List.append_nil]
    intro u hu
    have hapart := isWithin_child_eq_false (hv.reached h) (mem_children_iff.1 hu) hfound
    refine List.filter_eq_nil_iff.2 fun e he hpath => ?_
    have hin := isWithin_of_mem_errors he
    rw [Violation.isWithin, beq_iff_eq.1 hpath] at hin
    exact absurd (hin.symm.trans hapart) (by decide)
  · simp

end Visit

/-! ## Wrong kinds -/

namespace Rules

variable {rules : Rules} {path : FieldPath} {value : Json} {e : Violation}

/-- A wrong kind is all that a node finds. -/
theorem violations_of_type (h : e ∈ rules.violations path value) (hk : e.kind = .type) :
    rules.fits value = false ∧ e.path = path.toPointer ∧ rules.violations path value = [e] := by
  obtain ⟨sub, hb, hp, -⟩ := breaks_of_mem_violations h
  rw [hk] at hb
  cases hb with
  | type asked broken =>
    have hfits : rules.fits value = false := by simp [fits, asked, broken]
    refine ⟨hfits, by rw [hp, List.append_nil], ?_⟩
    unfold violations at h ⊢
    cases ht : rules.typeError? path value with
    | none => exact absurd (typeError?_eq_none_iff.1 ht) (by simp [hfits])
    | some violation =>
      rw [ht] at h
      rw [List.mem_singleton.1 h]

end Rules

namespace Node

variable {schema payload : Json} {node : Node} {e : Violation}

/-- **A wrong kind hides all else at its place and below.** An error of a wrong kind is the only one whose pointer is the
same or goes on behind it with a slash. -/
theorem filter_errors_of_type (hc : compile schema = .ok node) (hs : schema.hasDistinctNames = true)
    (hp : payload.hasDistinctNames = true) (options : ValidateOptions)
    (he : e ∈ (node.validate options payload).errors) (hk : e.kind = .type) :
    (node.validate options payload).errors.filter
      (fun other => other.path == e.path || (e.path ++ "/").toList.isPrefixOf other.path.toList) = [e] := by
  have hroot := Visit.Named.root hc hs hp
  have he : e ∈ Visit.errors options.maxDepth ⟨[], node, payload⟩ := he
  obtain ⟨w, hw, hopen, he⟩ := Visit.mem_errors_iff.1 he
  obtain ⟨hfits, hpath, hviolations⟩ := Rules.violations_of_type he hk
  have hown : w.errors options.maxDepth = [e] := by
    rw [Visit.errors_of_open hopen, hviolations, hfits]
    rfl
  have hwithin := Visit.filter_isWithin_of_reached hroot hw
  rw [hown] at hwithin
  rw [hpath]
  exact hwithin

/-- Two texts with names that begin alike, beside a list. -/
def labelSchema : Json :=
  .object [("properties", .object [
    ("a", .object [("type", .string "string")]),
    ("ab", .object [("minLength", .number (.ofNat 3))]),
    ("a/b", .object [("items", .object [("required", .array [.string "c"])])])])]

def labelNode : Node :=
  .schema {} [("a", .schema { kind := some .string } [] none .open []),
    ("ab", .schema { minLength := some 3 } [] none .open []),
    ("a/b", .schema {} [] (some (.schema { required := ["c"] } [] none .open [])) .open [])] none .open []

def labelPayload : Json := .object [("a/b", .array [.object []]), ("a", .object [("b", .null)]), ("ab", .string "x")]

theorem filter_errors_of_type_label :
    compile labelSchema = .ok labelNode ∧ labelSchema.hasDistinctNames = true ∧
      labelPayload.hasDistinctNames = true ∧
      (labelNode.validate {} labelPayload).errors.map Violation.path = ["/a", "/ab", "/a~1b/0/c"] ∧
      ∃ e ∈ (labelNode.validate {} labelPayload).errors, e.kind = .type ∧ e.path = "/a" ∧
        (labelNode.validate {} labelPayload).errors.filter
          (fun other => other.path == e.path || (e.path ++ "/").toList.isPrefixOf other.path.toList) = [e] := by
  have hc : compile labelSchema = .ok labelNode := by rfl
  have hs : labelSchema.hasDistinctNames = true := by decide
  have hp : labelPayload.hasDistinctNames = true := by decide
  have hsite : ("/a", ViolationKind.type) ∈
      (labelNode.validate {} labelPayload).errors.map fun e => (e.path, e.kind) := by decide
  obtain ⟨e, he, heq⟩ := List.mem_map.1 hsite
  obtain ⟨hpath, hk⟩ := Prod.mk.inj heq
  exact ⟨hc, hs, hp, by decide, e, he, hk, hpath, filter_errors_of_type hc hs hp {} he hk⟩

end Node

/-! ## Once for each place -/

/-- Where a violation stands and what it is about. -/
def Violation.site (e : Violation) : String × ViolationKind := (e.path, e.kind)

theorem Violation.count_site (found : List Violation) (pointer : String) (kind : ViolationKind) :
    (found.map site).count (pointer, kind) =
      ((found.filter fun e => e.path == pointer).map Violation.kind).count kind := by
  induction found with
  | nil => rfl
  | cons e rest ih =>
    rw [List.map_cons, List.count_cons, ih, List.filter_cons]
    by_cases hpath : e.path = pointer
    · simp [hpath, site, List.count_cons]
    · simp [hpath, site]

namespace Rules

variable {rules : Rules} {path : FieldPath} {value : Json}

theorem kinds_keyword {α : Type} {asked : Option α} {meets : α → Bool} {violation : α → Violation}
    {kind : ViolationKind} (hk : ∀ a, (violation a).kind = kind) :
    ((keyword asked meets violation).map Violation.kind).Sublist [kind] := by
  unfold keyword
  cases asked with
  | none => exact List.nil_sublist _
  | some a =>
    dsimp only
    split
    · exact List.nil_sublist _
    · rw [List.map_singleton, hk]

theorem kinds_checkAllowed : ((rules.checkAllowed path value).map Violation.kind).Sublist [.enum] :=
  kinds_keyword fun _ => rfl

theorem kinds_checkString {s : String} : ((rules.checkString path s).map Violation.kind).Sublist
    [.format, .pattern, .minLength, .maxLength] := by
  rw [checkString, List.map_append, List.map_append, List.map_append]
  have hformat : ((rules.checkFormat path s).map Violation.kind).Sublist [.format] := kinds_keyword fun _ => rfl
  have hpattern : ((rules.checkPattern path s).map Violation.kind).Sublist [.pattern] := kinds_keyword fun _ => rfl
  have hleast : ((rules.checkMinLength path s).map Violation.kind).Sublist [.minLength] := kinds_keyword fun _ => rfl
  have hmost : ((rules.checkMaxLength path s).map Violation.kind).Sublist [.maxLength] := kinds_keyword fun _ => rfl
  exact ((hformat.append hpattern).append hleast).append hmost

theorem kinds_checkNumber {n : Number} :
    ((rules.checkNumber path n).map Violation.kind).Sublist [.minimum, .maximum] := by
  rw [checkNumber, List.map_append]
  have hleast : ((rules.checkMinimum path n).map Violation.kind).Sublist [.minimum] := kinds_keyword fun _ => rfl
  have hmost : ((rules.checkMaximum path n).map Violation.kind).Sublist [.maximum] := kinds_keyword fun _ => rfl
  exact hleast.append hmost

theorem count_kind_violations_le_one {kind : ViolationKind} (hk : kind ≠ .required) :
    ((rules.violations path value).map Violation.kind).count kind ≤ 1 := by
  have hone {kinds all : List ViolationKind} (h : kinds.Sublist all) (hall : all.Nodup) : kinds.count kind ≤ 1 :=
    Nat.le_trans (h.count_le kind) (List.nodup_iff_count_le_one.1 hall kind)
  unfold violations
  cases rules.typeError? path value with
  | some violation => exact List.count_le_length
  | none =>
    rw [List.map_append]
    cases value with
    | string s => exact hone (kinds_checkAllowed.append kinds_checkString) (by decide)
    | number n => exact hone (kinds_checkAllowed.append kinds_checkNumber) (by decide)
    | object members =>
      have hrequired : ((rules.checkRequired path members).map Violation.kind).count kind = 0 := by
        refine List.count_eq_zero.2 fun hm => ?_
        obtain ⟨e, he, rfl⟩ := List.mem_map.1 hm
        obtain ⟨name, -, rfl⟩ := List.mem_map.1 he
        exact hk rfl
      rw [List.count_append, checkContent, hrequired]
      exact hone kinds_checkAllowed (by decide)
    | _ => exact hone (kinds_checkAllowed.append (List.nil_sublist [])) (by decide)

/-- A missing member is reported as often as its name is listed. -/
theorem count_site_of_missing {members : List (String × Json)} {name : String}
    (hfits : rules.fits (.object members) = true) (hmissing : members.lookup name = none) :
    ((rules.violations path (.object members)).map Violation.site).count
      (FieldPath.toPointer (path ++ [.name name]), .required) = rules.required.count name := by
  let siteOf (name : String) : String × ViolationKind := (FieldPath.toPointer (path ++ [.name name]), .required)
  have hinj : Function.Injective siteOf := by
    intro a b hab
    have htokens := Pointer.append_inj (congrArg Prod.fst hab)
    rw [List.map_append, List.map_append] at htokens
    exact List.singleton_inj.1 (List.append_cancel_left htokens)
  have hallowed : ((rules.checkAllowed path (.object members)).map Violation.site).count (siteOf name) = 0 := by
    refine List.count_eq_zero.2 fun hm => ?_
    obtain ⟨e, he, hsite⟩ := List.mem_map.1 hm
    have hkind : e.kind = .enum := List.mem_singleton.1 (kinds_checkAllowed.subset (List.mem_map_of_mem he))
    have hasked : e.kind = .required := congrArg Prod.snd hsite
    exact nomatch hkind.symm.trans hasked
  have hrequired : (rules.checkRequired path members).map Violation.site =
      (rules.required.filter fun name => (members.lookup name).isNone).map siteOf := by
    rw [checkRequired, List.map_map]
    rfl
  rw [violations_of_fits hfits, List.map_append, List.count_append, checkContent, hallowed, Nat.zero_add, hrequired]
  exact (List.count_map_of_injective _ _ hinj name).trans (List.count_filter (by simp [hmissing]))

end Rules

namespace Visit

variable {limit : Nat} {v w : Visit}

/-- A validation comes to an object that lacks a required name. -/
structure Lacks (limit : Nat) (v w : Visit) (name : String) : Prop where
  reached : Reached limit v w
  counts : w.Open limit
  fits : w.node.rules.fits w.value = true
  required : name ∈ w.node.rules.required
  missing : ∃ members, w.value = .object members ∧ members.lookup name = none

theorem Lacks.breaks {name : String} (h : v.Lacks limit w name) :
    w.node.rules.Breaks w.value .required [.name name] := by
  obtain ⟨members, hvalue, hmissing⟩ := h.missing
  have hfits := h.fits
  rw [hvalue] at hfits ⊢
  exact .required hfits h.required hmissing

theorem count_site_of_reached (hv : v.Named) (h : Reached limit v w) (hw : w.Open limit) {kind : ViolationKind}
    {sub : FieldPath} (hb : w.node.rules.Breaks w.value kind sub) :
    ((v.errors limit).map Violation.site).count (FieldPath.toPointer (w.path ++ sub), kind) =
      ((w.node.rules.violations w.path w.value).map Violation.site).count (FieldPath.toPointer (w.path ++ sub), kind) := by
  rw [Violation.count_site, Violation.count_site, filter_path_of_reached hv h hw hb]

/-- Except for missing members, no two errors of one kind stand at one place. -/
theorem count_site_le_one (hv : v.Named) {kind : ViolationKind} (hk : kind ≠ .required) (pointer : String) :
    ((v.errors limit).map Violation.site).count (pointer, kind) ≤ 1 := by
  by_cases hm : (pointer, kind) ∈ (v.errors limit).map Violation.site
  · obtain ⟨e, he, hsite⟩ := List.mem_map.1 hm
    obtain ⟨rfl, rfl⟩ := Prod.mk.inj hsite
    obtain ⟨w, hw, hopen, he⟩ := mem_errors_iff.1 he
    obtain ⟨sub, hb, hpath, -⟩ := Rules.breaks_of_mem_violations he
    rw [hpath, count_site_of_reached hv hw hopen hb, Violation.count_site]
    exact Nat.le_trans ((List.filter_sublist.map _).count_le _) (Rules.count_kind_violations_le_one hk)
  · rw [List.count_eq_zero_of_not_mem hm]
    exact Nat.zero_le 1

theorem count_site_of_lacks (hv : v.Named) {name : String} (h : v.Lacks limit w name) :
    ((v.errors limit).map Violation.site).count (FieldPath.toPointer (w.path ++ [.name name]), .required) =
      w.node.rules.required.count name := by
  obtain ⟨members, hvalue, hmissing⟩ := h.missing
  have hfits := h.fits
  rw [count_site_of_reached hv h.reached h.counts h.breaks]
  rw [hvalue] at hfits ⊢
  exact Rules.count_site_of_missing hfits hmissing

theorem exists_lacks_of_mem_errors {e : Violation} (he : e ∈ v.errors limit) (hk : e.kind = .required) :
    ∃ w name, v.Lacks limit w name ∧ e.path = FieldPath.toPointer (w.path ++ [.name name]) := by
  obtain ⟨w, hw, hopen, he⟩ := mem_errors_iff.1 he
  obtain ⟨sub, hb, hpath, -⟩ := Rules.breaks_of_mem_violations he
  rw [hk] at hb
  obtain ⟨path, node, value⟩ := w
  cases hb with
  | required fits asked broken => exact ⟨_, _, ⟨hw, hopen, fits, asked, _, rfl, broken⟩, hpath⟩

end Visit

namespace Node

variable {schema payload : Json} {node : Node}

/-- **Each violation is reported once, if each required name is listed once.** Except for missing members, no two errors
are of one kind and at one place. A missing member is reported as often as its name is listed. So all errors differ in
kind or place if and only if no name is listed twice that the payload lacks. -/
theorem nodup_sites_iff (hc : compile schema = .ok node) (hs : schema.hasDistinctNames = true)
    (hp : payload.hasDistinctNames = true) (options : ValidateOptions) :
    (∀ pointer kind, kind ≠ .required →
      ((node.validate options payload).errors.map Violation.site).count (pointer, kind) ≤ 1) ∧
    (∀ w name, Visit.Lacks options.maxDepth ⟨[], node, payload⟩ w name →
      ((node.validate options payload).errors.map Violation.site).count
        (FieldPath.toPointer (w.path ++ [.name name]), .required) = w.node.rules.required.count name) ∧
    (((node.validate options payload).errors.map Violation.site).Nodup ↔
      ∀ w name, Visit.Lacks options.maxDepth ⟨[], node, payload⟩ w name → w.node.rules.required.count name ≤ 1) := by
  have hroot := Visit.Named.root hc hs hp
  have herrors : (node.validate options payload).errors = Visit.errors options.maxDepth ⟨[], node, payload⟩ := rfl
  rw [herrors]
  have hothers : ∀ pointer kind, kind ≠ .required →
      ((Visit.errors options.maxDepth ⟨[], node, payload⟩).map Violation.site).count (pointer, kind) ≤ 1 :=
    fun pointer _ hk => Visit.count_site_le_one hroot hk pointer
  have hmissing := fun w name (h : Visit.Lacks options.maxDepth ⟨[], node, payload⟩ w name) =>
    Visit.count_site_of_lacks hroot h
  refine ⟨hothers, hmissing, ?_⟩
  rw [List.nodup_iff_count_le_one]
  constructor
  · intro hone w name h
    rw [← hmissing w name h]
    exact hone _
  · rintro hone ⟨pointer, kind⟩
    by_cases hk : kind = .required
    · subst hk
      by_cases hm : (pointer, ViolationKind.required) ∈
          (Visit.errors options.maxDepth ⟨[], node, payload⟩).map Violation.site
      · obtain ⟨e, he, hsite⟩ := List.mem_map.1 hm
        obtain ⟨rfl, hkind⟩ := Prod.mk.inj hsite
        obtain ⟨w, name, h, hpath⟩ := Visit.exists_lacks_of_mem_errors he hkind
        rw [hpath, hmissing w name h]
        exact hone w name h
      · rw [List.count_eq_zero_of_not_mem hm]
        exact Nat.zero_le 1
    · exact hothers pointer kind hk

def partNode : Node := .schema { required := ["x", "y", "x"] } [] none .open []

def partSchema : Json :=
  .object [
    ("required", .array [.string "id"]),
    ("properties", .object [
      ("id", .object [("type", .string "integer")]),
      ("part", .object [("required", .array [.string "x", .string "y", .string "x"])])])]

def partSchemaNode : Node :=
  .schema { required := ["id"] } [("id", .schema { kind := some .integer } [] none .open []), ("part", partNode)]
    none .open []

def partPayload : Json := .object [("id", .string "7"), ("part", .object [("y", .null)])]

def partVisit : Visit := ⟨[.name "part"], partNode, .object [("y", .null)]⟩

theorem nodup_sites_iff_part :
    compile partSchema = .ok partSchemaNode ∧ partSchema.hasDistinctNames = true ∧
      partPayload.hasDistinctNames = true ∧ Visit.Lacks 64 ⟨[], partSchemaNode, partPayload⟩ partVisit "x" ∧
      ((partSchemaNode.validate {} partPayload).errors.map Violation.site).count ("/id", .type) ≤ 1 ∧
      ((partSchemaNode.validate {} partPayload).errors.map Violation.site).count ("/part/x", .required) = 2 ∧
      ¬ ((partSchemaNode.validate {} partPayload).errors.map Violation.site).Nodup := by
  have hc : compile partSchema = .ok partSchemaNode := by rfl
  have hs : partSchema.hasDistinctNames = true := by decide
  have hp : partPayload.hasDistinctNames = true := by decide
  have hlacks : Visit.Lacks 64 ⟨[], partSchemaNode, partPayload⟩ partVisit "x" := by
    refine ⟨.single ⟨⟨by decide, rfl, by decide⟩, rfl, ?_⟩, ⟨by decide, rfl, by decide⟩, rfl, by decide, _, rfl, rfl⟩
    exact .property (List.mem_cons_of_mem _ (List.mem_singleton_self _)) rfl
  obtain ⟨hothers, hmissing, hall⟩ := nodup_sites_iff hc hs hp {}
  exact ⟨hc, hs, hp, hlacks, hothers "/id" .type (by decide), hmissing partVisit "x" hlacks,
    fun hnodup => absurd (hall.1 hnodup partVisit "x" hlacks) (by decide)⟩

/-- A schema that requires the same member twice. -/
def twiceSchema : Json := .object [("required", .array [.string "a", .string "a"])]

/-- The missing member is reported twice. -/
theorem not_nodup_sites_of_listed_twice :
    twiceSchema.hasDistinctNames = true ∧
      ∃ node, compile twiceSchema = .ok node ∧
        (node.validate {} (.object [])).errors.map Violation.site = [("/a", .required), ("/a", .required)] ∧
        ¬ ((node.validate {} (.object [])).errors.map Violation.site).Nodup := by
  refine ⟨by decide, .schema { required := ["a", "a"] } [] none .open [], by rfl, by decide, by decide⟩

end Node

end Schemata

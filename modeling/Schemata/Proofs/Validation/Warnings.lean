import Mathlib.Data.List.Perm.Basic
import Schemata.Proofs.Text.Lower
import Schemata.Proofs.Validation.Advice
import Schemata.Proofs.Validation.Place

/-!
# Which warnings there are

* `Rules.Recommends` : a lower-case form of a description has a word that recommends;
* `Visit.Notes` : what is to be noticed at a visit, about fields that are there and about fields that are not;
* `Visit.notices`, `Visit.warnings_perm_notices` : the warnings of a visit are what is noticed from there on;
* `Visit.mem_notices_iff`, `Visit.nodup_sites_notices` : which is what the visits notice that it leads to, and nothing
  of it twice;
* `Node.warnings_are_notices` : so for a whole value; and no advice makes an error.
-/

namespace Schemata

/-! ## Recommendations -/

namespace Rules

/-- The words that recommend. -/
def markers : List String := ["recommended", "should"]

/-- The text is the description, and a lower-case form of it has a word that recommends. -/
def Recommends (rules : Rules) (text : String) : Prop :=
  rules.description = some text ∧
    ∃ lower, Text.Lowers text.toList lower ∧ ∃ marker ∈ markers, marker.toList <:+: lower

theorem isPlain_of_mem_markers {marker : String} (h : marker ∈ markers) :
    marker.toList ≠ [] ∧ ∀ c ∈ marker.toList, Text.IsPlain c := by
  have plain : (markers.all fun marker => !marker.toList.isEmpty &&
      marker.toList.all fun c => c.isAlpha && c != 'i' && c != 'k') = true := by decide
  obtain ⟨hne, hall⟩ := Bool.and_eq_true_iff.1 (List.all_eq_true.1 plain marker h)
  refine ⟨by simpa using hne, fun c hc => ?_⟩
  have hplain : (c.isAlpha = true ∧ c ≠ 'i') ∧ c ≠ 'k' := by simpa using List.all_eq_true.1 hall c hc
  exact ⟨hplain.1.1, hplain.1.2, hplain.2⟩

variable {rules : Rules} {text : String}

/-- It does not matter which lower-case form is looked at. -/
theorem recommends_iff_of_lowers {lower : List Char} (h : Text.Lowers text.toList lower) :
    rules.Recommends text ↔ rules.description = some text ∧ ∃ marker ∈ markers, marker.toList <:+: lower := by
  refine and_congr_right fun _ => ⟨?_, fun hm => ⟨lower, h, hm⟩⟩
  rintro ⟨lower', h', marker, hm, hin⟩
  obtain ⟨hne, hplain⟩ := isPlain_of_mem_markers hm
  exact ⟨marker, hm, (h.infix_iff hplain hne).2 ((h'.infix_iff hplain hne).1 hin)⟩

theorem recommendation?_eq_some_iff : rules.recommendation? = some text ↔ rules.Recommends text := by
  rw [recommends_iff_of_lowers (Text.lowers_map_toLower _), recommendation?, Option.filter_eq_some_iff]
  simp only [Bool.or_eq_true, String.contains_string_iff, String.toList_ofList, markers, List.mem_cons,
    List.not_mem_nil, or_false, exists_eq_or_imp, exists_eq_left]

end Rules

/-! ## Warnings of findings -/

namespace Findings

@[simp] theorem warnings_append (a b : Findings) : (a ++ b).warnings = a.warnings ++ b.warnings := rfl

@[simp] theorem warnings_ofErrors (errors : List Violation) : (ofErrors errors).warnings = [] := rfl

@[simp] theorem warnings_join (parts : List Findings) :
    (join parts).warnings = parts.flatMap Findings.warnings := by
  induction parts with
  | nil => rfl
  | cons part rest ih => rw [join, warnings_append, ih, List.flatMap_cons]

end Findings

/-! ## Notices -/

/-- One thing to be noticed about a field. -/
structure Notice where
  path : FieldPath
  kind : WarningKind
  suggestion : String

namespace Notice

def warning (n : Notice) : Warning := ⟨n.path.label, n.kind, n.suggestion⟩

def site (n : Notice) : FieldPath × WarningKind := (n.path, n.kind)

def deprecated (parent : FieldPath) (name : String) : Notice :=
  ⟨parent ++ [.name name], .deprecated,
    "Field '" ++ name ++ "' is deprecated and may be removed in a future version"⟩

def optional (parent : FieldPath) (name description : String) : Notice :=
  ⟨parent ++ [.name name], .optional, "Consider providing '" ++ name ++ "': " ++ description⟩

def undeclared (parent : FieldPath) (name : String) : Notice :=
  ⟨parent ++ [.name name], .bestPractice,
    "Field '" ++ name ++ "' is not declared in the schema; remove it or check its spelling"⟩

end Notice

namespace Visit

/-- What is to be noticed at a visit: a declared property that is there and deprecated, one that is not there nor
required but recommended, and a member that is not declared where further ones are forbidden. -/
inductive Notes : Visit → Notice → Prop
  | deprecated {path node members name child value} (declared : (name, child) ∈ node.properties)
      (there : members.lookup name = some value) (deprecated : child.rules.deprecated = true) :
      Notes ⟨path, node, .object members⟩ (.deprecated path name)
  | optional {path node members name child text} (declared : (name, child) ∈ node.properties)
      (absent : members.lookup name = none) (free : name ∉ node.rules.required)
      (recommends : child.rules.Recommends text) :
      Notes ⟨path, node, .object members⟩ (.optional path name text)
  | undeclared {path node members name value} (forbidden : node.additional = .forbidden)
      (undeclared : node.property? name = none) (there : (name, value) ∈ members) :
      Notes ⟨path, node, .object members⟩ (.undeclared path name)

def noticeOf? (path : FieldPath) (required : List String) (members : List (String × Json))
    (entry : String × Node) : Option Notice :=
  match members.lookup entry.1 with
  | some _ => if entry.2.rules.deprecated then some (.deprecated path entry.1) else none
  | none =>
    if required.contains entry.1 then none
    else entry.2.rules.recommendation?.map fun text => .optional path entry.1 text

def noticesOfAdditional (path : FieldPath) (members : List (String × Json)) : Additional Node → List Notice
  | .forbidden => members.map fun m => .undeclared path m.1
  | .open | .constrained _ => []

def ownNotices (v : Visit) : List Notice :=
  match v.value with
  | .object members =>
    v.node.properties.filterMap (noticeOf? v.path v.node.rules.required members)
      ++ noticesOfAdditional v.path (members.filter fun m => (v.node.property? m.1).isNone) v.node.additional
  | .array _ | .string _ | .number _ | .bool _ | .null => []

theorem notes_of_noticeOf? {path : FieldPath} {node : Node} {members : List (String × Json)} {entry : String × Node}
    {n : Notice} (declared : entry ∈ node.properties) (h : noticeOf? path node.rules.required members entry = some n) :
    Notes ⟨path, node, .object members⟩ n := by
  obtain ⟨name, child⟩ := entry
  rw [noticeOf?] at h
  cases there : members.lookup name with
  | some value =>
    rw [there] at h
    obtain ⟨deprecated, h⟩ := Option.ite_none_right_eq_some.1 h
    obtain rfl := Option.some.inj h
    exact .deprecated declared there deprecated
  | none =>
    rw [there] at h
    obtain ⟨free, h⟩ := Option.ite_none_left_eq_some.1 h
    obtain ⟨text, ht, rfl⟩ := Option.map_eq_some_iff.1 h
    exact .optional declared there (by simpa using free) (Rules.recommendation?_eq_some_iff.1 ht)

theorem mem_noticesOfAdditional {path : FieldPath} {members : List (String × Json)} {additional : Additional Node}
    {n : Notice} : n ∈ noticesOfAdditional path members additional ↔
      additional = .forbidden ∧ ∃ m ∈ members, n = .undeclared path m.1 := by
  cases additional with
  | forbidden => simp [noticesOfAdditional, eq_comm]
  | «open» => simp [noticesOfAdditional]
  | constrained child => simp [noticesOfAdditional]

variable {limit : Nat} {v w : Visit} {n : Notice}

theorem mem_ownNotices_iff : n ∈ v.ownNotices ↔ v.Notes n := by
  obtain ⟨path, node, value⟩ := v
  constructor
  · intro h
    cases value with
    | object members =>
      rcases List.mem_append.1 h with h | h
      · obtain ⟨entry, declared, h⟩ := List.mem_filterMap.1 h
        exact notes_of_noticeOf? declared h
      · obtain ⟨forbidden, ⟨name, value⟩, hm, rfl⟩ := mem_noticesOfAdditional.1 h
        obtain ⟨there, undeclared⟩ := List.mem_filter.1 hm
        exact .undeclared forbidden (by simpa using undeclared) there
    | _ => cases h
  · intro h
    cases h with
    | deprecated declared there deprecated =>
      refine List.mem_append_left _ (List.mem_filterMap.2 ⟨_, declared, ?_⟩)
      simp [noticeOf?, there, deprecated]
    | optional declared absent free recommends =>
      refine List.mem_append_left _ (List.mem_filterMap.2 ⟨_, declared, ?_⟩)
      simp [noticeOf?, absent, free, Rules.recommendation?_eq_some_iff.2 recommends]
    | @undeclared _ _ members name value forbidden undeclared there =>
      refine List.mem_append_right _ (mem_noticesOfAdditional.2 ⟨forbidden, (name, value), ?_, rfl⟩)
      exact List.mem_filter.2 ⟨there, by simp [undeclared]⟩

theorem Notes.exists_path_eq (h : v.Notes n) : ∃ name, n.path = v.path ++ [.name name] := by
  cases h with
  | deprecated => exact ⟨_, rfl⟩
  | optional => exact ⟨_, rfl⟩
  | undeclared => exact ⟨_, rfl⟩

theorem path_of_noticeOf? {path : FieldPath} {required : List String} {members : List (String × Json)}
    {entry : String × Node} (h : noticeOf? path required members entry = some n) :
    n.path = path ++ [.name entry.1] ∧ n.kind ≠ .bestPractice := by
  rw [noticeOf?] at h
  cases hl : members.lookup entry.1 with
  | some value =>
    rw [hl] at h
    obtain ⟨-, h⟩ := Option.ite_none_right_eq_some.1 h
    obtain rfl := Option.some.inj h
    exact ⟨rfl, nofun⟩
  | none =>
    rw [hl] at h
    obtain ⟨-, h⟩ := Option.ite_none_left_eq_some.1 h
    obtain ⟨text, -, rfl⟩ := Option.map_eq_some_iff.1 h
    exact ⟨rfl, nofun⟩

theorem site_ne_of_name_ne {path : FieldPath} {a b : String} {n n' : Notice} (h : a ≠ b)
    (hn : n.path = path ++ [.name a]) (hn' : n'.path = path ++ [.name b]) : n.site ≠ n'.site := by
  intro heq
  have hpath : n.path = n'.path := congrArg Prod.fst heq
  rw [hn, hn'] at hpath
  exact h (path_concat_name_inj hpath)

/-- Nothing is noticed twice about a field. -/
theorem nodup_sites_ownNotices (hv : v.Named) : (v.ownNotices.map Notice.site).Nodup := by
  obtain ⟨path, node, value⟩ := v
  cases value with
  | object members =>
    have hdeclared : node.properties.Pairwise fun a b => a.1 ≠ b.1 := List.pairwise_map.1 hv.schema.here.properties
    have hmembers : members.Pairwise fun a b => a.1 ≠ b.1 :=
      List.pairwise_map.1 (Json.hasDistinctNames_object.1 hv.value).1
    rw [List.Nodup, List.pairwise_map]
    refine List.pairwise_append.2 ⟨?_, ?_, ?_⟩
    · -- The declared properties.
      refine List.pairwise_filterMap.2 (hdeclared.imp fun hne a ha b hb => ?_)
      exact site_ne_of_name_ne hne (path_of_noticeOf? ha).1 (path_of_noticeOf? hb).1
    · -- The members that are not declared.
      cases node.additional with
      | forbidden => exact List.pairwise_map.2 ((hmembers.filter _).imp fun hne => site_ne_of_name_ne hne rfl rfl)
      | _ => exact .nil
    · rintro a ha b hb heq
      obtain ⟨entry, -, ha⟩ := List.mem_filterMap.1 ha
      obtain ⟨-, m, -, rfl⟩ := mem_noticesOfAdditional.1 hb
      exact (path_of_noticeOf? ha).2 (congrArg Prod.snd heq)
  | _ => exact .nil

/-! ## Warnings of a visit -/

def warnings (limit : Nat) (v : Visit) : List Warning := (v.node.check limit v.path v.value).warnings

/-- The keywords of the node count, and the value is of the right kind: the parts of the value are looked at. -/
structure Enters (limit : Nat) (v : Visit) : Prop where
  «open» : v.Open limit
  fits : v.node.rules.fits v.value = true

theorem warnings_checkProperties (limit : Nat) (path : FieldPath) (required : List String)
    (members : List (String × Json)) (properties : List (String × Node)) :
    (Node.checkProperties limit path required members properties).warnings =
      properties.flatMap fun p => ((noticeOf? path required members p).map Notice.warning).toList ++
        (ofProperty? path members p).toList.flatMap (warnings limit) := by
  induction properties with
  | nil =>
    rw [Node.checkProperties]
    rfl
  | cons entry rest ih =>
    obtain ⟨name, child⟩ := entry
    rw [Node.checkProperties, List.flatMap_cons, ← ih, noticeOf?, ofProperty?]
    dsimp only
    rw [Findings.warnings_append]
    congr 1
    cases members.lookup name with
    | some value =>
      unfold Rules.warnDeprecated
      cases child.rules.deprecated with
      | true => exact congrArg (_ :: ·) (List.append_nil _).symm
      | false => exact (List.append_nil _).symm
    | none =>
      unfold Rules.warnAbsent
      cases required.contains name with
      | true => rfl
      | false => cases child.rules.recommendation? <;> rfl

theorem warnings_checkAdditional (limit : Nat) (path : FieldPath) (members : List (String × Json))
    (additional : Additional Node) :
    (Node.checkAdditional limit path additional members).warnings =
      (noticesOfAdditional path members additional).map Notice.warning ++
        (ofAdditional path members additional).flatMap (warnings limit) := by
  cases additional with
  | «open» =>
    rw [Node.checkAdditional]
    rfl
  | forbidden =>
    rw [Node.checkAdditional, Findings.warnings_join, List.flatMap_map, noticesOfAdditional, List.map_map,
      ofAdditional, List.flatMap_nil, List.append_nil]
    exact List.map_eq_flatMap.symm
  | constrained child =>
    rw [Node.checkAdditional, ofAdditional, Findings.warnings_join, List.flatMap_map, List.flatMap_map]
    rfl

theorem warnings_checkItems (limit : Nat) (path : FieldPath) (values : List Json) (items : Option Node) :
    (Node.checkItems limit path items values).warnings = (ofItems path values items).flatMap (warnings limit) := by
  cases items with
  | none =>
    rw [Node.checkItems]
    rfl
  | some child =>
    rw [Node.checkItems, ofItems, Findings.warnings_join, List.mapIdx_eq_zipIdx_map, List.mapIdx_eq_zipIdx_map,
      List.flatMap_map, List.flatMap_map]
    rfl

theorem warnings_of_not_enters (h : ¬ v.Enters limit) : v.warnings limit = [] := by
  obtain ⟨path, node, value⟩ := v
  unfold warnings
  rw [Node.check.eq_def]
  cases node with
  | reference target => rfl
  | schema rules properties items additional combinations =>
    dsimp only
    split
    · rfl
    · next within =>
      split
      · rfl
      · next unexcused =>
        cases ht : rules.typeError? path value with
        | some violation => rfl
        | none => exact absurd ⟨⟨Nat.not_lt.1 within, rfl, unexcused⟩, Rules.typeError?_eq_none_iff.1 ht⟩ h

/-- **The warnings of a visit** that looks at the parts of the value are its own and those of its children. -/
theorem warnings_perm_of_enters (h : v.Enters limit) :
    (v.warnings limit).Perm (v.ownNotices.map Notice.warning ++ v.children.flatMap (warnings limit)) := by
  obtain ⟨path, node, value⟩ := v
  cases node with
  | reference target => exact absurd h.open.known (by simp [Node.isReference])
  | schema rules properties items additional combinations =>
    have within : ¬ limit < path.length := Nat.not_lt.2 h.open.within
    have unexcused : ¬ (value = .null ∧ rules.nullable = true) := h.open.unexcused
    have fits : rules.typeError? path value = none := Rules.typeError?_eq_none_iff.2 h.fits
    rw [warnings, Node.check.eq_def]
    dsimp only
    rw [if_neg within, if_neg unexcused, fits]
    cases value with
    | object members =>
      simp only [Findings.warnings_append, Findings.warnings_ofErrors, List.nil_append, warnings_checkProperties,
        warnings_checkAdditional]
      have hown : (properties.flatMap fun p => ((noticeOf? path rules.required members p).map Notice.warning).toList) =
          (properties.filterMap (noticeOf? path rules.required members)).map Notice.warning := by
        rw [List.map_filterMap, List.filterMap_eq_flatMap_toList]
      have hchildren : (properties.flatMap fun p => (ofProperty? path members p).toList.flatMap (warnings limit)) =
          (properties.filterMap (ofProperty? path members)).flatMap (warnings limit) := by
        rw [List.filterMap_eq_flatMap_toList, List.flatMap_assoc]
      -- What is noticed about a property stands right before the warnings from it on.
      refine ((List.flatMap_append_perm ..).symm.append_right _).trans ?_
      rw [hown, hchildren, List.append_assoc]
      refine ((List.perm_append_comm_assoc ..).append_left _).trans (.of_eq ?_)
      rw [← List.append_assoc, ← List.map_append, ← List.flatMap_append]
      rfl
    | array values =>
      simp only [Findings.warnings_append, Findings.warnings_ofErrors, List.nil_append, warnings_checkItems]
      exact .refl _
    | _ => exact .refl _

/-! ## Notices of a visit -/

instance (limit : Nat) (v : Visit) : Decidable (v.Enters limit) :=
  decidable_of_iff ((v.path.length ≤ limit ∧ v.node.isReference = false ∧
      ¬ (v.value = .null ∧ v.node.rules.nullable = true)) ∧ v.node.rules.fits v.value = true)
    ⟨fun h => ⟨⟨h.1.1, h.1.2.1, h.1.2.2⟩, h.2⟩, fun h => ⟨⟨h.open.within, h.open.known, h.open.unexcused⟩, h.fits⟩⟩

def notices (limit : Nat) (v : Visit) : List Notice :=
  if v.Enters limit then v.ownNotices ++ v.children.attach.flatMap fun w => notices limit w.1 else []
termination_by v.node.count
decreasing_by exact (mem_children_iff.1 w.2).count_lt

theorem notices_of_enters (h : v.Enters limit) :
    v.notices limit = v.ownNotices ++ v.children.flatMap (notices limit) := by
  rw [notices, if_pos h, List.flatMap_subtype (g := notices limit) fun _ _ => rfl, List.unattach_attach]

theorem notices_of_not_enters (h : ¬ v.Enters limit) : v.notices limit = [] := by
  rw [notices, if_neg h]

/-- **The warnings of a visit** are what is noticed from there on. -/
theorem warnings_perm_notices (limit : Nat) (v : Visit) :
    (v.warnings limit).Perm ((v.notices limit).map Notice.warning) := by
  by_cases h : v.Enters limit
  · have hchildren : (v.children.flatMap (warnings limit)).Perm
        (v.children.flatMap fun w => (w.notices limit).map Notice.warning) := by
      refine List.Perm.flatMap_left _ fun w hw => ?_
      have := (mem_children_iff.1 hw).count_lt
      exact warnings_perm_notices limit w
    rw [notices_of_enters h, List.map_append, List.map_flatMap]
    exact (warnings_perm_of_enters h).trans (hchildren.append_left _)
  · rw [warnings_of_not_enters h, notices_of_not_enters h]
    exact .refl _
termination_by v.node.count

theorem collects_notices (limit : Nat) :
    Collects limit (fun v => if v.node.rules.fits v.value then v.ownNotices else []) (notices limit) where
  of_open := by
    intro v h
    by_cases hf : v.node.rules.fits v.value = true
    · rw [notices_of_enters ⟨h, hf⟩, if_pos hf, if_pos hf]
    · rw [notices_of_not_enters fun he => hf he.fits, if_neg hf, if_neg hf, List.append_nil]
  of_not_open := fun h => notices_of_not_enters fun he => h he.open

/-- **What is noticed from a visit on** is what the visits notice that it leads to. -/
theorem mem_notices_iff : n ∈ v.notices limit ↔ ∃ w, Reached limit v w ∧ w.Enters limit ∧ w.Notes n := by
  rw [(collects_notices limit).mem_iff]
  refine exists_congr fun w => and_congr_right fun _ => ⟨?_, ?_⟩
  · rintro ⟨hw, hn⟩
    split at hn
    · next hf => exact ⟨⟨hw, hf⟩, mem_ownNotices_iff.1 hn⟩
    · cases hn
  · rintro ⟨hw, hn⟩
    refine ⟨hw.open, ?_⟩
    rw [if_pos hw.fits]
    exact mem_ownNotices_iff.2 hn

theorem exists_path_of_mem_notices (h : n ∈ v.notices limit) :
    ∃ steps name, n.path = v.path ++ (steps ++ [.name name]) := by
  obtain ⟨w, hr, -, hn⟩ := mem_notices_iff.1 h
  obtain ⟨steps, hsteps⟩ := exists_path_of_reached hr
  obtain ⟨name, hname⟩ := hn.exists_path_eq
  exact ⟨steps, name, by rw [hname, hsteps, List.append_assoc]⟩

/-- **Nothing is noticed twice** about a field, if no name stands twice. -/
theorem nodup_sites_notices (limit : Nat) (v : Visit) (hv : v.Named) : ((v.notices limit).map Notice.site).Nodup := by
  by_cases h : v.Enters limit
  · rw [notices_of_enters h, List.Nodup, List.pairwise_map]
    refine List.pairwise_append.2 ⟨?_, List.pairwise_flatMap.2 ⟨?_, ?_⟩, ?_⟩
    · exact List.pairwise_map.1 (nodup_sites_ownNotices hv)
    · intro w hw
      have hs : v.Step w := mem_children_iff.1 hw
      have := hs.count_lt
      exact List.pairwise_map.1 (nodup_sites_notices limit w (hv.step hs))
    · -- The notices from two children on are at or below different steps from the visit.
      refine (pairwise_children hv).imp_of_mem fun {a b} ha hb hne n hn n' hn' heq => hne ?_
      obtain ⟨s, hs⟩ := (mem_children_iff.1 ha).exists_path_eq
      obtain ⟨s', hs'⟩ := (mem_children_iff.1 hb).exists_path_eq
      obtain ⟨steps, name, hp⟩ := exists_path_of_mem_notices hn
      obtain ⟨steps', name', hp'⟩ := exists_path_of_mem_notices hn'
      have hpath : n.path = n'.path := congrArg Prod.fst heq
      rw [hp, hp', hs, hs', List.append_assoc, List.append_assoc] at hpath
      have hstep : s = s' := (List.cons.inj (List.append_cancel_left hpath)).1
      rw [tokens, tokens, hs, hs', hstep]
    · -- Those from a child on are deeper.
      intro n hn n' hn' heq
      obtain ⟨w, hw, hn'⟩ := List.mem_flatMap.1 hn'
      obtain ⟨s, hs⟩ := (mem_children_iff.1 hw).exists_path_eq
      obtain ⟨name, hp⟩ := (mem_ownNotices_iff.1 hn).exists_path_eq
      obtain ⟨steps, name', hp'⟩ := exists_path_of_mem_notices hn'
      have hpath : n.path = n'.path := congrArg Prod.fst heq
      rw [hp, hp', hs, List.append_assoc] at hpath
      simpa using congrArg List.length (List.append_cancel_left hpath)
  · rw [notices_of_not_enters h]
    exact .nil
termination_by v.node.count

end Visit

/-! ## Warnings of a value -/

namespace Node

/-- **Which warnings there are.** The warnings of a value are, in some order, what is to be noticed at the visits that
look at an object there, and nothing is noticed twice about a field. Changes of what is only noticed, at any nodes of
the schema, keep the errors of all values. -/
theorem warnings_are_notices {schema : Json} {node : Node} (hc : compile schema = .ok node)
    (hs : schema.hasDistinctNames = true) :
    (∀ (options : ValidateOptions) (payload : Json), payload.hasDistinctNames = true →
      ∃ notices : List Notice,
        (node.validate options payload).warnings.Perm (notices.map Notice.warning) ∧
        (∀ n, n ∈ notices ↔ ∃ v, Visit.Reached options.maxDepth ⟨[], node, payload⟩ v ∧
          v.Enters options.maxDepth ∧ v.Notes n) ∧
        (notices.map Notice.site).Nodup) ∧
      ∀ schema', Relation.ReflTransGen (Json.AtNode AdviceEdit) schema schema' →
        ∃ node', compile schema' = .ok node' ∧
          ∀ options payload, (node'.validate options payload).errors = (node.validate options payload).errors := by
  refine ⟨fun options payload hp => ?_, fun schema' h => exists_compile_of_adviceEdits hc h⟩
  have hv : Visit.Named ⟨[], node, payload⟩ := .root hc hs hp
  exact ⟨_, Visit.warnings_perm_notices options.maxDepth ⟨[], node, payload⟩, fun n => Visit.mem_notices_iff,
    Visit.nodup_sites_notices _ _ hv⟩

/-- A schema of accounts with an old field, and with a note that is recommended. -/
def accountSchema (old : List (String × Json)) : List (String × Json) :=
  [("properties", .object [("old", .object old),
    ("note", .object [("description", .string "RECOMMENDED for audits")])])]

def oldField : List (String × Json) := [("deprecated", .bool true)]

def closedAccount : Json := .object (("additionalProperties", .bool false) :: accountSchema oldField)

def accountNode : Node :=
  .schema {} [("old", .schema { deprecated := true } [] none .open []),
    ("note", .schema { description := some "RECOMMENDED for audits" } [] none .open [])] none .forbidden []

def accountPayload : Json := .object [("old", .ofNat 1), ("new", .null)]

/-- The account is opened, and its old field is welcome again. -/
theorem adviceEdits_closedAccount :
    Relation.ReflTransGen (Json.AtNode AdviceEdit) closedAccount (.object (accountSchema [])) := by
  have opened : Json.AtNode AdviceEdit closedAccount (.object (accountSchema oldField)) :=
    .here (.closing (.inr ⟨rfl, rfl⟩) fun name hname => by
      rw [Names.lookup_cons, if_neg hname])
  have welcome : Json.AtNode AdviceEdit (.object (accountSchema oldField)) (.object (accountSchema [])) := by
    have hold : AdviceEdit oldField [] := .advice fun name hname => by
      have hne : name ≠ "deprecated" := fun heq => hname (heq ▸ by decide)
      rw [oldField, Names.lookup_cons, if_neg hne]
    exact @Json.AtNode.property AdviceEdit (accountSchema oldField) _ "old" _ _ rfl rfl (.here hold)
  exact (Relation.ReflTransGen.single opened).tail welcome

theorem warnings_are_notices_account :
    compile closedAccount = .ok accountNode ∧ closedAccount.hasDistinctNames = true ∧
      accountPayload.hasDistinctNames = true ∧
      (∃ notices : List Notice,
        (accountNode.validate {} accountPayload).warnings.Perm (notices.map Notice.warning) ∧
        (notices.map Notice.site).Nodup ∧
        .deprecated [] "old" ∈ notices ∧ .optional [] "note" "RECOMMENDED for audits" ∈ notices ∧
        .undeclared [] "new" ∈ notices) ∧
      Relation.ReflTransGen (Json.AtNode AdviceEdit) closedAccount (.object (accountSchema [])) ∧
      ∃ node', compile (.object (accountSchema [])) = .ok node' ∧
        ∀ options payload, (node'.validate options payload).errors = (accountNode.validate options payload).errors := by
  have hc : compile closedAccount = .ok accountNode := by rfl
  have hs : closedAccount.hasDistinctNames = true := by decide
  have hp : accountPayload.hasDistinctNames = true := by decide
  obtain ⟨hwarnings, herrors⟩ := warnings_are_notices hc hs
  obtain ⟨notices, hperm, hmem, hnodup⟩ := hwarnings {} accountPayload hp
  have enters : Visit.Enters 64 ⟨[], accountNode, accountPayload⟩ := by decide
  have recommends : Rules.Recommends { description := some "RECOMMENDED for audits" } "RECOMMENDED for audits" :=
    (Rules.recommends_iff_of_lowers (Text.lowers_map_toLower _)).2
      ⟨rfl, "recommended", by decide, [], " for audits".toList, by decide⟩
  refine ⟨hc, hs, hp, ⟨notices, hperm, hnodup, ?_, ?_, ?_⟩, adviceEdits_closedAccount,
    herrors _ adviceEdits_closedAccount⟩
  · exact (hmem _).2 ⟨_, .refl, enters, .deprecated (List.mem_cons_self ..) rfl rfl⟩
  · exact (hmem _).2 ⟨_, .refl, enters,
      .optional (List.mem_cons_of_mem _ (List.mem_singleton_self _)) rfl (by decide) recommends⟩
  · exact (hmem _).2 ⟨_, .refl, enters, .undeclared rfl rfl (List.mem_cons_of_mem _ (List.mem_singleton_self _))⟩

end Node

end Schemata

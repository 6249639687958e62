import Schemata.Proofs.Validation.Visit

/-!
# Which violations a validation reports

* `Rules.Breaks` : a value does not meet a keyword, said without the checks;
* `Rules.records_of_mem_violations`, `Rules.exists_mem_violations_of_breaks` : the checks of a node find
  exactly the keywords that are broken, and give a record of each;
* `Rules.expected_of_mem_violations` : what a violation tells to be expected is what its keyword asks for;
* `Node.reports_iff_reached_breaks` : a validation reports exactly the keywords that are broken at the
  open visits that it reaches, and a value is valid if there are none.
-/

namespace Schemata

namespace Bound

theorem rejectsBelow_iff {b : Bound} {n : Number} :
    b.rejectsBelow n = true ↔ n.compare b.limit = .lt ∨ (b.exclusive = true ∧ n.compare b.limit = .eq) := by
  unfold rejectsBelow
  cases n.compare b.limit <;> simp

theorem rejectsAbove_iff {b : Bound} {n : Number} :
    b.rejectsAbove n = true ↔ n.compare b.limit = .gt ∨ (b.exclusive = true ∧ n.compare b.limit = .eq) := by
  unfold rejectsAbove
  cases n.compare b.limit <;> simp

end Bound

namespace Rules

/-- A value does not meet a keyword. The path leads from the value to the place that is at fault: for
`required` to the absent member, for all other keywords nowhere. A wrong kind hides the other keywords. -/
inductive Breaks (rules : Rules) : Json → ViolationKind → FieldPath → Prop
  | type {kind value} (asked : rules.kind = some kind) (broken : kind.accepts value = false) :
      Breaks rules value .type []
  | enum {values value} (fits : rules.fits value = true) (asked : rules.allowed = some values)
      (broken : ∀ allowed ∈ values, allowed.equal value = false) : Breaks rules value .enum []
  | format {format s} (fits : rules.fits (.string s) = true) (asked : rules.format = some format)
      (broken : format.check s = false) : Breaks rules (.string s) .format []
  | pattern {pattern s} (fits : rules.fits (.string s) = true) (asked : rules.pattern = some pattern)
      (broken : pattern.isMatch s = false) : Breaks rules (.string s) .pattern []
  | minLength {least s} (fits : rules.fits (.string s) = true) (asked : rules.minLength = some least)
      (broken : s.length < least) : Breaks rules (.string s) .minLength []
  | maxLength {greatest s} (fits : rules.fits (.string s) = true)
      (asked : rules.maxLength = some greatest) (broken : greatest < s.length) :
      Breaks rules (.string s) .maxLength []
  | minimum {bound n} (fits : rules.fits (.number n) = true) (asked : rules.minimum = some bound)
      (broken : n.compare bound.limit = .lt ∨ (bound.exclusive = true ∧ n.compare bound.limit = .eq)) :
      Breaks rules (.number n) .minimum []
  | maximum {bound n} (fits : rules.fits (.number n) = true) (asked : rules.maximum = some bound)
      (broken : n.compare bound.limit = .gt ∨ (bound.exclusive = true ∧ n.compare bound.limit = .eq)) :
      Breaks rules (.number n) .maximum []
  | required {members name} (fits : rules.fits (.object members) = true) (asked : name ∈ rules.required)
      (broken : members.lookup name = none) : Breaks rules (.object members) .required [.name name]

/-! ## Single checks -/

theorem mem_keyword {α : Type} {asked : Option α} {meets : α → Bool} {violation : α → Violation}
    {e : Violation} :
    e ∈ keyword asked meets violation ↔ ∃ a, asked = some a ∧ meets a = false ∧ e = violation a := by
  unfold keyword
  cases asked with
  | none => simp
  | some a => by_cases h : meets a <;> simp [h]

theorem keyword_eq_nil_iff {α : Type} {asked : Option α} {meets : α → Bool} {violation : α → Violation} :
    keyword asked meets violation = [] ↔ ∀ a ∈ asked, meets a = true := by
  cases asked with
  | none => simp [keyword]
  | some a => simp [keyword]

theorem checkAllowed_of_allowed {rules : Rules} (h : rules.allowed = none) (path : FieldPath) (value : Json) :
    rules.checkAllowed path value = [] := by
  unfold checkAllowed
  rw [h]
  rfl

theorem typeError?_eq_some {rules : Rules} {path : FieldPath} {value : Json} {e : Violation}
    (h : rules.typeError? path value = some e) :
    ∃ kind, rules.kind = some kind ∧ kind.accepts value = false ∧ e.kind = .type ∧
      e.path = path.toPointer ∧ e.received = some (.string value.kindName) := by
  unfold typeError? at h
  cases hk : rules.kind with
  | none => simp [hk] at h
  | some kind =>
    by_cases ha : kind.accepts value
    · simp [hk, ha] at h
    · rw [hk] at h
      dsimp only at h
      rw [if_neg ha] at h
      cases h
      exact ⟨kind, rfl, Bool.eq_false_iff.2 ha, rfl, rfl, rfl⟩

theorem violations_of_fits {rules : Rules} {value : Json} (h : rules.fits value = true) (path : FieldPath) :
    rules.violations path value = rules.checkAllowed path value ++ rules.checkContent path value := by
  unfold violations
  rw [typeError?_eq_none_iff.2 h]

theorem mem_checkString {rules : Rules} {path : FieldPath} {s : String} {e : Violation} :
    e ∈ rules.checkString path s ↔ e ∈ rules.checkFormat path s ∨ e ∈ rules.checkPattern path s ∨
      e ∈ rules.checkMinLength path s ∨ e ∈ rules.checkMaxLength path s := by
  simp only [checkString, List.mem_append, or_assoc]

theorem mem_checkNumber {rules : Rules} {path : FieldPath} {n : Number} {e : Violation} :
    e ∈ rules.checkNumber path n ↔ e ∈ rules.checkMinimum path n ∨ e ∈ rules.checkMaximum path n := by
  simp only [checkNumber, List.mem_append]

/-! ## All checks of a node -/

/-- What a violation of a kind says it received at a value. -/
def received (value : Json) : ViolationKind → Option Json
  | .required => none
  | .type => some (.string value.kindName)
  | .format | .pattern | .enum | .minLength | .maxLength | .minimum | .maximum | .custom => some value

/-- What the rules expect by a keyword, as violations tell it. -/
def expected (rules : Rules) : ViolationKind → Option Json
  | .type => rules.kind.map fun kind => .string kind.tag
  | .enum => rules.allowed.map .array
  | .format => rules.format.map fun format => .string format.name
  | .pattern => rules.pattern.map fun pattern => .string pattern.source
  | .minLength => rules.minLength.map .ofNat
  | .maxLength => rules.maxLength.map .ofNat
  | .minimum => rules.minimum.map fun bound => .number bound.limit
  | .maximum => rules.maximum.map fun bound => .number bound.limit
  | .required | .custom => none

def bound? (rules : Rules) : ViolationKind → Option Bound
  | .minimum => rules.minimum
  | .maximum => rules.maximum
  | .required | .type | .format | .pattern | .enum | .minLength | .maxLength | .custom => none

theorem bound?_eq_some {rules : Rules} {kind : ViolationKind} {bound : Bound} (h : rules.bound? kind = some bound) :
    (kind = .minimum ∨ kind = .maximum) ∧ rules.expected kind = some (.number bound.limit) := by
  cases kind with
  | minimum => exact ⟨.inl rfl, congrArg (Option.map fun bound : Bound => Json.number bound.limit) h⟩
  | maximum => exact ⟨.inr rfl, congrArg (Option.map fun bound : Bound => Json.number bound.limit) h⟩
  | _ => cases h

/-- The violation is the record of a keyword that the value breaks. The records of bounds of numbers are made in a way
of their own. -/
inductive Records (rules : Rules) (path : FieldPath) : Json → Violation → Prop
  | keyword {value kind sub} (message : String) (broken : rules.Breaks value kind sub)
      (unbounded : rules.bound? kind = none) :
      Records rules path value (.at (path ++ sub) kind message (rules.expected kind) (received value kind))
  | bound {n kind bound} (message : String) (broken : rules.Breaks (.number n) kind [])
      (asked : rules.bound? kind = some bound) :
      Records rules path (.number n) (.ofBound path kind message bound n)

variable {rules : Rules} {path : FieldPath} {e : Violation}

theorem Records.here {value : Json} {kind : ViolationKind} {told : Option Json} (message : String)
    (broken : rules.Breaks value kind []) (unbounded : rules.bound? kind = none)
    (hexpected : rules.expected kind = told) :
    rules.Records path value (.at path kind message told (received value kind)) := by
  have h : rules.Records path value (.at (path ++ []) kind message (rules.expected kind) (received value kind)) :=
    .keyword message broken unbounded
  rwa [hexpected, List.append_nil] at h

theorem records_of_mem_checkString {s : String} (fits : rules.fits (.string s) = true)
    (h : e ∈ rules.checkString path s) : rules.Records path (.string s) e := by
  rcases mem_checkString.1 h with h | h | h | h
  · obtain ⟨format, asked, broken, rfl⟩ := mem_keyword.1 h
    exact .here _ (.format fits asked broken) rfl (congrArg (Option.map _) asked)
  · obtain ⟨pattern, asked, broken, rfl⟩ := mem_keyword.1 h
    exact .here _ (.pattern fits asked broken) rfl (congrArg (Option.map _) asked)
  · obtain ⟨least, asked, broken, rfl⟩ := mem_keyword.1 h
    exact .here _ (.minLength fits asked (by simpa using broken)) rfl (congrArg (Option.map _) asked)
  · obtain ⟨greatest, asked, broken, rfl⟩ := mem_keyword.1 h
    exact .here _ (.maxLength fits asked (by simpa using broken)) rfl (congrArg (Option.map _) asked)

theorem records_of_mem_checkNumber {n : Number} (fits : rules.fits (.number n) = true)
    (h : e ∈ rules.checkNumber path n) : rules.Records path (.number n) e := by
  rcases mem_checkNumber.1 h with h | h
  · obtain ⟨bound, asked, broken, rfl⟩ := mem_keyword.1 h
    exact .bound _ (.minimum fits asked (Bound.rejectsBelow_iff.1 (by simpa using broken))) asked
  · obtain ⟨bound, asked, broken, rfl⟩ := mem_keyword.1 h
    exact .bound _ (.maximum fits asked (Bound.rejectsAbove_iff.1 (by simpa using broken))) asked

theorem records_of_mem_checkRequired {members : List (String × Json)} (fits : rules.fits (.object members) = true)
    (h : e ∈ rules.checkRequired path members) : rules.Records path (.object members) e := by
  obtain ⟨name, hn, rfl⟩ := List.mem_map.1 h
  obtain ⟨asked, broken⟩ := List.mem_filter.1 hn
  exact .keyword _ (.required fits asked (Option.isNone_iff_eq_none.1 broken)) rfl

theorem records_of_typeError? {value : Json} (h : rules.typeError? path value = some e) :
    rules.Records path value e := by
  unfold typeError? at h
  split at h
  · cases h
  · next kind asked =>
    obtain ⟨broken, h⟩ := Option.ite_none_left_eq_some.1 h
    obtain rfl := Option.some.inj h
    exact .here _ (.type asked (Bool.eq_false_iff.2 broken)) rfl (congrArg (Option.map _) asked)

/-- **What a node finds at a value** is the record of a broken keyword. -/
theorem records_of_mem_violations {value : Json} (h : e ∈ rules.violations path value) :
    rules.Records path value e := by
  unfold violations at h
  split at h
  · next violation ht =>
    obtain rfl : e = violation := List.mem_singleton.1 h
    exact records_of_typeError? ht
  · next ht =>
    have fits : rules.fits value = true := typeError?_eq_none_iff.1 ht
    rcases List.mem_append.1 h with h | h
    · obtain ⟨values, asked, broken, rfl⟩ := mem_keyword.1 h
      exact .here _ (.enum fits asked (by simpa using broken)) rfl (congrArg (Option.map _) asked)
    · cases value with
      | string s => exact records_of_mem_checkString fits h
      | number n => exact records_of_mem_checkNumber fits h
      | object members => exact records_of_mem_checkRequired fits h
      | _ => cases h

/-- What a node finds at a value is a broken keyword, and tells where and what was received. -/
theorem breaks_of_mem_violations {value : Json} (h : e ∈ rules.violations path value) :
    ∃ sub, rules.Breaks value e.kind sub ∧ e.path = FieldPath.toPointer (path ++ sub) ∧
      e.received = received value e.kind := by
  cases records_of_mem_violations h with
  | keyword message broken unbounded => exact ⟨_, broken, rfl, rfl⟩
  | bound message broken asked =>
    refine ⟨[], broken, by rw [List.append_nil]; rfl, ?_⟩
    obtain ⟨rfl | rfl, -⟩ := bound?_eq_some asked
    · rfl
    · rfl

theorem expected_of_mem_violations {value : Json} (h : e ∈ rules.violations path value) :
    e.expected = rules.expected e.kind := by
  cases records_of_mem_violations h with
  | keyword message broken unbounded => rfl
  | bound message broken asked => exact (bound?_eq_some asked).2.symm

theorem exists_violation_of_mem_content {value : Json} (fits : rules.fits value = true)
    (h : e ∈ rules.checkContent path value) {kind : ViolationKind} (hk : e.kind = kind) {place : FieldPath}
    (hp : e.path = place.toPointer) :
    ∃ e ∈ rules.violations path value, e.kind = kind ∧ e.path = place.toPointer := by
  refine ⟨e, ?_, hk, hp⟩
  rw [violations_of_fits fits]
  exact List.mem_append_right _ h

theorem exists_mem_violations_of_breaks {value : Json} {kind : ViolationKind} {sub : FieldPath}
    (h : rules.Breaks value kind sub) (path : FieldPath) :
    ∃ e ∈ rules.violations path value, e.kind = kind ∧ e.path = FieldPath.toPointer (path ++ sub) := by
  cases h with
  | type asked broken =>
    cases ht : rules.typeError? path value with
    | none =>
      have fits := typeError?_eq_none_iff.1 ht
      simp [Rules.fits, asked, broken] at fits
    | some violation =>
      obtain ⟨_, _, _, hk, hp, _⟩ := typeError?_eq_some ht
      refine ⟨violation, ?_, hk, by rw [List.append_nil, hp]⟩
      unfold violations
      rw [ht]
      exact List.mem_singleton_self _
  | @enum values value fits asked broken =>
    rw [violations_of_fits fits, List.append_nil]
    have hnone : (values.any fun candidate => candidate.equal value) = false :=
      List.any_eq_false.2 fun allowed hm => by simp [broken allowed hm]
    exact ⟨_, List.mem_append_left _ (mem_keyword.2 ⟨_, asked, hnone, rfl⟩), rfl, rfl⟩
  | format fits asked broken =>
    rw [List.append_nil]
    exact exists_violation_of_mem_content fits
      (mem_checkString.2 (.inl (mem_keyword.2 ⟨_, asked, broken, rfl⟩))) rfl rfl
  | pattern fits asked broken =>
    rw [List.append_nil]
    exact exists_violation_of_mem_content fits
      (mem_checkString.2 (.inr (.inl (mem_keyword.2 ⟨_, asked, broken, rfl⟩)))) rfl rfl
  | minLength fits asked broken =>
    rw [List.append_nil]
    exact exists_violation_of_mem_content fits
      (mem_checkString.2 (.inr (.inr (.inl (mem_keyword.2 ⟨_, asked, by simpa using broken, rfl⟩))))) rfl rfl
  | maxLength fits asked broken =>
    rw [List.append_nil]
    exact exists_violation_of_mem_content fits
      (mem_checkString.2 (.inr (.inr (.inr (mem_keyword.2 ⟨_, asked, by simpa using broken, rfl⟩))))) rfl rfl
  | minimum fits asked broken =>
    rw [List.append_nil]
    have hrejects := Bound.rejectsBelow_iff.2 broken
    exact exists_violation_of_mem_content fits
      (mem_checkNumber.2 (.inl (mem_keyword.2 ⟨_, asked, by simp [hrejects], rfl⟩))) rfl rfl
  | maximum fits asked broken =>
    rw [List.append_nil]
    have hrejects := Bound.rejectsAbove_iff.2 broken
    exact exists_violation_of_mem_content fits
      (mem_checkNumber.2 (.inr (mem_keyword.2 ⟨_, asked, by simp [hrejects], rfl⟩))) rfl rfl
  | @required members name fits asked broken =>
    have hm : name ∈ rules.required.filter fun name => (members.lookup name).isNone :=
      List.mem_filter.2 ⟨asked, by simp [broken]⟩
    exact exists_violation_of_mem_content fits (List.mem_map.2 ⟨name, hm, rfl⟩) rfl rfl

end Rules

/-! ## Reports -/

/-- **A validation reports exactly the broken keywords.** An error of a kind at a pointer is in the report
if and only if the keyword is broken at an open visit that the validation reaches, the pointer being that
of the place at fault; and the value is valid if and only if no keyword is broken at such a visit. -/
theorem Node.reports_iff_reached_breaks (node : Node) (options : ValidateOptions) (payload : Json) :
    (∀ kind pointer,
      (∃ e ∈ (node.validate options payload).errors, e.kind = kind ∧ e.path = pointer) ↔
        ∃ v sub, Visit.Reached options.maxDepth ⟨[], node, payload⟩ v ∧ v.Open options.maxDepth ∧
          v.node.rules.Breaks v.value kind sub ∧ FieldPath.toPointer (v.path ++ sub) = pointer) ∧
    ((node.validate options payload).valid = true ↔
      ∀ v, Visit.Reached options.maxDepth ⟨[], node, payload⟩ v → v.Open options.maxDepth →
        ∀ kind sub, ¬ v.node.rules.Breaks v.value kind sub) := by
  have herrors : (node.validate options payload).errors
      = Visit.errors options.maxDepth ⟨[], node, payload⟩ := rfl
  have hvalid : (node.validate options payload).valid
      = (Visit.errors options.maxDepth ⟨[], node, payload⟩).isEmpty := rfl
  rw [herrors, hvalid, List.isEmpty_iff]
  refine ⟨fun kind pointer => ⟨?_, ?_⟩, ?_, ?_⟩
  · rintro ⟨e, he, rfl, rfl⟩
    obtain ⟨v, hv, counts, he⟩ := Visit.mem_errors_iff.1 he
    obtain ⟨sub, hb, hp, _⟩ := Rules.breaks_of_mem_violations he
    exact ⟨v, sub, hv, counts, hb, hp.symm⟩
  · rintro ⟨v, sub, hv, counts, hb, rfl⟩
    obtain ⟨e, he, hk, hp⟩ := Rules.exists_mem_violations_of_breaks hb v.path
    exact ⟨e, Visit.mem_errors_iff.2 ⟨v, hv, counts, he⟩, hk, hp⟩
  · intro hnil v hv counts kind sub hb
    obtain ⟨e, he, _⟩ := Rules.exists_mem_violations_of_breaks hb v.path
    have := Visit.mem_errors_iff.2 ⟨v, hv, counts, he⟩
    rw [hnil] at this
    cases this
  · intro hnone
    rw [List.eq_nil_iff_forall_not_mem]
    intro e he
    obtain ⟨v, hv, counts, he⟩ := Visit.mem_errors_iff.1 he
    obtain ⟨sub, hb, _⟩ := Rules.breaks_of_mem_violations he
    exact hnone v hv counts _ sub hb

end Schemata

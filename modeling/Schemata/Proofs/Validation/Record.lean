import Schemata.Proofs.Validation.Violations

/-!
# What the record of an error holds

* `Kind.tag_ne_kindName` : a value of the wrong kind is not called like the kind;
* `Violation.Complete` : a record is about a keyword, and tells how to mend the value, what was expected and what was
  received, unless there was nothing;
* `Rules.Suggests` : its hint is the one for its kind, what was expected and the subject, unless a limit is not allowed
  itself;
* `Node.errors_are_complete` : so it is with all errors of a report, which are counted in its summary.
-/

namespace Schemata

namespace Kind

theorem tag_ne_kindName {kind : Kind} {value : Json} (h : kind.accepts value = false) :
    kind.tag ≠ value.kindName := by
  cases kind with
  | other tag => cases h
  | _ =>
    cases value with
    | number n => cases hn : n.isIntegral <;> simp_all [accepts, tag, Json.kindName]
    | _ => simp_all [accepts, tag, Json.kindName]

end Kind

namespace Hint

/-- How to meet a limit of a number that is not allowed itself. -/
def strict? (limit : Number) : ViolationKind → Option String
  | .minimum => some ("Value must be greater than " ++ limit.text)
  | .maximum => some ("Value must be less than " ++ limit.text)
  | .required | .type | .format | .pattern | .enum | .minLength | .maxLength | .custom => none

end Hint

/-- The record is about a keyword and has a hint. It tells what was expected and what was received, but where a member
is missing, and for a wrong kind these differ. -/
structure Violation.Complete (e : Violation) : Prop where
  keyword : e.kind ≠ .custom
  hint : ∃ hint, e.fix = some hint
  expected : e.expected = none ↔ e.kind = .required
  received : e.received = none ↔ e.kind = .required
  differ : e.kind = .type → e.expected ≠ e.received

namespace Violation

variable {path : FieldPath} {kind : ViolationKind} {message : String} {expected received : Option Json}

/-- A missing member is called by its own name in the hint. -/
theorem fix_at_required (name : String) :
    (Violation.at (path ++ [.name name]) .required message expected received).fix =
      Hint.fix? .required (expected.getD .null) name := by
  unfold Violation.at
  rw [List.getLast?_concat]

theorem fix_at_of_ne_required (hk : kind ≠ .required) (subject : String) :
    (Violation.at path kind message expected received).fix = Hint.fix? kind (expected.getD .null) subject := by
  cases kind with
  | required => exact absurd rfl hk
  | _ => rfl

end Violation

namespace Rules

/-- The hint of a record at a value, where `sub` leads to the place that is at fault. For a bound whose limit is not
allowed itself it says so; else it follows from the kind, what was expected, and a subject, which is the name of a
member that is missing. -/
structure Suggests (rules : Rules) (sub : FieldPath) (e : Violation) : Prop where
  strict : ∀ bound, rules.bound? e.kind = some bound → bound.exclusive = true →
    e.expected = some (.number bound.limit) ∧ e.fix = Hint.strict? bound.limit e.kind
  usual : (∀ bound, rules.bound? e.kind = some bound → bound.exclusive = false) →
    ∀ subject, (e.kind = .required → sub = [.name subject]) →
      e.fix = Hint.fix? e.kind (e.expected.getD .null) subject

variable {rules : Rules} {path sub : FieldPath} {value : Json} {kind : ViolationKind} {e : Violation}

theorem Breaks.kind_ne_custom (h : rules.Breaks value kind sub) : kind ≠ .custom := by
  cases h with
  | _ => nofun

theorem Breaks.expected_eq_none_iff (h : rules.Breaks value kind sub) :
    rules.expected kind = none ↔ kind = .required := by
  cases h with
  | required => simp [expected]
  | type asked => simp [expected, asked]
  | enum _ asked => simp [expected, asked]
  | format _ asked => simp [expected, asked]
  | pattern _ asked => simp [expected, asked]
  | minLength _ asked => simp [expected, asked]
  | maxLength _ asked => simp [expected, asked]
  | minimum _ asked => simp [expected, asked]
  | maximum _ asked => simp [expected, asked]

theorem Breaks.received_eq_none_iff (h : rules.Breaks value kind sub) :
    received value kind = none ↔ kind = .required := by
  cases h with
  | _ => simp [received]

theorem Breaks.exists_fix? (h : rules.Breaks value kind sub) (subject : String) :
    ∃ hint, Hint.fix? kind ((rules.expected kind).getD .null) subject = some hint := by
  cases h with
  | required => exact ⟨_, rfl⟩
  | type asked => rw [expected, asked]; exact ⟨_, rfl⟩
  | enum _ asked => rw [expected, asked]; exact ⟨_, rfl⟩
  | format _ asked => rw [expected, asked]; exact ⟨_, rfl⟩
  | pattern _ asked => rw [expected, asked]; exact ⟨_, rfl⟩
  | minLength _ asked => rw [expected, asked]; exact ⟨_, rfl⟩
  | maxLength _ asked => rw [expected, asked]; exact ⟨_, rfl⟩
  | minimum _ asked => rw [expected, asked]; exact ⟨_, rfl⟩
  | maximum _ asked => rw [expected, asked]; exact ⟨_, rfl⟩

theorem Records.complete (h : rules.Records path value e) : e.Complete := by
  cases h with
  | @keyword value kind sub message broken unbounded =>
    refine ⟨broken.kind_ne_custom, broken.exists_fix? _, broken.expected_eq_none_iff, broken.received_eq_none_iff, ?_⟩
    rintro (rfl : kind = .type)
    cases broken with
    | type asked refused =>
      show rules.expected .type ≠ _
      rw [expected, asked]
      exact fun heq => Kind.tag_ne_kindName refused (Json.string.inj (Option.some.inj heq))
  | @bound n kind bound message broken asked =>
    obtain ⟨rfl | rfl, -⟩ := bound?_eq_some asked
    · exact ⟨nofun, ⟨_, rfl⟩, ⟨nofun, nofun⟩, ⟨nofun, nofun⟩, nofun⟩
    · exact ⟨nofun, ⟨_, rfl⟩, ⟨nofun, nofun⟩, ⟨nofun, nofun⟩, nofun⟩

theorem Records.exists_suggests (h : rules.Records path value e) :
    ∃ sub, rules.Breaks value e.kind sub ∧ e.path = FieldPath.toPointer (path ++ sub) ∧ rules.Suggests sub e := by
  cases h with
  | @keyword value kind sub message broken unbounded =>
    refine ⟨sub, broken, rfl, fun bound asked => ?_, fun _ subject hsubject => ?_⟩
    · cases unbounded.symm.trans asked
    · by_cases hk : kind = .required
      · subst hk
        rw [hsubject rfl]
        exact Violation.fix_at_required ..
      · exact Violation.fix_at_of_ne_required hk ..
  | @bound n kind bound message broken asked =>
    refine ⟨[], broken, by rw [List.append_nil]; rfl, fun bound' asked' exclusive => ?_, fun inclusive subject _ => ?_⟩
    · obtain rfl : bound = bound' := Option.some.inj (asked.symm.trans asked')
      refine ⟨rfl, ?_⟩
      show Hint.bound? kind (.number bound.limit) bound.exclusive = _
      rw [exclusive]
      obtain ⟨rfl | rfl, -⟩ := bound?_eq_some asked
      · rfl
      · rfl
    · show Hint.bound? kind (.number bound.limit) bound.exclusive = Hint.fix? kind (.number bound.limit) subject
      rw [inclusive bound asked]
      obtain ⟨rfl | rfl, -⟩ := bound?_eq_some asked
      · rfl
      · rfl

end Rules

namespace Node

/-- **The errors of a report are complete.** Each is about a keyword that is broken where the validation comes, and has
a hint, which is the one for its kind, what was expected, and the name of a missing member, or says that a limit is not
allowed itself. The summary counts them. -/
theorem errors_are_complete (node : Node) (options : ValidateOptions) (payload : Json) :
    (∀ e ∈ (node.validate options payload).errors, e.Complete ∧
      ∃ v sub, Visit.Reached options.maxDepth ⟨[], node, payload⟩ v ∧ v.Open options.maxDepth ∧
        v.node.rules.Breaks v.value e.kind sub ∧ e.path = FieldPath.toPointer (v.path ++ sub) ∧
        v.node.rules.Suggests sub e) ∧
      (node.validate options payload).summary =
        if (node.validate options payload).errors = [] then "Payload is valid"
        else "Found " ++ toString (node.validate options payload).errors.length ++ " validation error(s)" := by
  constructor
  · intro e he
    have he : e ∈ Visit.errors options.maxDepth ⟨[], node, payload⟩ := he
    obtain ⟨v, hr, counts, he⟩ := Visit.mem_errors_iff.1 he
    have hrecord := Rules.records_of_mem_violations he
    obtain ⟨sub, hsuggests⟩ := hrecord.exists_suggests
    exact ⟨hrecord.complete, v, sub, hr, counts, hsuggests⟩
  · show Report.summarize (node.validate options payload).errors.length = _
    unfold Report.summarize
    simp only [List.length_eq_zero_iff]

/-- A gauge whose level must be positive, and which has a member with a slash in its name. -/
def gaugeNode : Node :=
  .schema { required := ["a/b"] }
    [("level", .schema { minimum := some ⟨.ofNat 0, true⟩ } [] none .open []),
      ("unit", .schema { kind := some .string } [] none .open [])] none .open []

def gaugePayload : Json := .object [("level", .number (.ofNat 0)), ("unit", .bool true)]

def missingMember : Violation := .at [.name "a/b"] .required "Missing required field 'a/b'" none none

def lowLevel : Violation :=
  .ofBound [.name "level"] .minimum "Value 0 is not greater than exclusive minimum 0" ⟨.ofNat 0, true⟩ (.ofNat 0)

theorem errors_are_complete_gauge :
    missingMember ∈ (gaugeNode.validate {} gaugePayload).errors ∧ missingMember.Complete ∧
      missingMember.fix = some "Add the required field `a/b` to the payload" ∧
      lowLevel ∈ (gaugeNode.validate {} gaugePayload).errors ∧ lowLevel.Complete ∧
      lowLevel.fix = some "Value must be greater than 0" ∧
      (gaugeNode.validate {} gaugePayload).summary = "Found 3 validation error(s)" := by
  have hmissing : missingMember ∈ (gaugeNode.validate {} gaugePayload).errors := by decide
  have hlow : lowLevel ∈ (gaugeNode.validate {} gaugePayload).errors := by decide
  obtain ⟨hall, hsummary⟩ := errors_are_complete gaugeNode {} gaugePayload
  exact ⟨hmissing, (hall _ hmissing).1, by decide, hlow, (hall _ hlow).1, by decide, hsummary.trans (by decide)⟩

end Node

end Schemata

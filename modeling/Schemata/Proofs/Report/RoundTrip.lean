import Schemata.Proofs.Json.Decode
import Schemata.Proofs.Schema.Compile
import Schemata.Proofs.Validation.Violations
import Schemata.Report.Decode
import Schemata.Report.Encode

/-!
# Reports that are written and read back

* `Violation.Shows`, `Violation.shows_toJson` : what is written for a violation shows all that it holds;
* `Violation.decode_toJson`, `Warning.decode_toJson`, `Report.decode_toJson` : what is written is read back, except that
  a value `null` that was expected or received is lost;
* `Report.decode_toJson_validate` : which reports of a validation come back as they were.
-/

namespace Schemata

/-! ## Violations and warnings -/

theorem ViolationKind.decode_name (kind : ViolationKind) : decode (.string kind.name) = .ok kind := by
  cases kind <;> rfl

namespace Violation

/-- The violation without an expected or received value that is `null`. -/
def withoutNulls (v : Violation) : Violation :=
  { v with expected := v.expected.filter (· ≠ .null), received := v.received.filter (· ≠ .null) }

theorem withoutNulls_eq_iff {v : Violation} :
    v.withoutNulls = v ↔ v.expected ≠ some .null ∧ v.received ≠ some .null := by
  obtain ⟨field, path, message, kind, expected, received, fix⟩ := v
  simp only [withoutNulls, mk.injEq, true_and, and_true]
  have hfilter : ∀ found : Option Json, found.filter (· ≠ .null) = found ↔ found ≠ some .null := by
    intro found
    cases found <;> simp [Option.filter]
  rw [hfilter, hfilter]

/-- Members show a violation: each field has the value that the violation gives it. -/
structure Shows (v : Violation) (members : List (String × Json)) : Prop where
  names : (members.map Prod.fst).Nodup
  field : members.lookup "field" = some (.string v.field)
  path : members.lookup "path" = some (.string v.path)
  message : members.lookup "message" = some (.string v.message)
  kind : members.lookup "kind" = some (.string v.kind.name)
  expected : members.lookup "expected" = v.expected
  received : members.lookup "received" = v.received
  fix : members.lookup "fixSuggestion" = v.fix.map .string

theorem lookup_optional (key name : String) (value : Option Json) :
    (optional key value).lookup name = if name = key then value else none :=
  Names.lookup_toList key name value

theorem shows_toJson (v : Violation) : ∃ members, v.toJson = .object members ∧ v.Shows members := by
  refine ⟨_, rfl, ?_⟩
  constructor
  case names =>
    have hnames : ["field", "path", "message", "kind", "expected", "received", "fixSuggestion"].Nodup := by decide
    refine hnames.sublist ?_
    rw [List.map_append, List.map_append, List.map_append]
    exact (((List.Sublist.refl ["field", "path", "message", "kind"]).append (Names.keys_toList _ _)).append
      (Names.keys_toList _ _)).append (Names.keys_toList _ _)
  all_goals simp [List.lookup_append, lookup_optional, Names.lookup_cons]

/-- A violation is read back from what is written for it, a `null` in it apart. -/
theorem decode_toJson (v : Violation) : decode v.toJson = .ok v.withoutNulls := by
  obtain ⟨members, hj, hs⟩ := v.shows_toJson
  rw [hj]
  refine bind_eq_ok.2 ⟨_, Decode.record_object hs.names ?_ _, ?_⟩
  · simp only [List.forall_mem_cons]
    refine ⟨?_, ?_, ?_, ?_, ?_, ?_, ?_, nofun⟩
    · exact Decode.Field.suits_of_found hs.field (Decode.text_string _) "field" false
    · exact Decode.Field.suits_of_found hs.path (Decode.text_string _) "path" false
    · exact Decode.Field.suits_of_found hs.message (Decode.text_string _) "message" false
    · exact Decode.Field.suits_of_found hs.kind (ViolationKind.decode_name _) "kind" false
    · exact Decode.Field.suits_of_elim (Decode.elim_optional_value _) "expected"
    · exact Decode.Field.suits_of_elim (Decode.elim_optional_value _) "received"
    · exact Decode.Field.suits_of_elim (Decode.elim_optional_text hs.fix) "fixSuggestion"
  · simp only [Decode.fieldOr_eq_elim, hs.field, hs.path, hs.message, hs.kind, hs.expected, hs.received,
      Option.elim_some, Decode.elim_optional_value, Decode.elim_optional_text hs.fix, ViolationKind.decode_name]
    rfl

end Violation

theorem Warning.decode_toJson (w : Warning) : decode w.toJson = .ok w := by
  obtain ⟨field, kind, suggestion⟩ := w
  cases kind <;> rfl

/-! ## Reports -/

namespace Report

def withoutNulls (r : Report) : Report := { r with errors := r.errors.map Violation.withoutNulls }

theorem withoutNulls_eq_iff {r : Report} :
    r.withoutNulls = r ↔ ∀ e ∈ r.errors, e.expected ≠ some .null ∧ e.received ≠ some .null := by
  obtain ⟨valid, errors, warnings, summary⟩ := r
  simp only [withoutNulls, mk.injEq, true_and, and_true]
  have hmap := List.map_eq_map_iff (f := Violation.withoutNulls) (g := id) (l := errors)
  rw [List.map_id] at hmap
  rw [hmap]
  exact forall₂_congr fun e _ => Violation.withoutNulls_eq_iff

/-- Members show a report: each field has the value that the report gives it. -/
structure Shows (r : Report) (members : List (String × Json)) : Prop where
  names : (members.map Prod.fst).Nodup
  valid : members.lookup "valid" = some (.bool r.valid)
  errors : members.lookup "errors" = some (.array (r.errors.map Violation.toJson))
  warnings : members.lookup "warnings" =
    if r.warnings.isEmpty then none else some (.array (r.warnings.map Warning.toJson))
  summary : members.lookup "summary" = some (.string r.summary)

theorem shows_toJson (r : Report) : ∃ members, r.toJson = .object members ∧ r.Shows members := by
  refine ⟨_, rfl, ?_⟩
  constructor
  case names =>
    have hnames : ["valid", "errors", "warnings", "summary"].Nodup := by decide
    refine hnames.sublist ?_
    rw [List.map_append, List.map_append]
    exact ((List.Sublist.refl ["valid", "errors"]).append (Names.keys_unless _ _ _)).append
      (List.Sublist.refl ["summary"])
  all_goals simp [List.lookup_append, Names.lookup_unless, Names.lookup_cons]

theorem decode_toJson (r : Report) : decode r.toJson = .ok r.withoutNulls := by
  obtain ⟨members, hj, hs⟩ := r.shows_toJson
  have herrors := Decode.items_map Violation.decode_toJson r.errors
  have hwarnings : (members.lookup "warnings").elim (.ok []) (Decode.items Warning.decode) = .ok r.warnings := by
    rw [hs.warnings]
    cases hw : r.warnings with
    | nil => rfl
    | cons w rest => exact (Decode.items_map Warning.decode_toJson (w :: rest)).trans (by rw [List.map_id'])
  rw [hj]
  refine bind_eq_ok.2 ⟨_, Decode.record_object hs.names ?_ _, ?_⟩
  · simp only [List.forall_mem_cons]
    refine ⟨?_, ?_, ?_, ?_, nofun⟩
    · exact Decode.Field.suits_of_found hs.valid (Decode.flag_bool _) "valid" false
    · exact Decode.Field.suits_of_found hs.errors herrors "errors" false
    · exact Decode.Field.suits_of_elim hwarnings "warnings"
    · exact Decode.Field.suits_of_found hs.summary (Decode.text_string _) "summary" false
  · simp only [Decode.fieldOr_eq_elim, hs.valid, hs.errors, hs.summary, Option.elim_some, herrors, hwarnings]
    rfl

end Report

/-! ## What a validation reports -/

namespace Rules

theorem expected_ne_null (rules : Rules) (kind : ViolationKind) : rules.expected kind ≠ some .null := by
  cases kind <;> simp [expected, Json.ofNat]

/-- Only an `enum` is broken by a `null` that was received. -/
theorem kind_of_received_eq_null {rules : Rules} {value : Json} {kind : ViolationKind} {sub : FieldPath}
    (h : rules.Breaks value kind sub) (hr : received value kind = some .null) : kind = .enum := by
  cases h with
  | enum => rfl
  | _ => cases hr

end Rules

/-- A violation that a validation reports expects no `null`, and if it received one, its kind is `enum`. -/
theorem Violation.nulls_of_mem_validate {options : ValidateOptions} {payload schema : Json} {e : Violation}
    (h : e ∈ (validate options payload schema).errors) :
    e.expected ≠ some .null ∧ (e.received = some .null → e.kind = .enum) := by
  unfold validate at h
  cases hc : Node.compile schema with
  | error fault =>
    rw [hc] at h
    obtain rfl := List.mem_singleton.1 h
    exact ⟨nofun, nofun⟩
  | ok node =>
    rw [hc] at h
    have h : e ∈ Visit.errors options.maxDepth ⟨[], node, payload⟩ := h
    obtain ⟨v, -, -, he⟩ := Visit.mem_errors_iff.1 h
    obtain ⟨sub, hb, -, hr⟩ := Rules.breaks_of_mem_violations he
    rw [Rules.expected_of_mem_violations he, hr]
    exact ⟨v.node.rules.expected_ne_null e.kind, Rules.kind_of_received_eq_null hb⟩

/-- **Which reports of a validation come back.** A report of a validation is read back from what is written for it,
each `null` in it apart. So it comes back as it was if and only if no `null` was received where an `enum` does not allow
one. -/
theorem Report.decode_toJson_validate (options : ValidateOptions) (payload schema : Json) :
    let report := validate options payload schema
    decode report.toJson = .ok report.withoutNulls ∧
      (decode report.toJson = .ok report ↔ ∀ e ∈ report.errors, ¬ (e.kind = .enum ∧ e.received = some .null)) := by
  intro report
  refine ⟨decode_toJson report, ?_⟩
  rw [decode_toJson, Except.ok.injEq, withoutNulls_eq_iff]
  refine forall₂_congr fun e he => ?_
  obtain ⟨hexpected, hkind⟩ := Violation.nulls_of_mem_validate he
  exact ⟨fun h hnull => h.2 hnull.2, fun h => ⟨hexpected, fun hnull => h ⟨hkind hnull, hnull⟩⟩⟩

/-- The `null` that an `enum` rejects is lost. -/
theorem Report.decode_toJson_ne_of_null :
    let report := validate {} .null (.object [("enum", .array [.ofNat 1])])
    decode report.toJson ≠ .ok report := by
  intro report h
  rw [decode_toJson, Except.ok.injEq, withoutNulls_eq_iff] at h
  obtain ⟨e, he, hnull⟩ : ∃ e ∈ report.errors, e.received = some .null := ⟨_, List.mem_singleton_self _, rfl⟩
  exact (h e he).2 hnull

end Schemata

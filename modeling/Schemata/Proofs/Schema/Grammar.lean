import Schemata.Proofs.Number.Integer
import Schemata.Proofs.Schema.RoundTrip
import Schemata.Validation.Basic

/-!
# Which values are schemas

* `Number.IsLength`, `Pattern.IsKnown` : the numbers and the texts that stand behind lengths and patterns;
* `Rules.WellFormed` : each keyword of rules is absent or has a value of its form;
* `Json.IsSchema` : the grammar of schemas;
* `Rules.exists_read_iff`, `Node.exists_compileProperties_iff` and their companions : what has to hold for the rules and
  the parts of an object to be read;
* `Node.exists_compile_iff_isSchema` : exactly the schemas of the grammar are read, and any other value is reported as
  the only error.
-/

namespace Schemata

/-! ## The grammar -/

def Number.units : Number → Int
  | .integer i _ => i * Double.one
  | .double x => x.units

/-- The value is a natural number of 64 bits, or the next one. -/
def Number.IsLength (n : Number) : Prop :=
  ∃ length : Nat, length ≤ 0x10000000000000000 ∧ n.units = length * Double.one

/-- The text is a regular expression, or is none only because it looks around or refers back. -/
def Pattern.IsKnown (source : String) : Prop :=
  (∃ expr, Regex.compile source = .ok expr) ∨
    ∃ e : Regex.SyntaxError, Regex.compile source = .error (.writing e) ∧ e.fault ∈ [.lookAround, .backreference]

namespace Json

/-! ### Forms of values -/

def IsText (value : Json) : Prop := ∃ text, value = .string text

def IsTexts (value : Json) : Prop := ∃ texts : List String, value = .array (texts.map .string)

def IsPattern (value : Json) : Prop := ∃ source, value = .string source ∧ Pattern.IsKnown source

def IsNumber (value : Json) : Prop := ∃ n, value = .number n

def IsLength (value : Json) : Prop := ∃ n, value = .number n ∧ n.IsLength

def IsFlag (value : Json) : Prop := ∃ flag, value = .bool flag

def IsArray (value : Json) : Prop := ∃ items, value = .array items

def IsObject (value : Json) : Prop := ∃ members, value = .object members

/-- The keyword is absent or has a value of this form. -/
def AbsentOr (members : List (String × Json)) (keyword : String) (form : Json → Prop) : Prop :=
  ∀ value, members.lookup keyword = some value → form value

end Json

open Json in
/-- Each keyword of rules is absent or has a value of its form. -/
structure Rules.WellFormed (members : List (String × Json)) : Prop where
  type : AbsentOr members "type" fun value => value.IsText ∨ value.IsTexts
  format : AbsentOr members "format" IsText
  pattern : AbsentOr members "pattern" IsPattern
  enum : AbsentOr members "enum" IsArray
  minLength : AbsentOr members "minLength" IsLength
  maxLength : AbsentOr members "maxLength" IsLength
  minimum : AbsentOr members "minimum" IsNumber
  exclusiveMinimum : AbsentOr members "exclusiveMinimum" fun value => value.IsNumber ∨ value.IsFlag
  maximum : AbsentOr members "maximum" IsNumber
  exclusiveMaximum : AbsentOr members "exclusiveMaximum" fun value => value.IsNumber ∨ value.IsFlag
  required : AbsentOr members "required" fun value => value.IsFlag ∨ value.IsTexts

namespace Json

/-- Each keyword of parts is absent or has a value of its form. -/
structure PartsWellFormed (members : List (String × Json)) : Prop where
  properties : AbsentOr members "properties" IsObject
  items : AbsentOr members "items" fun value => value.IsArray ∨ value.IsFlag ∨ value.IsObject
  additional : AbsentOr members "additionalProperties" fun value => value.IsFlag ∨ value.IsObject

/-- A value stands where the members of an object have to have a schema. -/
inductive SchemaPart (members : List (String × Json)) : Json → Prop
  | property {properties m} (h : members.lookup "properties" = some (.object properties)) (hm : m ∈ properties) :
    SchemaPart members m.2
  | items {inner} (h : members.lookup "items" = some (.object inner)) : SchemaPart members (.object inner)
  | additional {inner} (h : members.lookup "additionalProperties" = some (.object inner)) :
    SchemaPart members (.object inner)

/-- The grammar of schemas. Beside a reference nothing is looked at. -/
inductive IsSchema : Json → Prop
  | bool (b : Bool) : IsSchema (.bool b)
  | reference {members target} (h : members.lookup "$ref" = some (.string target)) : IsSchema (.object members)
  | node {members} (href : members.lookup "$ref" = none) (rules : Rules.WellFormed members)
      (parts : PartsWellFormed members) (below : ∀ part, SchemaPart members part → IsSchema part) :
      IsSchema (.object members)

theorem SchemaPart.hasPart {members : List (String × Json)} {part : Json} (h : SchemaPart members part) :
    (object members).HasPart part := by
  cases h with
  | property h hm => exact .trans (.of_lookup h) (.member hm)
  | items h => exact .of_lookup h
  | additional h => exact .of_lookup h

theorem IsSchema.of_object {members : List (String × Json)} (h : (object members).IsSchema)
    (href : members.lookup "$ref" = none) :
    Rules.WellFormed members ∧ ∀ part, SchemaPart members part → part.IsSchema := by
  cases h with
  | reference h =>
    rw [href] at h
    cases h
  | node _ rules _ below => exact ⟨rules, below⟩

end Json

/-! ## Steps that succeed -/

theorem exists_bind_pure_iff {ε α β : Type} {x : Except ε α} {f : α → β} :
    (∃ b, (x >>= fun a => pure (f a)) = .ok b) ↔ ∃ a, x = .ok a := by
  simp only [bind_eq_ok, pure_eq_ok]
  exact ⟨fun ⟨_, a, h, _⟩ => ⟨a, h⟩, fun ⟨a, h⟩ => ⟨f a, a, h, rfl⟩⟩

theorem exists_mapError_iff {ε ε' α : Type} {x : Except ε α} {f : ε → ε'} :
    (∃ a, x.mapError f = .ok a) ↔ ∃ a, x = .ok a := by
  cases x with
  | ok a => exact ⟨fun _ => ⟨a, rfl⟩, fun _ => ⟨a, rfl⟩⟩
  | error e => exact ⟨nofun, nofun⟩

/-! ## Patterns -/

theorem Pattern.exists_enforced?_iff (source : String) :
    (∃ pattern, enforced? source = .ok pattern) ↔ IsKnown source := by
  cases h : Regex.compile source with
  | ok expr =>
    rw [enforced?, compile_of_ok h]
    exact ⟨fun _ => .inl ⟨expr, h⟩, fun _ => ⟨_, rfl⟩⟩
  | error e =>
    rw [enforced?, compile_of_error h, IsKnown, h]
    split
    · next pattern he => cases he
    · next span other he =>
      cases he
      simp
    · next span other he =>
      cases he
      simp
    · next e' hlook hback he =>
      cases he
      -- Only the two faults that were excluded would be accepted.
      have hother : ∀ e' : Regex.SyntaxError, e = .writing e' → e'.fault ∉ [.lookAround, .backreference] := by
        rintro ⟨fault, span, other⟩ rfl hmem
        simp only [List.mem_cons, List.not_mem_nil, or_false] at hmem
        rcases hmem with rfl | rfl
        · exact hlook span other rfl
        · exact hback span other rfl
      simpa using hother

/-! ## Rules -/

namespace Rules

open Json

theorem exists_lengthOf?_iff (n : Number) : (∃ length, lengthOf? n = some length) ↔ n.IsLength := by
  unfold lengthOf? Number.IsLength Number.units
  cases n with
  | integer i h =>
    have hone : (Double.one : Int) ≠ 0 := Int.ofNat_ne_zero.2 (Nat.ne_of_gt Double.one_pos)
    simp only [Int.mul_eq_mul_right_iff hone]
    constructor
    · rintro ⟨length, hl⟩
      split at hl
      · exact ⟨i.toNat, by omega, by omega⟩
      · cases hl
    · rintro ⟨length, -, rfl⟩
      exact ⟨_, if_pos (Int.natCast_nonneg length)⟩
  | double x =>
    simp only [Double.units_eq_mul_one_iff]
    constructor
    · rintro ⟨length, hl⟩
      split at hl
      · next h => exact ⟨x.truncate.toNat, by omega, h.1, by omega⟩
      · cases hl
    · rintro ⟨length, hle, hi, ht⟩
      exact ⟨_, if_pos ⟨hi, by omega, by omega⟩⟩

theorem readTexts_eq_ok_iff {path keyword expected : String} {values : List Json} {texts : List String} :
    readTexts path keyword expected values = .ok texts ↔ values = texts.map .string := by
  constructor
  · intro h
    induction values generalizing texts with
    | nil =>
      cases h
      rfl
    | cons value rest ih =>
      cases value with
      | string text =>
        rw [readTexts] at h
        simp only [bind_eq_ok, pure_eq_ok] at h
        obtain ⟨texts, htexts, rfl⟩ := h
        rw [ih htexts, List.map_cons]
      | _ => cases h
  · rintro rfl
    exact readTexts_map_string path keyword expected texts

variable (path keyword : String) (members : List (String × Json))

theorem exists_readKind_iff :
    (∃ kind, readKind path (.object members) = .ok kind) ↔
      AbsentOr members "type" fun value => value.IsText ∨ value.IsTexts := by
  rw [readKind, member?, AbsentOr]
  cases members.lookup "type" with
  | none => simp
  | some value =>
    cases value with
    | array tags =>
      dsimp only
      rw [exists_bind_pure_iff]
      simp [readTexts_eq_ok_iff, IsText, IsTexts]
    | _ => simp [invalid, IsText, IsTexts]

theorem exists_readText_iff :
    (∃ text, readText path keyword (.object members) = .ok text) ↔ AbsentOr members keyword IsText := by
  rw [readText, member?, AbsentOr]
  cases members.lookup keyword with
  | none => simp
  | some value => cases value <;> simp [invalid, IsText]

theorem exists_readPattern_iff :
    (∃ pattern, readPattern path (.object members) = .ok pattern) ↔ AbsentOr members "pattern" IsPattern := by
  rw [readPattern, readText, member?, AbsentOr]
  cases members.lookup "pattern" with
  | none => simp [bind_eq_ok, pure_eq_ok]
  | some value =>
    cases value with
    | string source =>
      simp only [ok_bind, exists_mapError_iff, Pattern.exists_enforced?_iff]
      simp [IsPattern]
    | _ => simp [bind_eq_ok, invalid, IsPattern]

theorem exists_readAllowed_iff :
    (∃ allowed, readAllowed path (.object members) = .ok allowed) ↔ AbsentOr members "enum" IsArray := by
  rw [readAllowed, member?, AbsentOr]
  cases members.lookup "enum" with
  | none => simp
  | some value => cases value <;> simp [invalid, IsArray]

theorem exists_readLength_iff :
    (∃ length, readLength path keyword (.object members) = .ok length) ↔ AbsentOr members keyword IsLength := by
  rw [readLength, member?, AbsentOr]
  cases members.lookup keyword with
  | none => simp
  | some value =>
    cases value with
    | number n =>
      dsimp only
      cases hl : lengthOf? n with
      | none => simp [invalid, IsLength, ← exists_lengthOf?_iff, hl]
      | some length => simp [IsLength, ← exists_lengthOf?_iff, hl]
    | _ => simp [invalid, IsLength]

theorem exists_readBound_iff (inclusive exclusive : String) :
    (∃ bound, readBound path inclusive exclusive (.object members) = .ok bound) ↔
      AbsentOr members inclusive IsNumber ∧
        AbsentOr members exclusive fun value => value.IsNumber ∨ value.IsFlag := by
  rw [readBound, member?, member?, AbsentOr, AbsentOr]
  cases members.lookup inclusive with
  | none => cases members.lookup exclusive with
    | none => simp [pure_eq_ok]
    | some value => cases value <;> simp [pure_eq_ok, invalid, IsNumber, IsFlag]
  | some value => cases value with
    | number n => cases members.lookup exclusive with
      | none => simp [pure_eq_ok, IsNumber]
      | some value => cases value <;> simp [pure_eq_ok, invalid, IsNumber, IsFlag]
    | _ => simp [bind_eq_ok, invalid, IsNumber]

theorem exists_readRequired_iff :
    (∃ required, readRequired path (.object members) = .ok required) ↔
      AbsentOr members "required" fun value => value.IsFlag ∨ value.IsTexts := by
  rw [readRequired, member?, AbsentOr]
  cases members.lookup "required" with
  | none => simp
  | some value =>
    cases value with
    | array names => simp [readTexts_eq_ok_iff, IsFlag, IsTexts]
    | _ => simp [invalid, IsFlag, IsTexts]

theorem exists_read_iff : (∃ rules, read path (.object members) = .ok rules) ↔ WellFormed members := by
  constructor
  · rintro ⟨rules, hread⟩
    have h := read_eq_ok_iff.1 hread
    obtain ⟨named, hkind, -⟩ := h.kind
    obtain ⟨name, hformat, -⟩ := h.format
    have hminimum := (exists_readBound_iff path members "minimum" "exclusiveMinimum").1 ⟨_, h.minimum⟩
    have hmaximum := (exists_readBound_iff path members "maximum" "exclusiveMaximum").1 ⟨_, h.maximum⟩
    exact {
      type := (exists_readKind_iff path members).1 ⟨_, hkind⟩
      format := (exists_readText_iff path "format" members).1 ⟨_, hformat⟩
      pattern := (exists_readPattern_iff path members).1 ⟨_, h.pattern⟩
      enum := (exists_readAllowed_iff path members).1 ⟨_, h.allowed⟩
      minLength := (exists_readLength_iff path "minLength" members).1 ⟨_, h.minLength⟩
      maxLength := (exists_readLength_iff path "maxLength" members).1 ⟨_, h.maxLength⟩
      minimum := hminimum.1
      exclusiveMinimum := hminimum.2
      maximum := hmaximum.1
      exclusiveMaximum := hmaximum.2
      required := (exists_readRequired_iff path members).1 ⟨_, h.required⟩ }
  · intro h
    obtain ⟨⟨kind, named⟩, hkind⟩ := (exists_readKind_iff path members).2 h.type
    obtain ⟨name, hformat⟩ := (exists_readText_iff path "format" members).2 h.format
    obtain ⟨pattern, hpattern⟩ := (exists_readPattern_iff path members).2 h.pattern
    obtain ⟨allowed, hallowed⟩ := (exists_readAllowed_iff path members).2 h.enum
    obtain ⟨minLength, hminLength⟩ := (exists_readLength_iff path "minLength" members).2 h.minLength
    obtain ⟨maxLength, hmaxLength⟩ := (exists_readLength_iff path "maxLength" members).2 h.maxLength
    obtain ⟨minimum, hminimum⟩ := (exists_readBound_iff path members _ _).2 ⟨h.minimum, h.exclusiveMinimum⟩
    obtain ⟨maximum, hmaximum⟩ := (exists_readBound_iff path members _ _).2 ⟨h.maximum, h.exclusiveMaximum⟩
    obtain ⟨required, hrequired⟩ := (exists_readRequired_iff path members).2 h.required
    simp only [read, bind_eq_ok]
    exact ⟨_, _, hkind, _, hformat, _, hpattern, _, hallowed, _, hminLength, _, hmaxLength, _, hminimum, _, hmaximum,
      _, hrequired, rfl⟩

end Rules

/-! ## Parts -/

namespace Node

open Json

variable (path : String) (members : List (String × Json))

theorem exists_compileEach_iff (values : List (String × Json)) :
    (∃ properties, compileEach path values = .ok properties) ↔
      ∀ m ∈ values, ∃ node, compileAt (Pointer.child path m.1) m.2 = .ok node := by
  induction values with
  | nil => simp [compileEach]
  | cons entry rest ih =>
    rw [List.forall_mem_cons, ← ih]
    simp only [compileEach, bind_eq_ok, pure_eq_ok]
    constructor
    · rintro ⟨_, node, hnode, properties, hproperties, -⟩
      exact ⟨⟨node, hnode⟩, properties, hproperties⟩
    · rintro ⟨⟨node, hnode⟩, properties, hproperties⟩
      exact ⟨_, node, hnode, properties, hproperties, rfl⟩

theorem exists_compileProperties_iff :
    (∃ properties, compileProperties path members = .ok properties) ↔
      AbsentOr members "properties" IsObject ∧
        ∀ properties, members.lookup "properties" = some (.object properties) → ∀ m ∈ properties,
          ∃ node, compileAt (Pointer.child (Pointer.child path "properties") m.1) m.2 = .ok node := by
  rw [compileProperties_eq, AbsentOr]
  cases members.lookup "properties" with
  | none => simp
  | some value =>
    cases value with
    | object properties =>
      dsimp only [Option.elim_some]
      rw [exists_compileEach_iff]
      simp [IsObject]
    | _ => simp [Rules.invalid, IsObject]

theorem exists_compileItems_iff :
    (∃ items, compileItems path members = .ok items) ↔
      (AbsentOr members "items" fun value => value.IsArray ∨ value.IsFlag ∨ value.IsObject) ∧
        ∀ inner, members.lookup "items" = some (.object inner) →
          ∃ node, compileAt (Pointer.child path "items") (.object inner) = .ok node := by
  rw [compileItems_eq, AbsentOr]
  cases members.lookup "items" with
  | none => simp
  | some value =>
    cases value with
    | object inner =>
      dsimp only [Option.elim_some]
      rw [exists_bind_pure_iff]
      simp [IsArray, IsFlag, IsObject]
    | _ => simp [Rules.invalid, IsArray, IsFlag, IsObject]

theorem exists_compileAdditional_iff :
    (∃ additional, compileAdditional path members = .ok additional) ↔
      (AbsentOr members "additionalProperties" fun value => value.IsFlag ∨ value.IsObject) ∧
        ∀ inner, members.lookup "additionalProperties" = some (.object inner) →
          ∃ node, compileAt (Pointer.child path "additionalProperties") (.object inner) = .ok node := by
  rw [compileAdditional_eq, AbsentOr]
  cases members.lookup "additionalProperties" with
  | none => simp
  | some value =>
    cases value with
    | object inner =>
      dsimp only [Option.elim_some]
      rw [exists_bind_pure_iff]
      simp [IsFlag, IsObject]
    | bool flag => cases flag <;> simp [IsFlag, IsObject]
    | _ => simp [Rules.invalid, IsFlag, IsObject]

/-! ## Schemas -/

/-- What is read is a schema of the grammar: of an object that is read, all keywords and parts are. -/
theorem isSchema_of_compileAt {path : String} {value : Json} {node : Node} (h : compileAt path value = .ok node) :
    value.IsSchema := by
  cases value with
  | bool b => exact .bool b
  | object members =>
    rcases compileAt_object_eq_ok h with ⟨target, href, -⟩ | ⟨href, hrules, hproperties, hitems, hadditional, -⟩
    · exact .reference href
    · obtain ⟨properties, hbelow⟩ := (exists_compileProperties_iff path members).1 ⟨_, hproperties⟩
      obtain ⟨items, hitem⟩ := (exists_compileItems_iff path members).1 ⟨_, hitems⟩
      obtain ⟨additional, hfurther⟩ := (exists_compileAdditional_iff path members).1 ⟨_, hadditional⟩
      have hrules := (Rules.exists_read_iff path members).1 ⟨_, Rules.read_eq_ok_iff.2 hrules⟩
      refine .node href hrules ⟨properties, items, additional⟩ fun part hpart => ?_
      have hlt := hpart.hasPart.sizeOf_lt
      have hread : ∃ place node, compileAt place part = .ok node := by
        cases hpart with
        | property hl hm => exact ⟨_, hbelow _ hl _ hm⟩
        | items hl => exact ⟨_, hitem _ hl⟩
        | additional hl => exact ⟨_, hfurther _ hl⟩
      obtain ⟨place, node, hnode⟩ := hread
      exact isSchema_of_compileAt hnode
  | _ =>
    simp only [compileAt] at h
    cases h
termination_by sizeOf value

/-- A schema of the grammar is read, wherever it stands. -/
theorem exists_compileAt_of_isSchema {value : Json} (h : value.IsSchema) (path : String) :
    ∃ node, compileAt path value = .ok node := by
  induction h generalizing path with
  | bool b => exact ⟨any, by rw [compileAt]⟩
  | reference href => exact ⟨_, compileAt_of_reference href path⟩
  | @node members href rules parts below ih =>
    obtain ⟨rules, hrules⟩ := (Rules.exists_read_iff path members).2 rules
    obtain ⟨properties, hproperties⟩ := (exists_compileProperties_iff path members).2
      ⟨parts.properties, fun _ hl _ hm => ih _ (.property hl hm) _⟩
    obtain ⟨items, hitems⟩ := (exists_compileItems_iff path members).2
      ⟨parts.items, fun _ hl => ih _ (.items hl) _⟩
    obtain ⟨additional, hadditional⟩ := (exists_compileAdditional_iff path members).2
      ⟨parts.additional, fun _ hl => ih _ (.additional hl) _⟩
    exact ⟨_, compileAt_object href (Rules.read_eq_ok_iff.1 hrules) hproperties hitems hadditional⟩

/-- **Exactly the schemas of the grammar are read.** Any other value is reported as the only error, for whatever value
it should have been used. -/
theorem exists_compile_iff_isSchema (s : Json) :
    ((∃ node, compile s = .ok node) ↔ s.IsSchema) ∧
      (¬ s.IsSchema → ∀ options payload, ∃ v, (Schemata.validate options payload s).errors = [v] ∧
        v.kind = .custom ∧ v.field = "schema") := by
  have hiff : (∃ node, compile s = .ok node) ↔ s.IsSchema :=
    ⟨fun ⟨_, h⟩ => isSchema_of_compileAt h, fun h => exists_compileAt_of_isSchema h "#"⟩
  refine ⟨hiff, fun hs options payload => ?_⟩
  unfold Schemata.validate
  cases h : compile s with
  | ok node => exact absurd (hiff.1 ⟨node, h⟩) hs
  | error e => exact ⟨_, rfl, rfl, rfl⟩

/-- A schema of lists of texts, with a least length for them, and keywords that are not looked at. -/
def textsSchema (minLength : Json) : Json :=
  .object [
    ("properties", .object [("texts", .object [
      ("items", .object [("minLength", minLength), ("allOf", .string "no list")]),
      ("required", .bool true)])]),
    ("items", .array [.null])]

theorem not_isSchema_textsSchema : ¬ (textsSchema (.string "3")).IsSchema := by
  intro h
  have htexts := (h.of_object rfl).2 _ (.property rfl (List.mem_singleton.2 rfl))
  have hitems := (htexts.of_object rfl).2 _ (.items rfl)
  obtain ⟨n, hn, -⟩ := (hitems.of_object rfl).1.minLength _ rfl
  cases hn

theorem exists_compile_iff_isSchema_texts :
    (textsSchema (.ofNat 3)).IsSchema ∧ ¬ (textsSchema (.string "3")).IsSchema ∧
      ∀ options payload, ∃ v, (Schemata.validate options payload (textsSchema (.string "3"))).errors = [v] ∧
        v.kind = .custom ∧ v.field = "schema" :=
  ⟨(exists_compile_iff_isSchema _).1.1 ⟨_, rfl⟩, not_isSchema_textsSchema,
    (exists_compile_iff_isSchema _).2 not_isSchema_textsSchema⟩

end Node

end Schemata

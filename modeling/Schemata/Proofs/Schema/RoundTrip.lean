import Mathlib.Data.List.Basic
import Schemata.Proofs.Schema.Equality
import Schemata.Proofs.Schema.Render

/-!
# Reading what was written

* `Node.Shows.readFrom`, `Node.Shows.compileProperties` and their companions : what shows a node in normal form is read
  as that node, part by part;
* `Node.readsBack_of_everywhere` : a node in normal form is read back from what is written for it;
* `Node.compile_toJson` : a schema that was read, written and read again gives the same node.
-/

namespace Schemata

/-! ## Entries by key -/

/-- What has its keys in a given order, is made of what is found for each of these keys. -/
theorem flatMap_lookup_of_sublist {κ α : Type} [DecidableEq κ] {keys : List κ} (hd : keys.Nodup)
    {entries : List (κ × α)} (h : (entries.map Prod.fst).Sublist keys) :
    (keys.flatMap fun k => (entries.lookup k).elim [] fun a => [(k, a)]) = entries := by
  induction keys generalizing entries with
  | nil => exact (List.map_eq_nil_iff.1 (List.sublist_nil.1 h)).symm
  | cons key keys ih =>
    obtain ⟨hk, hd⟩ := List.nodup_cons.1 hd
    rw [List.flatMap_cons]
    by_cases hf : ∃ a rest, entries = (key, a) :: rest
    · obtain ⟨a, rest, rfl⟩ := hf
      rw [List.map_cons, List.cons_sublist_cons] at h
      rw [List.lookup_cons_self, Option.elim_some, List.singleton_append]
      -- The other keys are found behind the first entry.
      have hrest : (keys.flatMap fun k => (((key, a) :: rest).lookup k).elim [] fun a => [(k, a)])
          = keys.flatMap fun k => (rest.lookup k).elim [] fun a => [(k, a)] := by
        refine List.flatMap_congr fun k hmem => ?_
        have hne : k ≠ key := fun e => hk (e ▸ hmem)
        rw [Names.lookup_cons, if_neg hne]
      rw [hrest, ih hd h]
    · have hsub : (entries.map Prod.fst).Sublist keys := by
        cases entries with
        | nil => exact List.nil_sublist _
        | cons entry rest =>
          refine (List.sublist_cons_iff.1 h).resolve_right ?_
          rintro ⟨r, hr, -⟩
          rw [List.map_cons] at hr
          exact hf ⟨entry.2, rest, by rw [← (List.cons.inj hr).1]⟩
      have hnone : entries.lookup key = none := by
        refine List.lookup_eq_none_iff.2 fun p hp => bne_iff_ne.2 ?_
        rintro rfl
        exact hk (hsub.subset (List.mem_map.2 ⟨p, hp, rfl⟩))
      rw [hnone, Option.elim_none, List.nil_append, ih hd hsub]

/-! ## Keyword by keyword -/

namespace Pattern

theorem compile_of_ok {source : String} {expr : Regex.Expr} (h : Regex.compile source = .ok expr) :
    compile source = .ok ⟨source, expr, h⟩ := by
  unfold compile
  split
  · exact congrArg Except.ok (ext_source rfl)
  · next e he =>
    rw [h] at he
    cases he

theorem compile_of_error {source : String} {e : Regex.Error} (h : Regex.compile source = .error e) :
    compile source = .error e := by
  unfold compile
  split
  · next expr he =>
    rw [h] at he
    cases he
  · next e' he =>
    rw [h] at he
    exact congrArg Except.error (Except.error.inj he).symm

theorem enforced?_source (p : Pattern) : enforced? p.source = .ok (some p) := by
  rw [enforced?, compile_of_ok p.compiled]

end Pattern

namespace Rules

theorem lengthOf?_ofNat {length : Nat} (h : length < 0x10000000000000000) :
    lengthOf? (Number.ofNat length) = some length := by
  rw [Number.ofNat, dif_pos h, lengthOf?]
  simp

section Read

variable {path keyword : String} {object : Json}

theorem readText_of_member? {text : Option String} (h : object.member? keyword = text.map .string) :
    readText path keyword object = .ok text := by
  rw [readText, h]
  cases text <;> rfl

theorem readLength_of_member? {length : Option Nat} (h : object.member? keyword = length.map .ofNat)
    (hl : ∀ n, length = some n → n < 0x10000000000000000) : readLength path keyword object = .ok length := by
  rw [readLength, h]
  cases length with
  | none => rfl
  | some n =>
    simp only [Option.map_some, Json.ofNat]
    rw [lengthOf?_ofNat (hl n rfl)]

theorem readBound_of_member? {inclusive exclusive : String} {bound : Option Bound}
    (hi : object.member? inclusive = limitValue? false bound)
    (he : object.member? exclusive = limitValue? true bound) :
    readBound path inclusive exclusive object = .ok bound := by
  rw [readBound, hi, he]
  rcases bound with _ | ⟨limit, _ | _⟩ <;> rfl

theorem beq_flag {found : Option Json} {on : Bool} (h : found = if on then some (.bool true) else none) :
    (found == some (.bool true)) = on := by
  rw [h]
  cases on <;> rfl

end Read

end Rules

namespace Node

/-- The rules of a node in normal form are read from what shows it. -/
theorem Shows.readFrom {node : Node} {members : List (String × Json)} (h : node.Shows members)
    (hn : node.NormalHere) (path : String) : node.rules.ReadFrom path (.object members) where
  kind := by
    refine ⟨false, ?_, ?_⟩
    · rw [Rules.readKind, Json.member?, h.type]
      cases hk : node.rules.kind with
      | none => rfl
      | some kind =>
        dsimp only [Option.map_some]
        rw [hn.kind kind hk]
    · rw [Bool.false_or]
      exact (Rules.beq_flag h.nullable).symm
  format := by
    refine ⟨node.rules.format.map Format.name, ?_, ?_⟩
    · refine Rules.readText_of_member? ?_
      rw [Json.member?, h.format, Option.map_map]
      rfl
    · cases hf : node.rules.format with
      | none => rfl
      | some format => exact congrArg some (hn.format format hf).symm
  pattern := by
    have hs : Rules.readText path "pattern" (.object members) = .ok (node.rules.pattern.map Pattern.source) := by
      refine Rules.readText_of_member? ?_
      rw [Json.member?, h.pattern, Option.map_map]
      rfl
    rw [Rules.readPattern, hs]
    cases node.rules.pattern with
    | none => rfl
    | some p =>
      show (Pattern.enforced? p.source).mapError _ = _
      rw [Pattern.enforced?_source]
      rfl
  allowed := by
    rw [Rules.readAllowed, Json.member?, h.allowed]
    cases node.rules.allowed <;> rfl
  minLength := Rules.readLength_of_member? h.minLength hn.minLength
  maxLength := Rules.readLength_of_member? h.maxLength hn.maxLength
  minimum := Rules.readBound_of_member? h.minimum h.exclusiveMinimum
  maximum := Rules.readBound_of_member? h.maximum h.exclusiveMaximum
  required := by
    rw [Rules.readRequired, Json.member?, h.required]
    cases hr : node.rules.required with
    | nil => rfl
    | cons name rest => exact Rules.readTexts_map_string _ _ _ (name :: rest)
  description := by
    rw [Json.member?, h.description]
    cases node.rules.description <;> rfl
  deprecated := (Rules.beq_flag h.deprecated).symm

theorem compileAt_object {path : String} {members : List (String × Json)} {rules : Rules}
    {properties : List (String × Node)} {items : Option Node} {additional : Additional Node}
    (href : members.lookup "$ref" = none) (hr : rules.ReadFrom path (.object members))
    (hp : compileProperties path members = .ok properties) (hi : compileItems path members = .ok items)
    (ha : compileAdditional path members = .ok additional) :
    compileAt path (.object members) = .ok (schema rules properties items additional
      (compileBranches path .allOf members ++ compileBranches path .anyOf members
        ++ compileBranches path .oneOf members ++ compileNot path members)) := by
  have hnone : reference? path (.object members) = .ok none := by
    rw [reference?, Json.member?, href]
  rw [compileAt]
  simp only [hnone, Rules.read_eq_ok_iff.2 hr, hp, hi, ha]
  rfl

/-! ## Part by part -/

def ReadsBack (node : Node) : Prop := ∀ path, compileAt path node.toJson = .ok node

theorem compileEach_propertiesToJson {properties : List (String × Node)}
    (h : ∀ p ∈ properties, p.2.ReadsBack) (path : String) :
    compileEach path (propertiesToJson properties) = .ok properties := by
  induction properties with
  | nil => rfl
  | cons entry rest ih =>
    obtain ⟨name, node⟩ := entry
    rw [propertiesToJson, compileEach, h (name, node) (List.mem_cons_self ..),
      ih fun p hp => h p (List.mem_cons_of_mem _ hp)]
    rfl

theorem compileValid_nodesToJson {branches : List Node} (h : ∀ b ∈ branches, b.ReadsBack) (path : String)
    (i : Nat) : compileValid path i (nodesToJson branches) = branches := by
  induction branches generalizing i with
  | nil => rfl
  | cons node rest ih =>
    rw [nodesToJson, compileValid, h node (List.mem_cons_self ..)]
    exact congrArg (node :: ·) (ih (fun b hb => h b (List.mem_cons_of_mem _ hb)) (i + 1))

section Parts

variable {node : Node} {members : List (String × Json)}

theorem Shows.compileProperties (h : node.Shows members) (hp : ∀ p ∈ node.properties, p.2.ReadsBack)
    (path : String) : compileProperties path members = .ok node.properties := by
  rw [compileProperties_eq, h.properties]
  cases hn : node.properties with
  | nil => rfl
  | cons entry rest => exact compileEach_propertiesToJson (hn ▸ hp) _

theorem Shows.compileItems (h : node.Shows members) (hi : ∀ child, node.items = some child → child.ReadsBack)
    (path : String) : compileItems path members = .ok node.items := by
  rw [compileItems_eq, h.items]
  cases hn : node.items with
  | none => rfl
  | some child =>
    obtain ⟨inner, hj⟩ := child.exists_toJson_eq
    have hc := hi child hn (Pointer.child path "items")
    rw [hj] at hc
    simp only [Option.map_some, Option.elim_some, hj, hc]
    rfl

theorem Shows.compileAdditional (h : node.Shows members)
    (ha : ∀ child, node.additional = .constrained child → child.ReadsBack) (path : String) :
    compileAdditional path members = .ok node.additional := by
  rw [compileAdditional_eq, h.additional]
  cases hn : node.additional with
  | «open» => rfl
  | forbidden => rfl
  | constrained child =>
    obtain ⟨inner, hj⟩ := child.exists_toJson_eq
    have hc := ha child hn (Pointer.child path "additionalProperties")
    rw [hj] at hc
    simp only [additionalValue?, Option.elim_some, hj, hc]
    rfl

theorem Shows.compileBranches (h : node.Shows members)
    (hb : ∀ c ∈ node.combinations, ∀ b ∈ c.2, b.ReadsBack) {c : Combinator} (hc : c ≠ .not) (path : String) :
    compileBranches path c members =
      (node.combinations.lookup c).elim [] fun branches => [(c, branches)] := by
  rw [compileBranches_eq, h.combinations]
  cases hl : node.combinations.lookup c with
  | none => rfl
  | some branches =>
    have hread := compileValid_nodesToJson (hb _ (Names.mem_of_lookup hl)) (Pointer.child path c.keyword) 0
    have hwrite : c.write (nodesToJson branches) = .array (nodesToJson branches) := by
      cases c <;> first | rfl | exact absurd rfl hc
    simp only [Option.map_some, Option.elim_some, hwrite, hread]

theorem Shows.compileNot (h : node.Shows members) (hn : node.NormalHere)
    (hb : ∀ c ∈ node.combinations, ∀ b ∈ c.2, b.ReadsBack) (path : String) :
    compileNot path members =
      (node.combinations.lookup .not).elim [] fun branches => [(.not, branches)] := by
  rw [compileNot_eq]
  have hm := h.combinations .not
  dsimp only [Combinator.keyword] at hm
  rw [hm]
  cases hl : node.combinations.lookup .not with
  | none => rfl
  | some branches =>
    have hmem := Names.mem_of_lookup hl
    have hone := hn.single branches hmem
    match branches, hone with
    | [], _ => rfl
    | [branch], _ =>
      have hc := hb _ hmem branch (List.mem_singleton_self _) (Pointer.child path "not")
      simp only [Option.map_some, Option.elim_some, nodesToJson, Combinator.write, hc]

end Parts

theorem Shows.combinations_eq {node : Node} {members : List (String × Json)} (h : node.Shows members)
    (hn : node.NormalHere) (hb : ∀ c ∈ node.combinations, ∀ b ∈ c.2, b.ReadsBack) (path : String) :
    Node.compileBranches path .allOf members ++ Node.compileBranches path .anyOf members
        ++ Node.compileBranches path .oneOf members ++ Node.compileNot path members
      = node.combinations := by
  rw [h.compileBranches hb (by decide), h.compileBranches hb (by decide), h.compileBranches hb (by decide),
    h.compileNot hn hb]
  refine Eq.trans ?_ (flatMap_lookup_of_sublist (by decide) hn.order)
  simp only [List.flatMap_cons, List.flatMap_nil, List.append_nil, List.append_assoc]

theorem readsBack_of_everywhere {node : Node} (h : node.Everywhere NormalHere) : node.ReadsBack := by
  induction h with
  | @intro node hn _ ih =>
    intro path
    cases node with
    | reference target =>
      rw [toJson, compileAt]
      rfl
    | schema rules properties items additional combinations =>
      obtain ⟨members, hj, hs⟩ := shows_toJson rules properties items additional combinations
      have hb : ∀ c ∈ combinations, ∀ b ∈ c.2, b.ReadsBack := fun c hc b hb => ih b (.branch hc hb)
      rw [hj, compileAt_object hs.ref (hs.readFrom hn path)
        (hs.compileProperties (fun p hp => ih p.2 (.property hp)) path)
        (hs.compileItems (fun child hi => ih child (.items hi)) path)
        (hs.compileAdditional (fun child ha => ih child (.additional ha)) path), hs.combinations_eq hn hb]
      rfl

/-- **A schema that was read, written and read again gives the same node.** The relation `same` looks for
allowed members by name, so there the schema must not have a name twice; equality needs nothing. -/
theorem compile_toJson {schema : Json} {node : Node} (h : compile schema = .ok node) :
    compile node.toJson = .ok node ∧ (schema.hasDistinctNames = true → node.same node = true) := by
  refine ⟨readsBack_of_everywhere (everywhere_normalHere h) "#", fun hd => ?_⟩
  exact same_refl (everywhere_namesHere h hd)

/-- A schema with what does not stay as it was: a union, an unknown format, a boolean for a property, a
reference with other keywords, and combinators with branches that are no schemas. -/
def unionSchema : Json :=
  .object [
    ("not", .string "no schema"),
    ("type", .array [.string "string", .string "null", .string "money"]),
    ("format", .string "unheard-of"),
    ("minimum", .number (.integer 3 (by decide))),
    ("exclusiveMinimum", .bool true),
    ("required", .array [.string "a", .string "a"]),
    ("properties", .object [("a", .bool false), ("b", .object [("$ref", .string "#"), ("type", .null)])]),
    ("anyOf", .array [.null, .object [("enum", .array [.object [("x", .null)]])]]),
    ("oneOf", .array [])]

def unionNode : Node :=
  schema
    { kind := some (.other "string|money"), nullable := true, format := some (Format.ofName "unheard-of")
      minimum := some ⟨.integer 3 (by decide), true⟩, required := ["a", "a"] }
    [("a", any), ("b", reference "#")] none .open
    [(.anyOf, [schema { allowed := some [.object [("x", .null)]] } [] none .open []]), (.oneOf, []), (.not, [])]

theorem compile_toJson_union :
    compile unionSchema = .ok unionNode ∧ unionSchema.hasDistinctNames = true ∧
      compile unionNode.toJson = .ok unionNode ∧ unionNode.same unionNode = true := by
  have h : compile unionSchema = .ok unionNode := by rfl
  have hd : unionSchema.hasDistinctNames = true := by decide
  exact ⟨h, hd, (compile_toJson h).1, (compile_toJson h).2 hd⟩

end Node

end Schemata

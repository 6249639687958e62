import Schemata.Proofs.Example.Absorb
import Schemata.Proofs.Example.Calls
import Schemata.Proofs.Schema.Fault

/-!
# An `allOf` inside an `allOf`

* `Node.exampleAt_tidy` : an example does not show an unknown kind, nor an `allOf` without branches;
* `Node.tidy_merge` : what a node is merged to, for an `allOf` with any branches or none;
* `Node.tidy_merge_ofAllOf` : a branch that is nothing but an `allOf` is merged as its branches are in its place;
* `Node.compileAt_eq_map_withCombinations` : two objects that agree in all other keywords are read alike, but for what
  they combine;
* `Node.compileValid_nested`, `Node.compileCombinations_nested` : how the branches of a nested `allOf` are read;
* `Node.toExample_of_nested_allOf` : so nesting an `allOf` does not show in an example.
-/

namespace Schemata

namespace Node

/-! ## What an example does not show -/

section Tidy

variable (options : ExampleOptions) (depth : Nat) (node : Node)

theorem effectiveKind?_tidy : node.tidy.effectiveKind? = node.effectiveKind? := by
  cases node with
  | reference target => rfl
  | schema rules properties items additional combinations =>
    obtain ⟨kind⟩ := rules
    cases kind with
    | none => rfl
    | some kind => cases kind <;> rfl

theorem firstAlternative?_tidy : node.tidy.firstAlternative? = node.firstAlternative? := by
  cases node with
  | reference target => rfl
  | schema rules properties items additional combinations =>
    rw [tidy, firstAlternative?, firstAlternative?]
    dsimp only [Node.combinations]
    induction combinations with
    | nil => rfl
    | cons c rest ih =>
      obtain ⟨combinator, branches⟩ := c
      rw [List.findSome?_cons, ← ih]
      cases combinator <;> cases branches <;> rfl

theorem exampleOfKind_tidy : node.tidy.exampleOfKind options depth = node.exampleOfKind options depth := by
  unfold exampleOfKind
  rw [effectiveKind?_tidy, firstAlternative?_tidy]
  cases node <;> rfl

variable {node}

theorem exampleAt_tidy (h : node.merged? = none) : exampleAt options depth node.tidy = exampleAt options depth node := by
  cases node with
  | reference target => rfl
  | schema rules properties items additional combinations =>
    have hnone : (schema rules properties items additional combinations).tidy.merged? = none := by
      rw [merged?_eq_none_iff] at h ⊢
      exact fun branches hb => h branches (List.mem_filter.1 hb).1
    have hkind := exampleOfKind_tidy options depth (schema rules properties items additional combinations)
    rw [tidy] at hnone hkind ⊢
    rw [exampleAt_schema, exampleAt_schema, h, hnone, hkind]
    rfl

end Tidy

/-! ## Merging nested branches -/

/-- The schema that says nothing but that some schemas hold together. -/
def ofAllOf (branches : List Node) : Node := schema {} [] none .open [(.allOf, branches)]

section Merge

variable (rules : Rules) (properties : List (String × Node)) (items : Option Node) (additional : Additional Node)

theorem tidy_merge {others : List (Combinator × List Node)} (h : ∀ c ∈ others, c.1 ≠ .allOf) (branches : List Node) :
    (schema rules properties items additional ((.allOf, branches) :: others)).merge.tidy =
      ((branches.map merge).foldl absorb (schema rules properties items additional others)).tidy := by
  rw [merge_eq_foldl]
  cases branches with
  | nil =>
    have hjoins : ∀ c ∈ (Combinator.allOf, []) :: others, ¬ joins c = true :=
      List.forall_mem_cons.2 ⟨Bool.false_ne_true, fun c hc => Bool.eq_false_iff.1 (joins_of_ne (h c hc))⟩
    rw [allOfBranches, withoutAllOf]
    dsimp only [Node.combinations]
    rw [List.find?_eq_none.2 hjoins, List.eraseP_of_forall_not hjoins]
    rfl
  | cons branch rest => rfl

/-- To absorb what an `allOf` is merged to is to absorb its merged branches one after the other. -/
theorem tidy_absorb_merge_ofAllOf (target : Node) (branches : List Node) :
    (target.absorb (ofAllOf branches).merge).tidy = ((branches.map merge).foldl absorb target).tidy := by
  have hmerge : (ofAllOf branches).merge.tidy = ((branches.map merge).foldl absorb any).tidy :=
    tidy_merge {} [] none .open (List.forall_mem_nil _) branches
  have hany : ∀ name, any ≠ reference name := fun _ h => nomatch h
  calc (target.absorb (ofAllOf branches).merge).tidy
    _ = (target.absorb ((branches.map merge).foldl absorb any)).tidy := by rw [tidy_absorb, hmerge, ← tidy_absorb]
    _ = ((branches.map merge).foldl absorb (target.absorb any)).tidy := by rw [foldl_absorb hany]
    _ = ((branches.map merge).foldl absorb target).tidy := by
      rw [tidy_foldl_absorb, tidy_absorb_any, ← tidy_foldl_absorb]

theorem tidy_merge_ofAllOf {others : List (Combinator × List Node)} (h : ∀ c ∈ others, c.1 ≠ .allOf)
    (before branches after : List Node) :
    (schema rules properties items additional ((.allOf, before ++ ofAllOf branches :: after) :: others)).merge.tidy =
      (schema rules properties items additional ((.allOf, before ++ branches ++ after) :: others)).merge.tidy := by
  rw [tidy_merge _ _ _ _ h, tidy_merge _ _ _ _ h]
  simp only [List.map_append, List.map_cons, List.foldl_append, List.foldl_cons]
  rw [tidy_foldl_absorb, tidy_absorb_merge_ofAllOf, ← tidy_foldl_absorb]

end Merge

theorem exampleAt_eq_of_tidy_merge {node other : Node} (hn : node.Everywhere InOrder) (ho : other.Everywhere InOrder)
    (h : node.merge.tidy = other.merge.tidy) (options : ExampleOptions) (depth : Nat) :
    exampleAt options depth node = exampleAt options depth other :=
  calc exampleAt options depth node
    _ = exampleAt options depth node.merge := (exampleAt_merge ..).symm
    _ = exampleAt options depth node.merge.tidy := (exampleAt_tidy options depth (merged?_merge hn)).symm
    _ = exampleAt options depth other.merge.tidy := by rw [h]
    _ = exampleAt options depth other.merge := exampleAt_tidy options depth (merged?_merge ho)
    _ = exampleAt options depth other := exampleAt_merge ..

/-! ## Reading a schema with another `allOf` -/

/-- The node with other combinations; a reference has none. -/
def withCombinations (combinations : List (Combinator × List Node)) : Node → Node
  | reference target => reference target
  | schema rules properties items additional _ => schema rules properties items additional combinations

section Reading

variable {path : String} {members members' : List (String × Json)}

/-- Of two objects that agree in all other keywords, one is read as the other one is, with what it combines itself. -/
theorem compileAt_eq_map_withCombinations
    (h : ∀ keyword ∈ "$ref" :: (Rules.keywords ++ partKeywords), members'.lookup keyword = members.lookup keyword) :
    compileAt path (.object members') =
      (compileAt path (.object members)).map (withCombinations (compileCombinations path members')) := by
  have href : reference? path (.object members') = reference? path (.object members) := by
    rw [reference?, reference?, Json.member?, Json.member?, h "$ref" (by decide)]
  have hrules : Rules.read path (.object members') = Rules.read path (.object members) :=
    Rules.read_congr (.of_agree fun keyword hk => h keyword (List.mem_cons_of_mem _ (List.mem_append_left _ hk)))
  have hproperties : compileProperties path members' = compileProperties path members :=
    compileProperties_congr (h "properties" (by decide))
  have hitems : compileItems path members' = compileItems path members := compileItems_congr (h "items" (by decide))
  have hadditional : compileAdditional path members' = compileAdditional path members :=
    compileAdditional_congr (h "additionalProperties" (by decide))
  rw [compileAt, compileAt]
  simp only [href, hrules, hproperties, hitems, hadditional]
  -- The same steps fail alike, so that the map may go to the last one.
  change _ = withCombinations _ <$> _
  rw [map_bind]
  refine bind_congr fun ref => ?_
  cases ref with
  | some target => rfl
  | none =>
    simp only [map_bind]
    rfl

theorem compileAt_allOf (path : String) (branches : List Json) :
    compileAt path (.object [("allOf", .array branches)]) =
      .ok (ofAllOf (compileValid (Pointer.child path "allOf") 0 branches)) := rfl

theorem compileValid_nested {before branches after : List Json}
    (h : (Json.array (before ++ .object [("allOf", .array branches)] :: after)).hasDistinctNames = true) (path : String) :
    ∃ first nested last,
      compileValid path 0 (before ++ .object [("allOf", .array branches)] :: after) = first ++ ofAllOf nested :: last ∧
        compileValid path 0 (before ++ branches ++ after) = first ++ nested ++ last := by
  let Reads (value : Json) : Prop := Outcome value fun path => compileAt path value
  have hpart {value : Json}
      (hp : (Json.array (before ++ .object [("allOf", .array branches)] :: after)).HasPart value) : Reads value :=
    outcome_compileAt value (hp.hasDistinctNames h)
  have hvalues : ∀ value ∈ before ++ .object [("allOf", .array branches)] :: after, Reads value :=
    fun value hv => hpart (.item hv)
  obtain ⟨hbefore, hrest⟩ := List.forall_mem_append.1 hvalues
  obtain ⟨-, hafter⟩ := List.forall_mem_cons.1 hrest
  have hbranches : ∀ value ∈ branches, Reads value := by
    intro value hv
    have hinner : (Json.object [("allOf", .array branches)]).HasPart value :=
      .trans (.member (List.mem_singleton_self _)) (.item hv)
    exact hpart (.trans (.item (List.mem_append_right _ (List.mem_cons_self ..))) hinner)
  let read (values : List Json) : List Node := values.filterMap fun value => (compile value).toOption
  refine ⟨read before, read branches, read after, ?_, ?_⟩
  · rw [compileValid_eq_filterMap hvalues, List.filterMap_append, List.filterMap_cons, compile, compileAt_allOf,
      compileValid_eq_filterMap hbranches]
    rfl
  · have hspliced : ∀ value ∈ before ++ branches ++ after, Reads value :=
      List.forall_mem_append.2 ⟨List.forall_mem_append.2 ⟨hbefore, hbranches⟩, hafter⟩
    rw [compileValid_eq_filterMap hspliced, List.filterMap_append, List.filterMap_append]

/-- What an object combines apart from an `allOf`. -/
def otherCombinations (path : String) (members : List (String × Json)) : List (Combinator × List Node) :=
  compileBranches path .anyOf members ++ compileBranches path .oneOf members ++ compileNot path members

theorem ne_allOf_of_mem_otherCombinations {c : Combinator × List Node} (h : c ∈ otherCombinations path members) :
    c.1 ≠ .allOf := by
  have hkeys : ((otherCombinations path members).map Prod.fst).Sublist [.anyOf, .oneOf, .not] := by
    rw [otherCombinations, List.map_append, List.map_append]
    exact ((keys_compileBranches _ .anyOf _).append (keys_compileBranches _ .oneOf _)).append (keys_compileNot _ _)
  intro heq
  have hmem := hkeys.subset (List.mem_map_of_mem h)
  rw [heq] at hmem
  exact absurd hmem (by decide)

theorem compileCombinations_of_allOf {values : List Json} (hl : members'.lookup "allOf" = some (.array values))
    (h : ∀ keyword, keyword ≠ "allOf" → members'.lookup keyword = members.lookup keyword) :
    compileCombinations path members' =
      (.allOf, compileValid (Pointer.child path "allOf") 0 values) :: otherCombinations path members := by
  have hall : members'.lookup Combinator.allOf.keyword = some (.array values) := hl
  unfold compileCombinations otherCombinations
  rw [compileBranches_eq, compileBranches_eq, compileBranches_eq, compileNot_eq, hall,
    h Combinator.anyOf.keyword (by decide), h Combinator.oneOf.keyword (by decide), h "not" (by decide),
    ← compileBranches_eq, ← compileBranches_eq, ← compileNot_eq]
  rfl

/-- What an object combines before and after the branches of a nested `allOf` are put in its place. -/
theorem compileCombinations_nested (path : String) (hd : (Json.object members).hasDistinctNames = true)
    {before branches after : List Json}
    (hl : members.lookup "allOf" = some (.array (before ++ .object [("allOf", .array branches)] :: after))) :
    ∃ first nested last,
      compileCombinations path members =
          (.allOf, first ++ ofAllOf nested :: last) :: otherCombinations path members ∧
        compileCombinations path (Json.setMember "allOf" (.array (before ++ branches ++ after)) members) =
          (.allOf, first ++ nested ++ last) :: otherCombinations path members := by
  obtain ⟨first, nested, last, hnested, hspliced⟩ :=
    compileValid_nested ((Json.HasPart.of_lookup hl).hasDistinctNames hd) (Pointer.child path "allOf")
  refine ⟨first, nested, last, ?_, ?_⟩
  · rw [compileCombinations_of_allOf hl fun _ _ => rfl, hnested]
  · rw [compileCombinations_of_allOf Json.lookup_setMember_self fun _ => Json.lookup_setMember_of_ne, hspliced]

end Reading

/-- **Nesting an `allOf` does not show in an example.** Wherever an `allOf` has an element that is nothing but an `allOf`
itself, the branches of the inner one may stand in place of the element: whatever they are, and whether they are schemas
at all, both schemas have the same example, or fail with the same error. -/
theorem toExample_of_nested_allOf {members : List (String × Json)} (hd : (Json.object members).hasDistinctNames = true)
    {before branches after : List Json}
    (hl : members.lookup "allOf" = some (.array (before ++ .object [("allOf", .array branches)] :: after)))
    (path : String) (options : ExampleOptions) :
    (compileAt path (.object members)).map (fun node => node.toExample options) =
      (compileAt path (.object (Json.setMember "allOf" (.array (before ++ branches ++ after)) members))).map
        fun node => node.toExample options := by
  obtain ⟨first, nested, last, hnested, hspliced⟩ := compileCombinations_nested path hd hl
  let members' := Json.setMember "allOf" (.array (before ++ branches ++ after)) members
  have hread : compileAt path (.object members') =
      (compileAt path (.object members)).map (withCombinations (compileCombinations path members')) :=
    compileAt_eq_map_withCombinations fun keyword hk =>
      Json.lookup_setMember_of_ne fun heq => absurd (heq ▸ hk) (by decide)
  cases hc : compileAt path (.object members) with
  | error e =>
    rw [hc] at hread
    rw [hread]
    rfl
  | ok node =>
    rw [hc] at hread
    rw [hread]
    refine congrArg Except.ok ?_
    refine exampleAt_eq_of_tidy_merge (everywhere_inOrder hc) (everywhere_inOrder hread) ?_ options 0
    rcases compileAt_object_eq_ok hc with ⟨target, -, rfl⟩ | ⟨-, -, -, -, -, hnode⟩
    · rfl
    · cases node with
      | reference target => rfl
      | schema rules properties items additional combinations =>
        obtain rfl : combinations = compileCombinations path members := hnode
        rw [withCombinations, hnested, hspliced]
        exact tidy_merge_ofAllOf _ _ _ _ (fun _ => ne_allOf_of_mem_otherCombinations) first nested last

def nestedBefore : List Json := [.object [("required", .array [.string "open"])]]

/-- Branches that say something again, that are no schema, and that have alternatives. -/
def nestedBranches : List Json := [
  .object [
    ("required", .array [.string "open", .string "name"]),
    ("properties", .object [
      ("name", .object [("type", .string "integer")]),
      ("open", .object [("type", .string "boolean")])])],
  .object [("type", .null)],
  .object [("anyOf", .array [.object [("type", .string "array")]])]]

def nestedAfter : List Json := [.object [("allOf", .array [])]]

/-- A schema with a property and with some branches. -/
def nestedMembers (branches : List Json) : List (String × Json) := [
  ("properties", .object [("name", .object [("type", .string "string")])]),
  ("allOf", .array branches)]

def nestedExample : Json := .object [("name", .string "string"), ("open", .bool true)]

theorem toExample_of_nested_allOf_open :
    let members := nestedMembers (nestedBefore ++ .object [("allOf", .array nestedBranches)] :: nestedAfter)
    let spliced := Json.setMember "allOf" (.array (nestedBefore ++ nestedBranches ++ nestedAfter)) members
    (Json.object members).hasDistinctNames = true ∧
      (compile (.object members)).map (fun node => node.toExample {}) = .ok nestedExample ∧
      (compile (.object spliced)).map (fun node => node.toExample {}) = .ok nestedExample := by
  intro members spliced
  have hd : (Json.object members).hasDistinctNames = true := by decide
  have hl : members.lookup "allOf" =
      some (.array (nestedBefore ++ .object [("allOf", .array nestedBranches)] :: nestedAfter)) := rfl
  have hexample : (compile (.object members)).map (fun node => node.toExample {}) = .ok nestedExample := by
    simp only [toExample_eq_iterate]
    rfl
  exact ⟨hd, hexample, (toExample_of_nested_allOf hd hl "#" {}).symm.trans hexample⟩

end Node

end Schemata

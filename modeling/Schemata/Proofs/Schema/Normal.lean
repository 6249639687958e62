import Schemata.Proofs.Schema.Compile

/-!
# The normal form of what is read

* `Kind.ofTag_tag`, `Format.ofName_name` : names can be read back;
* `Node.NormalHere` : kinds and formats are read back from their names, lengths are 64-bit words,
  combinators stand in their order and `not` has at most one branch;
* `Node.NamesHere` : no property is declared twice, and allowed values have distinct names;
* `Node.everywhere_normalHere`, `Node.everywhere_namesHere` : all that is read is so.
-/

namespace Schemata

/-! ## Names of kinds and formats -/

namespace Kind

theorem tag_ofTag (tag : String) : (ofTag tag).tag = tag := by
  unfold ofTag
  split <;> rfl

theorem ofTag_eq_other {tag : String} (h : '|' ∈ tag.toList) : ofTag tag = other tag := by
  unfold ofTag
  split
  case h_8 => rfl
  all_goals exact absurd h (by decide)

end Kind

theorem Format.name_ofName (name : String) : (Format.ofName name).name = name := by
  unfold Format.ofName
  split <;> rfl

/-! ## Rules -/

namespace Rules

variable {path keyword : String} {object : Json}

theorem ofTag_tag_of_kindOfTags {tags : List String} {kind : Kind} (h : (kindOfTags tags).1 = some kind) :
    Kind.ofTag kind.tag = kind := by
  unfold kindOfTags at h
  dsimp only at h
  split at h
  · split at h
    · cases h
      rfl
    · cases h
  · cases h
    rw [Kind.tag_ofTag]
  · next first second =>
    obtain rfl := Option.some.inj h
    refine Kind.ofTag_eq_other ?_
    -- There are at least two tags, so the bar between them occurs.
    cases hs : tags.filter (· ≠ "null") with
    | nil => exact absurd hs first
    | cons a rest =>
      cases rest with
      | nil => exact absurd hs (second a)
      | cons b rest =>
        dsimp only [Kind.tag]
        rw [String.intercalate_cons_cons, String.toList_append, String.toList_append]
        exact List.mem_append_left _ (List.mem_append_right _ (List.mem_singleton_self _))

theorem ofTag_tag_of_readKind {kind : Kind} {named : Bool}
    (h : readKind path object = .ok (some kind, named)) : Kind.ofTag kind.tag = kind := by
  unfold readKind at h
  split at h
  · cases h
  · cases h
    rw [Kind.tag_ofTag]
  · obtain ⟨tags, -, h⟩ := bind_eq_ok.1 h
    exact ofTag_tag_of_kindOfTags (congrArg Prod.fst (pure_eq_ok.1 h))
  · cases h

theorem lengthOf?_lt {n : Number} {length : Nat} (h : lengthOf? n = some length) :
    length < 0x10000000000000000 := by
  unfold lengthOf? at h
  split at h
  · next i range =>
    split at h
    · cases h
      omega
    · cases h
  · dsimp only at h
    split at h
    · cases h
      exact Nat.lt_of_le_of_lt (Nat.min_le_right _ _) (by decide)
    · cases h

theorem readLength_lt {length : Nat} (h : readLength path keyword object = .ok (some length)) :
    length < 0x10000000000000000 := by
  unfold readLength at h
  split at h
  · cases h
  · split at h
    · next hl =>
      cases h
      exact lengthOf?_lt hl
    · cases h
  · cases h

end Rules

/-! ## Nodes -/

namespace Node

/-- What a node that was read looks like, its parts apart. -/
structure NormalHere (node : Node) : Prop where
  kind : ∀ kind, node.rules.kind = some kind → Kind.ofTag kind.tag = kind
  format : ∀ format, node.rules.format = some format → Format.ofName format.name = format
  minLength : ∀ length, node.rules.minLength = some length → length < 0x10000000000000000
  maxLength : ∀ length, node.rules.maxLength = some length → length < 0x10000000000000000
  order : (node.combinations.map Prod.fst).Sublist [.allOf, .anyOf, .oneOf, .not]
  single : ∀ branches, (Combinator.not, branches) ∈ node.combinations → branches.length ≤ 1

theorem normalHere_of_rules_eq {node : Node} (hr : node.rules = {}) (hc : node.combinations = []) :
    node.NormalHere := by
  refine ⟨?_, ?_, ?_, ?_, by simp [hc], by simp [hc]⟩
  all_goals
    rw [hr]
    exact nofun

theorem keys_compileBranches (path : String) (combinator : Combinator) (members : List (String × Json)) :
    ((compileBranches path combinator members).map Prod.fst).Sublist [combinator] := by
  rw [compileBranches_eq]
  cases members.lookup combinator.keyword with
  | none => exact List.nil_sublist _
  | some value =>
    cases value with
    | array branches => exact List.Sublist.refl _
    | _ => exact List.nil_sublist _

theorem keys_compileNot (path : String) (members : List (String × Json)) :
    ((compileNot path members).map Prod.fst).Sublist [.not] := by
  rw [compileNot_eq]
  cases members.lookup "not" with
  | none => exact List.nil_sublist _
  | some value =>
    dsimp only [Option.elim]
    split <;> exact List.Sublist.refl _

theorem length_le_one_of_mem_compileNot {path : String} {members : List (String × Json)}
    {c : Combinator × List Node} (h : c ∈ compileNot path members) : c.2.length ≤ 1 := by
  rw [compileNot_eq] at h
  cases hl : members.lookup "not" with
  | none =>
    rw [hl] at h
    cases h
  | some value =>
    rw [hl] at h
    dsimp only [Option.elim] at h
    split at h <;> obtain rfl := List.mem_singleton.1 h <;> simp

theorem not_mem_compileBranches {path : String} {combinator other : Combinator} (hne : other ≠ combinator)
    {members : List (String × Json)} {branches : List Node} :
    (other, branches) ∉ compileBranches path combinator members := by
  intro h
  have hk := (keys_compileBranches path combinator members).subset (List.mem_map.2 ⟨_, h, rfl⟩)
  exact hne (List.mem_singleton.1 hk)

theorem normalHere_of_compileAt {path : String} {value : Json} {node : Node}
    (h : compileAt path value = .ok node) : node.NormalHere := by
  cases value with
  | object members =>
    rcases compileAt_object_eq_ok h with ⟨target, -, rfl⟩ | ⟨-, hr, -, -, -, hcomb⟩
    · exact normalHere_of_rules_eq rfl rfl
    · refine ⟨?_, ?_, ?_, ?_, ?_, ?_⟩
      · intro kind hk
        obtain ⟨named, hread, -⟩ := hr.kind
        rw [hk] at hread
        exact Rules.ofTag_tag_of_readKind hread
      · intro format hf
        obtain ⟨name, -, hformat⟩ := hr.format
        obtain ⟨text, -, rfl⟩ := Option.map_eq_some_iff.1 (hformat.symm.trans hf)
        rw [Format.name_ofName]
      · intro length hl
        exact Rules.readLength_lt (hl ▸ hr.minLength)
      · intro length hl
        exact Rules.readLength_lt (hl ▸ hr.maxLength)
      · rw [hcomb, List.map_append, List.map_append, List.map_append]
        exact (((keys_compileBranches _ .allOf _).append (keys_compileBranches _ .anyOf _)).append
          (keys_compileBranches _ .oneOf _)).append (keys_compileNot _ _)
      · intro branches hb
        rw [hcomb] at hb
        simp only [List.mem_append] at hb
        rcases hb with ((hb | hb) | hb) | hb
        · exact absurd hb (not_mem_compileBranches (by decide))
        · exact absurd hb (not_mem_compileBranches (by decide))
        · exact absurd hb (not_mem_compileBranches (by decide))
        · exact length_le_one_of_mem_compileNot hb
  | bool b =>
    rw [compileAt] at h
    cases h
    exact normalHere_of_rules_eq rfl rfl
  | _ =>
    simp only [compileAt] at h
    cases h

theorem everywhere_normalHere {path : String} {value : Json} {node : Node}
    (h : compileAt path value = .ok node) : node.Everywhere NormalHere :=
  everywhere_of_compileAt (Q := fun _ => True) (fun _ _ => trivial)
    (fun h _ => normalHere_of_compileAt h) h trivial

/-! ## Names -/

/-- No property is declared twice, and the allowed values have distinct names. -/
structure NamesHere (node : Node) : Prop where
  properties : (node.properties.map Prod.fst).Nodup
  allowed : ∀ values, node.rules.allowed = some values → ∀ value ∈ values, value.hasDistinctNames = true

theorem keys_compileEach {path : String} {values : List (String × Json)} {properties : List (String × Node)}
    (h : compileEach path values = .ok properties) : properties.map Prod.fst = values.map Prod.fst := by
  induction values generalizing properties with
  | nil =>
    cases h
    rfl
  | cons entry rest ih =>
    obtain ⟨name, value⟩ := entry
    rw [compileEach] at h
    simp only [bind_eq_ok, pure_eq_ok] at h
    obtain ⟨node, -, nodes, hnodes, rfl⟩ := h
    rw [List.map_cons, List.map_cons, ih hnodes]

theorem nodup_of_compileProperties {path : String} {members : List (String × Json)}
    {properties : List (String × Node)} (h : compileProperties path members = .ok properties)
    (hd : (Json.object members).hasDistinctNames = true) : (properties.map Prod.fst).Nodup := by
  rw [compileProperties_eq] at h
  cases hl : members.lookup "properties" with
  | none =>
    rw [hl] at h
    cases h
    exact List.nodup_nil
  | some value =>
    rw [hl] at h
    cases value with
    | object values =>
      have hvalues := (Json.HasPart.of_lookup hl).hasDistinctNames hd
      rw [keys_compileEach h]
      exact (Json.hasDistinctNames_object.1 hvalues).1
    | _ => cases h

theorem namesHere_of_rules_eq {node : Node} (hr : node.rules = {}) (hp : node.properties = []) :
    node.NamesHere := by
  refine ⟨?_, fun values ha => ?_⟩
  · rw [hp]
    exact List.nodup_nil
  · rw [hr] at ha
    cases ha

theorem namesHere_of_compileAt {path : String} {value : Json} {node : Node}
    (h : compileAt path value = .ok node) (hd : value.hasDistinctNames = true) : node.NamesHere := by
  cases value with
  | object members =>
    rcases compileAt_object_eq_ok h with ⟨target, -, rfl⟩ | ⟨-, hr, hp, -, -, -⟩
    · exact namesHere_of_rules_eq rfl rfl
    · refine ⟨nodup_of_compileProperties hp hd, ?_⟩
      intro values ha allowed hm
      have hread := hr.allowed
      unfold Rules.readAllowed at hread
      rw [ha, Json.member?] at hread
      split at hread
      · cases hread
      · next hl =>
        cases hread
        exact ((Json.HasPart.of_lookup hl).trans (.item hm)).hasDistinctNames hd
      · cases hread
  | bool b =>
    rw [compileAt] at h
    cases h
    exact namesHere_of_rules_eq rfl rfl
  | _ =>
    simp only [compileAt] at h
    cases h

theorem everywhere_namesHere {path : String} {value : Json} {node : Node}
    (h : compileAt path value = .ok node) (hd : value.hasDistinctNames = true) : node.Everywhere NamesHere :=
  everywhere_of_compileAt (Q := fun value => value.hasDistinctNames = true)
    (fun hp hd => hp.hasDistinctNames hd) namesHere_of_compileAt h hd

end Node

end Schemata

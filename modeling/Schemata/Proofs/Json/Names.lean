import Schemata.Json.Equality

/-!
# Names of members

* `Names.mem_of_lookup`, `Names.lookup_of_mem` : to find a member is to have it, if the names are distinct;
* `Names.lookup_perm` : what is found does not depend on the order then;
* `Names.lookup_filter_ne` : what is found does not depend on entries of another name;
* `Names.lookup_eq_none_iff`, `Names.nodup_concat` : nothing is found under a new name, and it may be added;
* `Names.lookup_unless`, `Names.lookup_toList` : what is found in an entry that may be left out;
* `Json.hasDistinctNames` : no object in a value has a name twice;
* `Json.HasPart` : what lies inside a value is smaller and has distinct names if the value has;
* `Json.same_refl` : a value with distinct names is the same as itself.
-/

namespace Schemata

/-! ## Finding by name -/

namespace Names

variable {κ α : Type} [BEq κ] [LawfulBEq κ] {entries : List (κ × α)} {name : κ} {a : α}

theorem lookup_cons [DecidableEq κ] (entry : κ × α) (rest : List (κ × α)) (name : κ) :
    (entry :: rest).lookup name = if name = entry.1 then some entry.2 else rest.lookup name := by
  rw [List.lookup_cons]
  by_cases h : name = entry.1
  · rw [if_pos h, beq_iff_eq.2 h]
  · rw [if_neg h, beq_eq_false_iff_ne.2 h]

theorem mem_of_lookup (h : entries.lookup name = some a) : (name, a) ∈ entries := by
  obtain ⟨front, rest, rfl, -⟩ := List.lookup_eq_some_iff.1 h
  exact List.mem_append_right _ (List.mem_cons_self ..)

theorem lookup_of_mem (hd : (entries.map Prod.fst).Nodup) (h : (name, a) ∈ entries) :
    entries.lookup name = some a := by
  induction entries with
  | nil => cases h
  | cons entry rest ih =>
    obtain ⟨k, b⟩ := entry
    obtain ⟨hk, hd⟩ := List.nodup_cons.1 hd
    rcases List.mem_cons.1 h with heq | hmem
    · cases heq
      exact List.lookup_cons_self
    · have hne : name ≠ k := by
        rintro rfl
        exact hk (List.mem_map.2 ⟨(name, a), hmem, rfl⟩)
      rw [List.lookup_cons, beq_eq_false_iff_ne.2 hne]
      exact ih hd hmem

theorem lookup_perm {entries' : List (κ × α)} (hd : (entries.map Prod.fst).Nodup) (h : entries.Perm entries')
    (name : κ) : entries'.lookup name = entries.lookup name := by
  have hd' : (entries'.map Prod.fst).Nodup := (h.map Prod.fst).nodup_iff.1 hd
  refine Option.ext fun a => ⟨fun hl => ?_, fun hl => ?_⟩
  · exact lookup_of_mem hd (h.mem_iff.2 (mem_of_lookup hl))
  · exact lookup_of_mem hd' (h.mem_iff.1 (mem_of_lookup hl))

/-- What is left out hides nothing else. -/
theorem lookup_filter_ne [DecidableEq κ] {other : κ} (h : other ≠ name) :
    (entries.filter fun entry => entry.1 ≠ name).lookup other = entries.lookup other := by
  induction entries with
  | nil => rfl
  | cons entry rest ih =>
    rw [lookup_cons, List.filter_cons]
    by_cases hk : entry.1 = name
    · rw [if_neg (by simpa using hk), if_neg (hk ▸ h), ih]
    · rw [if_pos (by simpa using hk), lookup_cons, ih]

theorem lookup_eq_none_iff : entries.lookup name = none ↔ name ∉ entries.map Prod.fst := by
  rw [List.lookup_eq_none_iff, List.mem_map]
  constructor
  · rintro h ⟨entry, hentry, rfl⟩
    exact absurd (h entry hentry) (by simp)
  · intro h entry hentry
    exact bne_iff_ne.2 fun heq => h ⟨entry, hentry, heq.symm⟩

section Optional

variable {κ α : Type}

theorem nodup_concat {entries : List (κ × α)} {name : κ} (hd : (entries.map Prod.fst).Nodup)
    (h : name ∉ entries.map Prod.fst) (a : α) : ((entries ++ [(name, a)]).map Prod.fst).Nodup := by
  rw [List.map_append, List.nodup_append]
  refine ⟨hd, List.pairwise_singleton _ _, ?_⟩
  intro other hother last hlast
  obtain rfl : last = name := List.mem_singleton.1 hlast
  exact fun heq => h (heq ▸ hother)

theorem lookup_single (key name : String) (a : α) :
    [(key, a)].lookup name = if name = key then some a else none :=
  lookup_cons (key, a) [] name

theorem lookup_unless (absent : Prop) [Decidable absent] (key name : String) (a : α) :
    (if absent then [] else [(key, a)]).lookup name =
      if name = key then (if absent then none else some a) else none := by
  by_cases h : absent
  · rw [if_pos h, if_pos h, List.lookup_nil, ite_self]
  · rw [if_neg h, if_neg h, lookup_single]

theorem lookup_toList (key name : String) (found : Option α) :
    (found.map fun a => (key, a)).toList.lookup name = if name = key then found else none := by
  cases found with
  | none => exact (ite_self none).symm
  | some a => exact lookup_single key name a

theorem keys_unless (absent : Prop) [Decidable absent] (key : κ) (a : α) :
    ((if absent then [] else [(key, a)]).map Prod.fst).Sublist [key] := by
  by_cases h : absent
  · rw [if_pos h]
    exact List.nil_sublist _
  · rw [if_neg h]
    exact List.Sublist.refl _

theorem keys_toList (key : κ) (found : Option α) :
    ((found.map fun a => (key, a)).toList.map Prod.fst).Sublist [key] := by
  cases found with
  | none => exact List.nil_sublist _
  | some a => exact List.Sublist.refl _

end Optional

end Names

theorem Number.same_refl (n : Number) : n.same n = true := by
  cases n <;> simp [Number.same]

namespace Json

mutual

/-- No object in the value has a name twice. -/
def hasDistinctNames : Json → Bool
  | .array items => itemsHaveDistinctNames items
  | .object members => decide (members.map Prod.fst).Nodup && membersHaveDistinctNames members
  | .null | .bool _ | .number _ | .string _ => true

def itemsHaveDistinctNames : List Json → Bool
  | [] => true
  | value :: rest => hasDistinctNames value && itemsHaveDistinctNames rest

def membersHaveDistinctNames : List (String × Json) → Bool
  | [] => true
  | (_, value) :: rest => hasDistinctNames value && membersHaveDistinctNames rest

end

theorem itemsHaveDistinctNames_iff {items : List Json} :
    itemsHaveDistinctNames items = true ↔ ∀ value ∈ items, value.hasDistinctNames = true := by
  induction items with
  | nil => simp [itemsHaveDistinctNames]
  | cons value rest ih => simp [itemsHaveDistinctNames, ih]

theorem membersHaveDistinctNames_iff {members : List (String × Json)} :
    membersHaveDistinctNames members = true ↔ ∀ m ∈ members, m.2.hasDistinctNames = true := by
  induction members with
  | nil => simp [membersHaveDistinctNames]
  | cons entry rest ih => simp [membersHaveDistinctNames, ih]

theorem hasDistinctNames_array {items : List Json} :
    (array items).hasDistinctNames = true ↔ ∀ value ∈ items, value.hasDistinctNames = true := by
  rw [hasDistinctNames, itemsHaveDistinctNames_iff]

theorem hasDistinctNames_object {members : List (String × Json)} :
    (object members).hasDistinctNames = true ↔
      (members.map Prod.fst).Nodup ∧ ∀ m ∈ members, m.2.hasDistinctNames = true := by
  rw [hasDistinctNames, Bool.and_eq_true, decide_eq_true_iff, membersHaveDistinctNames_iff]

/-! ## Parts -/

/-- A value lies inside another one. -/
inductive HasPart : Json → Json → Prop
  | member {members m} (h : m ∈ members) : HasPart (.object members) m.2
  | item {items value} (h : value ∈ items) : HasPart (.array items) value
  | trans {a b c} (hab : HasPart a b) (hbc : HasPart b c) : HasPart a c

theorem HasPart.of_lookup {members : List (String × Json)} {name : String} {value : Json}
    (h : members.lookup name = some value) : HasPart (.object members) value :=
  .member (Names.mem_of_lookup h)

theorem HasPart.sizeOf_lt {whole part : Json} (h : whole.HasPart part) : sizeOf part < sizeOf whole := by
  induction h with
  | @member members m h =>
    have hm := List.sizeOf_lt_of_mem h
    have hs : sizeOf m = 1 + sizeOf m.1 + sizeOf m.2 := Prod.mk.sizeOf_spec m.1 m.2
    rw [Json.object.sizeOf_spec]
    omega
  | item h =>
    have hi := List.sizeOf_lt_of_mem h
    rw [Json.array.sizeOf_spec]
    omega
  | trans _ _ hab hbc => exact Nat.lt_trans hbc hab

theorem HasPart.hasDistinctNames {whole part : Json} (h : whole.HasPart part)
    (hd : whole.hasDistinctNames = true) : part.hasDistinctNames = true := by
  induction h with
  | member h => exact (hasDistinctNames_object.1 hd).2 _ h
  | item h => exact hasDistinctNames_array.1 hd _ h
  | trans _ _ hab hbc => exact hbc (hab hd)

/-! ## Sameness -/

variable {eqv : Number → Number → Bool}

mutual

theorem equalBy_refl (heqv : ∀ n, eqv n n = true) : ∀ {value : Json}, value.hasDistinctNames = true →
    value.equalBy eqv value = true
  | .null, _ => rfl
  | .bool _, _ => by simp [equalBy]
  | .number n, _ => heqv n
  | .string _, _ => by simp [equalBy]
  | .array items, h => by
    rw [hasDistinctNames] at h
    rw [equalBy]
    exact equalItemsBy_refl heqv h
  | .object members, h => by
    obtain ⟨hd, -⟩ := hasDistinctNames_object.1 h
    rw [hasDistinctNames, Bool.and_eq_true] at h
    rw [equalBy, Bool.and_eq_true]
    exact ⟨by simp, coversBy_of_lookup heqv h.2 fun m hm => Names.lookup_of_mem hd hm⟩

theorem equalItemsBy_refl (heqv : ∀ n, eqv n n = true) : ∀ {items : List Json},
    itemsHaveDistinctNames items = true → equalItemsBy eqv items items = true
  | [], _ => rfl
  | value :: rest, h => by
    rw [itemsHaveDistinctNames, Bool.and_eq_true] at h
    rw [equalItemsBy, Bool.and_eq_true]
    exact ⟨equalBy_refl heqv h.1, equalItemsBy_refl heqv h.2⟩

theorem coversBy_of_lookup (heqv : ∀ n, eqv n n = true) {others : List (String × Json)} :
    ∀ {members : List (String × Json)}, membersHaveDistinctNames members = true →
      (∀ m ∈ members, others.lookup m.1 = some m.2) → coversBy eqv members others = true
  | [], _, _ => rfl
  | (name, value) :: rest, h, hl => by
    rw [membersHaveDistinctNames, Bool.and_eq_true] at h
    have hfound : others.lookup name = some value := hl (name, value) (List.mem_cons_self ..)
    rw [coversBy, hfound, Bool.and_eq_true]
    exact ⟨equalBy_refl heqv h.1,
      coversBy_of_lookup heqv h.2 fun m hm => hl m (List.mem_cons_of_mem _ hm)⟩

end

theorem same_refl {value : Json} (h : value.hasDistinctNames = true) : value.same value = true :=
  equalBy_refl Number.same_refl h

end Json

end Schemata

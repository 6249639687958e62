import Mathlib.Logic.Relation
import Schemata.Proofs.Json.Edit

/-!
# Members in another order

* `Json.Reorders` : one object, anywhere in a value, has its members in another order;
* `Json.Reordered` : so have any number of them;
* `Json.coversBy_eq_all` : whether a list of members covers another one depends on what is found in it by name;
* `Json.Reorders.equalBy_eq` : hence no value is equal to one of them and not to the other;
* `Json.Reordered.hasDistinctNames` : distinct names stay distinct.
-/

namespace Schemata.Json

/-- The members of one object, anywhere in the value, are in another order. -/
inductive Reorders : Json → Json → Prop
  | here {members members'} (h : members.Perm members') : Reorders (.object members) (.object members')
  | member {members name old new} (there : members.lookup name = some old) (h : Reorders old new) :
      Reorders (.object members) (.object (setMember name new members))
  | item {items i old new} (there : items[i]? = some old) (h : Reorders old new) :
      Reorders (.array items) (.array (items.set i new))

/-- The values differ in nothing but the order of members, in any number of objects. -/
abbrev Reordered : Json → Json → Prop := Relation.ReflTransGen Reorders

variable {value value' : Json}

/-! ## Distinct names -/

theorem Reorders.hasDistinctNames (h : Reorders value value') (hd : value.hasDistinctNames = true) :
    value'.hasDistinctNames = true := by
  induction h with
  | here h =>
    obtain ⟨hnames, hmembers⟩ := hasDistinctNames_object.1 hd
    refine hasDistinctNames_object.2 ⟨(h.map Prod.fst).nodup_iff.1 hnames, ?_⟩
    intro m hm
    exact hmembers m (h.mem_iff.2 hm)
  | member there _ ih => exact hasDistinctNames_setMember hd there ih
  | item there _ ih => exact hasDistinctNames_set hd there ih

theorem Reordered.hasDistinctNames (h : Reordered value value') (hd : value.hasDistinctNames = true) :
    value'.hasDistinctNames = true := by
  induction h with
  | refl => exact hd
  | tail _ hlast ih => exact hlast.hasDistinctNames ih

/-! ## Equality -/

variable {eqv : Number → Number → Bool}

theorem coversBy_eq_all (members others : List (String × Json)) :
    coversBy eqv members others = members.all fun m => (others.lookup m.1).any fun other => m.2.equalBy eqv other := by
  induction members with
  | nil => rfl
  | cons entry rest ih =>
    obtain ⟨name, value⟩ := entry
    rw [coversBy, List.all_cons, ih]
    congr 1
    cases others.lookup name <;> rfl

theorem length_setMember {members : List (String × Json)} {name : String} {old new : Json}
    (hd : (members.map Prod.fst).Nodup) (there : members.lookup name = some old) :
    (setMember name new members).length = members.length := by
  have hkeys : (setMember name new members).map Prod.fst = members.map Prod.fst :=
    keys_setMember hd (mem_keys_of_lookup there)
  simpa using congrArg List.length hkeys

/-- An item may be replaced by one that is equal to the same values. -/
theorem equalItemsBy_set {items : List Json} {i : Nat} {old new : Json} (there : items[i]? = some old)
    (h : ∀ a : Json, a.equalBy eqv new = a.equalBy eqv old) (others : List Json) :
    equalItemsBy eqv others (items.set i new) = equalItemsBy eqv others items := by
  induction items generalizing i others with
  | nil => cases there
  | cons first rest ih =>
    cases others with
    | nil => cases i <;> rfl
    | cons other others =>
      cases i with
      | zero =>
        obtain rfl := Option.some.inj there
        rw [List.set_cons_zero, equalItemsBy, equalItemsBy, h]
      | succ i => rw [List.set_cons_succ, equalItemsBy, equalItemsBy, ih there]

/-- No value is equal to the one and not to the other. -/
theorem Reorders.equalBy_eq (h : Reorders value value') (hd : value.hasDistinctNames = true) (a : Json) :
    a.equalBy eqv value' = a.equalBy eqv value := by
  induction h generalizing a with
  | @here members members' h =>
    have hnames := (hasDistinctNames_object.1 hd).1
    cases a with
    | object others =>
      rw [equalBy, equalBy, h.length_eq, coversBy_eq_all, coversBy_eq_all]
      simp only [Names.lookup_perm hnames h]
    | _ => rfl
  | @member members name old new there h ih =>
    have hnames := (hasDistinctNames_object.1 hd).1
    have hnew : ∀ a : Json, a.equalBy eqv new = a.equalBy eqv old :=
      ih ((HasPart.of_lookup there).hasDistinctNames hd)
    cases a with
    | object others =>
      rw [equalBy, equalBy, length_setMember hnames there, coversBy_eq_all, coversBy_eq_all]
      congr 2
      funext m
      rw [lookup_setMember]
      by_cases hm : m.1 = name
      · rw [if_pos hm, hm, there, Option.any_some, Option.any_some, hnew]
      · rw [if_neg hm]
    | _ => rfl
  | @item items i old new there h ih =>
    have hold : old.hasDistinctNames = true := hasDistinctNames_array.1 hd old (List.mem_of_getElem? there)
    cases a with
    | array others =>
      rw [equalBy, equalBy]
      exact equalItemsBy_set there (ih hold) others
    | _ => rfl

end Schemata.Json

import Mathlib.Data.List.Sort
import Mathlib.Data.String.Basic
import Schemata.Proofs.Json.Equality

/-!
# Values with their members in one order

* `Json.sorted` : a value with the members of every object sorted by name;
* `Json.sortByName_eq_of_perm` : distinct names can be sorted in one way only;
* `Json.Reordered.symm`, `Json.Reordered.array`, `Json.Reordered.object` : a reordering can be undone, and any number of
  parts may be reordered;
* `Json.reordered_sorted` : sorting is a reordering;
* `Json.sorted_eq_of_equal` : values of integers that are equal are the same once they are sorted;
* `Json.equal_iff_sorted_eq` : so equality of such values ignores the order of members, and nothing else.
-/

namespace Schemata

namespace Json

/-! ## Sorting -/

def sortByName (members : List (String × Json)) : List (String × Json) :=
  members.insertionSort fun m n => m.1 ≤ n.1

mutual

def sorted : Json → Json
  | .array items => .array (sortedItems items)
  | .object members => .object (sortByName (sortedMembers members))
  | .null => .null
  | .bool b => .bool b
  | .number n => .number n
  | .string s => .string s

def sortedItems : List Json → List Json
  | [] => []
  | value :: rest => value.sorted :: sortedItems rest

def sortedMembers : List (String × Json) → List (String × Json)
  | [] => []
  | (name, value) :: rest => (name, value.sorted) :: sortedMembers rest

end

theorem sorted_array (items : List Json) : (array items).sorted = array (items.map sorted) := by
  rw [sorted]
  induction items with
  | nil => rfl
  | cons value rest ih => rw [sortedItems, array.inj ih, List.map_cons]

theorem sortedMembers_eq_map (members : List (String × Json)) :
    sortedMembers members = members.map fun m => (m.1, m.2.sorted) := by
  induction members with
  | nil => rfl
  | cons entry rest ih => rw [sortedMembers, ih, List.map_cons]

theorem sorted_object (members : List (String × Json)) :
    (object members).sorted = object (sortByName (members.map fun m => (m.1, m.2.sorted))) := by
  rw [sorted, sortedMembers_eq_map]

theorem sortByName_perm (members : List (String × Json)) : (sortByName members).Perm members :=
  List.perm_insertionSort _ members

theorem pairwise_sortByName (members : List (String × Json)) :
    (sortByName members).Pairwise fun m n => m.1 ≤ n.1 := by
  have htotal : Std.Total fun m n : String × Json => m.1 ≤ n.1 := ⟨fun m n => le_total m.1 n.1⟩
  have htrans : IsTrans (String × Json) fun m n => m.1 ≤ n.1 := ⟨fun _ _ _ => le_trans⟩
  exact List.pairwise_insertionSort _ members

/-- Distinct names can be sorted in one way only. -/
theorem sortByName_eq_of_perm {members others : List (String × Json)} (hd : (members.map Prod.fst).Nodup)
    (h : members.Perm others) : sortByName members = sortByName others := by
  have hsame : (sortByName members).Perm (sortByName others) :=
    ((sortByName_perm members).trans h).trans (sortByName_perm others).symm
  refine hsame.eq_of_pairwise (fun m n hm hn hle hge => ?_) (pairwise_sortByName _) (pairwise_sortByName _)
  have hm : m ∈ members := (sortByName_perm members).mem_iff.1 hm
  have hn : n ∈ members := h.mem_iff.2 ((sortByName_perm others).mem_iff.1 hn)
  exact List.inj_on_of_nodup_map hd hm hn (le_antisymm hle hge)

/-! ## Reordering in many places -/

variable {a b : Json}

theorem setMember_of_lookup {members : List (String × Json)} {name : String} {value : Json}
    (h : members.lookup name = some value) : setMember name value members = members := by
  induction members with
  | nil => cases h
  | cons entry rest ih =>
    obtain ⟨key, first⟩ := entry
    rw [Names.lookup_cons] at h
    rw [setMember]
    by_cases hk : key = name
    · rw [if_pos hk.symm] at h
      obtain rfl : first = value := Option.some.inj h
      rw [if_pos hk]
    · rw [if_neg (Ne.symm hk)] at h
      rw [if_neg hk, ih h]

theorem Reorders.symm (h : Reorders a b) : Reorders b a := by
  induction h with
  | here h => exact .here h.symm
  | @member members name old new there _ ih =>
    have hthere : (setMember name new members).lookup name = some new := lookup_setMember_self
    have hback := Reorders.member hthere ih
    rwa [setMember_setMember, setMember_of_lookup there] at hback
  | @item items i old new there _ ih =>
    obtain ⟨hi, hold⟩ := List.getElem?_eq_some_iff.1 there
    have hback := Reorders.item (List.getElem?_set_self hi) ih
    rwa [List.set_set, ← hold, List.set_getElem_self] at hback

theorem Reordered.symm (h : Reordered a b) : Reordered b a := by
  induction h with
  | refl => exact .refl
  | tail _ hlast ih => exact .head hlast.symm ih

/-- Where a step may be made inside a value, so may any number of them. -/
theorem Reordered.lift {f : Json → Json} (hf : ∀ {old new}, Reorders old new → Reorders (f old) (f new))
    (h : Reordered a b) : Reordered (f a) (f b) := by
  induction h with
  | refl => exact .refl
  | tail _ hlast ih => exact ih.tail (hf hlast)

/-- The items of an array may each be reordered; those in front are done. -/
theorem Reordered.array {items others : List Json} (h : List.Forall₂ Reordered items others) (front : List Json) :
    Reordered (.array (front ++ items)) (.array (front ++ others)) := by
  induction h generalizing front with
  | nil => exact .refl
  | @cons old new rest rest' hfirst _ ih =>
    have hone : Reordered (.array (front ++ old :: rest)) (.array (front ++ new :: rest)) := by
      refine hfirst.lift (f := fun value => .array (front ++ value :: rest)) fun {value value'} hstep => ?_
      have hthere : (front ++ value :: rest)[front.length]? = some value := by simp
      have hitem := Reorders.item hthere hstep
      rwa [List.set_append_right _ _ (Nat.le_refl _), Nat.sub_self, List.set_cons_zero] at hitem
    have hrest := ih (front ++ [new])
    rw [List.append_assoc, List.append_assoc, List.singleton_append, List.singleton_append] at hrest
    exact hone.trans hrest

theorem lookup_append_cons {front rest : List (String × Json)} {name : String} (hd : name ∉ front.map Prod.fst)
    (value : Json) : (front ++ (name, value) :: rest).lookup name = some value := by
  rw [List.lookup_append, Names.lookup_eq_none_iff.2 hd, Option.none_or, List.lookup_cons_self]

theorem setMember_append_cons {front rest : List (String × Json)} {name : String} (hd : name ∉ front.map Prod.fst)
    (old new : Json) :
    setMember name new (front ++ (name, old) :: rest) = front ++ (name, new) :: rest := by
  induction front with
  | nil => rw [List.nil_append, setMember, if_pos rfl, List.nil_append]
  | cons entry front ih =>
    rw [List.map_cons, List.mem_cons, not_or] at hd
    rw [List.cons_append, setMember, if_neg (Ne.symm hd.1), ih hd.2, List.cons_append]

theorem Reordered.object {f : Json → Json} {members : List (String × Json)} (front : List (String × Json))
    (hd : ((front ++ members).map Prod.fst).Nodup) (h : ∀ m ∈ members, Reordered m.2 (f m.2)) :
    Reordered (.object (front ++ members)) (.object (front ++ members.map fun m => (m.1, f m.2))) := by
  induction members generalizing front with
  | nil => exact .refl
  | cons entry rest ih =>
    obtain ⟨name, old⟩ := entry
    obtain ⟨hfirst, hrest⟩ := List.forall_mem_cons.1 h
    have hnew : name ∉ front.map Prod.fst := by
      rw [List.map_append, List.map_cons, List.nodup_append] at hd
      exact fun hm => hd.2.2 name hm name (List.mem_cons_self ..) rfl
    have hone : Reordered (.object (front ++ (name, old) :: rest)) (.object (front ++ (name, f old) :: rest)) := by
      refine hfirst.lift (f := fun value => .object (front ++ (name, value) :: rest)) fun {value value'} hstep => ?_
      have hthere : (front ++ (name, value) :: rest).lookup name = some value := lookup_append_cons hnew value
      have hmember := Reorders.member hthere hstep
      rwa [setMember_append_cons hnew] at hmember
    have hd' : (((front ++ [(name, f old)]) ++ rest).map Prod.fst).Nodup := by
      rw [List.append_assoc, List.singleton_append, List.map_append, List.map_cons]
      rwa [List.map_append, List.map_cons] at hd
    have hothers := ih (front ++ [(name, f old)]) hd' hrest
    rw [List.append_assoc, List.append_assoc, List.singleton_append, List.singleton_append] at hothers
    exact hone.trans hothers

theorem reordered_sorted (ha : a.hasDistinctNames = true) : Reordered a a.sorted := by
  induction a using HasPart.induction with
  | step a ih =>
    cases a with
    | array items =>
      rw [sorted_array]
      have hitems : List.Forall₂ Reordered items (items.map sorted) := by
        rw [List.forall₂_map_right_iff, List.forall₂_same]
        exact fun value hvalue => ih value (.item hvalue) (hasDistinctNames_array.1 ha value hvalue)
      exact .array hitems []
    | object members =>
      obtain ⟨hnames, hmembers⟩ := hasDistinctNames_object.1 ha
      rw [sorted_object]
      have hvalues : Reordered (.object members) (.object (members.map fun m => (m.1, m.2.sorted))) :=
        .object [] hnames fun m hm => ih m.2 (.member hm) (hmembers m hm)
      exact hvalues.tail (.here (sortByName_perm _).symm)
    | _ => exact .refl

theorem Reordered.equalBy_eq {eqv : Number → Number → Bool} {c : Json} (h : Reordered a b)
    (ha : a.hasDistinctNames = true) : c.equalBy eqv b = c.equalBy eqv a := by
  induction h with
  | refl => rfl
  | tail hfront hstep ih => exact (hstep.equalBy_eq (Reordered.hasDistinctNames hfront ha) c).trans ih

/-! ## Values of integers -/

def HasIntegersOnly (value : Json) : Prop := ∀ n ∈ value.numbers, n.isInteger = true

theorem HasIntegersOnly.part {whole part : Json} (h : whole.HasIntegersOnly) (hp : whole.HasPart part) :
    part.HasIntegersOnly :=
  fun n hn => h n (hp.mem_numbers hn)

/-- Values of integers that are equal are the same once they are sorted. -/
theorem sorted_eq_of_equal (ha : a.hasDistinctNames = true) (hia : a.HasIntegersOnly) (hib : b.HasIntegersOnly)
    (hequal : a.equal b = true) : a.sorted = b.sorted := by
  induction a using HasPart.induction generalizing b with
  | step a ih =>
    cases equalBy_iff_alike.1 hequal with
    | null => rfl
    | bool flag => rfl
    | string text => rfl
    | @number m n hmn =>
      have hm : m.isInteger = true := hia m (List.mem_singleton_self m)
      have hn : n.isInteger = true := hib n (List.mem_singleton_self n)
      rw [(Number.compare_eq_iff.1 (beq_iff_eq.1 hmn)).2 hm hn]
    | @array items others hlength h =>
      rw [sorted_array, sorted_array]
      refine congrArg Json.array (List.ext_getElem (by simpa using hlength) fun i hi hi' => ?_)
      rw [List.length_map] at hi hi'
      rw [List.getElem_map, List.getElem_map]
      have hitem : (Json.array items).HasPart items[i] := .item (List.getElem_mem hi)
      have hother : (Json.array others).HasPart others[i] := .item (List.getElem_mem hi')
      exact ih _ hitem (hitem.hasDistinctNames ha) (hia.part hitem) (hib.part hother) (h i hi hi')
    | @object members others hlength h =>
      obtain ⟨hnames, hmembers⟩ := hasDistinctNames_object.1 ha
      rw [sorted_object, sorted_object]
      have hd : ((members.map fun m => (m.1, m.2.sorted)).map Prod.fst).Nodup := by
        rw [List.map_map]
        exact hnames
      have hsub : (members.map fun m => (m.1, m.2.sorted)) ⊆ others.map fun m => (m.1, m.2.sorted) := by
        refine List.forall_mem_map.2 fun m hm => ?_
        obtain ⟨other, hother, hequal⟩ := h m hm
        have hvalue : m.2.sorted = other.sorted :=
          ih _ (.member hm) (hmembers m hm) (hia.part (.member hm)) (hib.part (.of_lookup hother)) hequal
        rw [hvalue]
        exact List.mem_map_of_mem (f := fun m => (m.1, m.2.sorted)) (Names.mem_of_lookup hother)
      have hperm := (List.subperm_of_subset hd.of_map hsub).perm_of_length_le (by simp [hlength])
      exact congrArg Json.object (sortByName_eq_of_perm hd hperm)

/-- **Equality of values of integers ignores the order of members, and nothing else.** Two such values are equal if and
only if they are the same once the members of every object are sorted by name, and if and only if one comes from the
other by putting members in another order. -/
theorem equal_iff_sorted_eq (ha : a.hasDistinctNames = true) (hb : b.hasDistinctNames = true)
    (hia : a.HasIntegersOnly) (hib : b.HasIntegersOnly) :
    (a.equal b = true ↔ a.sorted = b.sorted) ∧ (a.equal b = true ↔ Reordered a b) := by
  have hequal : a.equal b = true → a.sorted = b.sorted := sorted_eq_of_equal ha hia hib
  have hsorted : a.sorted = b.sorted → Reordered a b := by
    intro h
    exact (reordered_sorted ha).trans (h ▸ (reordered_sorted hb).symm)
  have hreordered : Reordered a b → a.equal b = true := by
    intro h
    exact (h.equalBy_eq ha).trans (equal_self ha)
  exact ⟨⟨hequal, hreordered ∘ hsorted⟩, ⟨hsorted ∘ hequal, hreordered⟩⟩

/-- A range of integers inside an array, from the least one on. -/
def rangeUpTo (greatest : Nat) : Json :=
  .object [
    ("ranges", .array [
      .object [("from", .number (.ofInt64 (-0x8000000000000000))), ("to", .number (.ofNat greatest))]]),
    ("closed", .bool true)]

/-- The same range, the members of both objects in the other order. -/
def rangeDownFrom (greatest : Nat) : Json :=
  .object [
    ("closed", .bool true),
    ("ranges", .array [
      .object [("to", .number (.ofNat greatest)), ("from", .number (.ofInt64 (-0x8000000000000000)))]])]

theorem equal_iff_sorted_eq_range :
    rangeUpTo 0xffffffffffffffff ≠ rangeDownFrom 0xffffffffffffffff ∧
      (rangeUpTo 0xffffffffffffffff).sorted = (rangeDownFrom 0xffffffffffffffff).sorted ∧
      Reordered (rangeUpTo 0xffffffffffffffff) (rangeDownFrom 0xffffffffffffffff) ∧
      (rangeUpTo 0xffffffffffffffff).sorted ≠ (rangeDownFrom 0xfffffffffffffffe).sorted := by
  have hd : (rangeUpTo 0xffffffffffffffff).hasDistinctNames = true := by decide
  have hi : (rangeUpTo 0xffffffffffffffff).HasIntegersOnly := by unfold HasIntegersOnly; decide
  have hd' : (rangeDownFrom 0xffffffffffffffff).hasDistinctNames = true := by decide
  have hi' : (rangeDownFrom 0xffffffffffffffff).HasIntegersOnly := by unfold HasIntegersOnly; decide
  have hless : (rangeDownFrom 0xfffffffffffffffe).hasDistinctNames = true := by decide
  have hiless : (rangeDownFrom 0xfffffffffffffffe).HasIntegersOnly := by unfold HasIntegersOnly; decide
  have hsame := equal_iff_sorted_eq hd hd' hi hi'
  have hother := equal_iff_sorted_eq hd hless hi hiless
  have hequal : (rangeUpTo 0xffffffffffffffff).equal (rangeDownFrom 0xffffffffffffffff) = true := by decide
  have hunequal : (rangeUpTo 0xffffffffffffffff).equal (rangeDownFrom 0xfffffffffffffffe) = false := by decide
  exact ⟨by decide, hsame.1.1 hequal, hsame.2.1 hequal, fun h => Bool.false_ne_true (hunequal ▸ hother.1.2 h)⟩

end Json

end Schemata

import Mathlib.Data.List.Perm.Subperm
import Schemata.Proofs.Json.Reorder
import Schemata.Proofs.Number.Equality

/-!
# Values of equal value

* `Json.numbers`, `Json.mapNumbers` : the numbers of a value, and other numbers in their place;
* `Json.Alike` : what two equal values have in common, one level deep;
* `Json.equalBy_symm` : equality is symmetric if it is for numbers, an object with as many names as another one and all
  its names among them having the same names;
* `Json.equalBy_trans` : it passes through a value if it passes through all its numbers;
* `Json.equalBy_mapNumbers_iff` : other numbers keep a value equal if they are equal;
* `Json.equal_self`, `Json.equal_comm`, `Json.equal_trans_iff` : with numbers by value, equality is reflexive and
  symmetric, and passes through exactly the values without a number that blurs.
-/

namespace Schemata

namespace Json

/-! ## The numbers of a value -/

mutual

def numbers : Json → List Number
  | .number n => [n]
  | .array items => itemNumbers items
  | .object members => memberNumbers members
  | .null | .bool _ | .string _ => []

def itemNumbers : List Json → List Number
  | [] => []
  | value :: rest => value.numbers ++ itemNumbers rest

def memberNumbers : List (String × Json) → List Number
  | [] => []
  | (_, value) :: rest => value.numbers ++ memberNumbers rest

end

mutual

/-- The value with other numbers in the same places. -/
def mapNumbers (f : Number → Number) : Json → Json
  | .number n => .number (f n)
  | .array items => .array (mapItemNumbers f items)
  | .object members => .object (mapMemberNumbers f members)
  | .null => .null
  | .bool b => .bool b
  | .string s => .string s

def mapItemNumbers (f : Number → Number) : List Json → List Json
  | [] => []
  | value :: rest => value.mapNumbers f :: mapItemNumbers f rest

def mapMemberNumbers (f : Number → Number) : List (String × Json) → List (String × Json)
  | [] => []
  | (name, value) :: rest => (name, value.mapNumbers f) :: mapMemberNumbers f rest

end

theorem mem_numbers_array {items : List Json} {n : Number} :
    n ∈ (array items).numbers ↔ ∃ value ∈ items, n ∈ value.numbers := by
  rw [numbers]
  induction items with
  | nil => simp [itemNumbers]
  | cons value rest ih => simp [itemNumbers, ih]

theorem mem_numbers_object {members : List (String × Json)} {n : Number} :
    n ∈ (object members).numbers ↔ ∃ m ∈ members, n ∈ m.2.numbers := by
  rw [numbers]
  induction members with
  | nil => simp [memberNumbers]
  | cons entry rest ih => simp [memberNumbers, ih]

theorem HasPart.mem_numbers {whole part : Json} {n : Number} (h : whole.HasPart part) (hn : n ∈ part.numbers) :
    n ∈ whole.numbers := by
  induction h with
  | member h => exact mem_numbers_object.2 ⟨_, h, hn⟩
  | item h => exact mem_numbers_array.2 ⟨_, h, hn⟩
  | trans _ _ hab hbc => exact hab (hbc hn)

theorem mapNumbers_array (f : Number → Number) (items : List Json) :
    (array items).mapNumbers f = array (items.map (mapNumbers f)) := by
  rw [mapNumbers]
  induction items with
  | nil => rfl
  | cons value rest ih => rw [mapItemNumbers, array.inj ih, List.map_cons]

theorem mapNumbers_object (f : Number → Number) (members : List (String × Json)) :
    (object members).mapNumbers f = object (members.map fun m => (m.1, m.2.mapNumbers f)) := by
  rw [mapNumbers]
  induction members with
  | nil => rfl
  | cons entry rest ih => rw [mapMemberNumbers, object.inj ih, List.map_cons]

@[elab_as_elim]
theorem HasPart.induction {motive : Json → Prop}
    (step : ∀ whole : Json, (∀ part, whole.HasPart part → motive part) → motive whole) (value : Json) :
    motive value :=
  (measure (sizeOf : Json → Nat)).wf.induction value fun whole ih => step whole fun part h => ih part h.sizeOf_lt

/-! ## Equal values, one level deep -/

variable {eqv : Number → Number → Bool} {a b c : Json}

/-- What equal values have in common: their kind, and equal parts in the same places. -/
inductive Alike (eqv : Number → Number → Bool) : Json → Json → Prop
  | null : Alike eqv .null .null
  | bool (flag) : Alike eqv (.bool flag) (.bool flag)
  | number {m n} (h : eqv m n = true) : Alike eqv (.number m) (.number n)
  | string (text) : Alike eqv (.string text) (.string text)
  | array {items others} (hlength : items.length = others.length)
      (h : ∀ (i : Nat) (hi : i < items.length) (hi' : i < others.length), items[i].equalBy eqv others[i] = true) :
      Alike eqv (.array items) (.array others)
  | object {members others} (hlength : members.length = others.length)
      (h : ∀ m ∈ members, ∃ other, others.lookup m.1 = some other ∧ m.2.equalBy eqv other = true) :
      Alike eqv (.object members) (.object others)

theorem equalItemsBy_iff {items others : List Json} :
    equalItemsBy eqv items others = true ↔ items.length = others.length ∧
      ∀ (i : Nat) (hi : i < items.length) (hi' : i < others.length), items[i].equalBy eqv others[i] = true := by
  induction items generalizing others with
  | nil => cases others <;> simp [equalItemsBy]
  | cons value rest ih =>
    cases others with
    | nil => simp [equalItemsBy]
    | cons other others =>
      rw [equalItemsBy, Bool.and_eq_true, ih]
      constructor
      · rintro ⟨hfirst, hlength, hrest⟩
        refine ⟨congrArg Nat.succ hlength, fun i hi hi' => ?_⟩
        cases i with
        | zero => exact hfirst
        | succ i => exact hrest i (Nat.lt_of_succ_lt_succ hi) (Nat.lt_of_succ_lt_succ hi')
      · rintro ⟨hlength, h⟩
        refine ⟨h 0 (Nat.succ_pos _) (Nat.succ_pos _), Nat.succ.inj hlength, fun i hi hi' => ?_⟩
        exact h (i + 1) (Nat.succ_lt_succ hi) (Nat.succ_lt_succ hi')

theorem coversBy_iff {members others : List (String × Json)} :
    coversBy eqv members others = true ↔
      ∀ m ∈ members, ∃ other, others.lookup m.1 = some other ∧ m.2.equalBy eqv other = true := by
  rw [coversBy_eq_all, List.all_eq_true]
  simp only [Option.any_eq_true]

theorem equalBy_iff_alike : a.equalBy eqv b = true ↔ Alike eqv a b := by
  constructor
  · intro h
    cases a <;> cases b <;> first | (cases h; done) | skip
    case null.null => exact .null
    case bool.bool x y => exact eq_of_beq h ▸ .bool x
    case number.number => exact .number h
    case string.string x y => exact eq_of_beq h ▸ .string x
    case array.array =>
      obtain ⟨hlength, hitems⟩ := equalItemsBy_iff.1 h
      exact .array hlength hitems
    case object.object =>
      rw [equalBy, Bool.and_eq_true, beq_iff_eq] at h
      exact .object h.1 (coversBy_iff.1 h.2)
  · rintro (_ | x | h | s | ⟨hlength, h⟩ | ⟨hlength, h⟩)
    · rfl
    · exact beq_self_eq_true x
    · exact h
    · exact beq_self_eq_true s
    · rw [equalBy]
      exact equalItemsBy_iff.2 ⟨hlength, h⟩
    · rw [equalBy, Bool.and_eq_true, beq_iff_eq]
      exact ⟨hlength, coversBy_iff.2 h⟩

/-! ## Symmetry -/

/-- An object that has all names of another one of its length has no further names. -/
theorem exists_mem_of_names {members others : List (String × Json)} (hd : (members.map Prod.fst).Nodup)
    (hlength : members.length = others.length) (h : ∀ m ∈ members, ∃ other, others.lookup m.1 = some other)
    {entry : String × Json} (hentry : entry ∈ others) : ∃ value, (entry.1, value) ∈ members := by
  have hsub : members.map Prod.fst ⊆ others.map Prod.fst := by
    intro name hname
    obtain ⟨m, hm, rfl⟩ := List.mem_map.1 hname
    obtain ⟨other, hother⟩ := h m hm
    exact List.mem_map.2 ⟨(m.1, other), Names.mem_of_lookup hother, rfl⟩
  have hperm : (members.map Prod.fst).Perm (others.map Prod.fst) :=
    (List.subperm_of_subset hd hsub).perm_of_length_le (by rw [List.length_map, List.length_map, hlength])
  obtain ⟨m, hm, hname⟩ := List.mem_map.1 (hperm.mem_iff.2 (List.mem_map_of_mem hentry))
  exact ⟨m.2, hname ▸ hm⟩

theorem equalBy_symm (heqv : ∀ m n, eqv m n = true → eqv n m = true) (ha : a.hasDistinctNames = true)
    (hb : b.hasDistinctNames = true) (h : a.equalBy eqv b = true) : b.equalBy eqv a = true := by
  induction a using HasPart.induction generalizing b with
  | step a ih =>
    rw [equalBy_iff_alike] at h ⊢
    cases h with
    | null => exact .null
    | bool flag => exact .bool flag
    | number h => exact .number (heqv _ _ h)
    | string text => exact .string text
    | array hlength h =>
      refine .array hlength.symm fun i hi hi' => ?_
      have hitem := hasDistinctNames_array.1 ha _ (List.getElem_mem hi')
      have hother := hasDistinctNames_array.1 hb _ (List.getElem_mem hi)
      exact ih _ (.item (List.getElem_mem hi')) hitem hother (h i hi' hi)
    | @object members others hlength h =>
      obtain ⟨hnames, hmembers⟩ := hasDistinctNames_object.1 ha
      obtain ⟨hnames', hothers⟩ := hasDistinctNames_object.1 hb
      refine .object hlength.symm fun entry hentry => ?_
      have hfound : ∀ m ∈ members, ∃ other, others.lookup m.1 = some other := fun m hm =>
        (h m hm).imp fun _ hother => hother.1
      obtain ⟨value, hvalue⟩ := exists_mem_of_names hnames hlength hfound hentry
      obtain ⟨other, hother, hequal⟩ := h _ hvalue
      obtain rfl : entry.2 = other :=
        Option.some.inj ((Names.lookup_of_mem hnames' (show (entry.1, entry.2) ∈ others from hentry)).symm.trans hother)
      refine ⟨value, Names.lookup_of_mem hnames hvalue, ?_⟩
      exact ih _ (.member hvalue) (hmembers _ hvalue) (hothers _ hentry) hequal

/-! ## Transitivity -/

/-- Equality passes through a value if it passes through all its numbers. -/
theorem equalBy_trans (heqv : ∀ n ∈ b.numbers, ∀ m k, eqv m n = true → eqv n k = true → eqv m k = true)
    (hab : a.equalBy eqv b = true) (hbc : b.equalBy eqv c = true) : a.equalBy eqv c = true := by
  induction b using HasPart.induction generalizing a c with
  | step b ih =>
    have hpart : ∀ part, b.HasPart part → ∀ {a c : Json}, a.equalBy eqv part = true → part.equalBy eqv c = true →
        a.equalBy eqv c = true := fun part h => ih part h fun n hn => heqv n (h.mem_numbers hn)
    rw [equalBy_iff_alike] at hab hbc ⊢
    cases hab with
    | null => exact hbc
    | bool flag => exact hbc
    | string text => exact hbc
    | number hmn =>
      cases hbc with
      | number hnk => exact .number (heqv _ (List.mem_singleton_self _) _ _ hmn hnk)
    | array hlength h =>
      cases hbc with
      | array hlength' h' =>
        refine .array (hlength.trans hlength') fun i hi hi' => ?_
        have hmid := hlength ▸ hi
        exact hpart _ (.item (List.getElem_mem hmid)) (h i hi hmid) (h' i hmid hi')
    | object hlength h =>
      cases hbc with
      | object hlength' h' =>
        refine .object (hlength.trans hlength') fun m hm => ?_
        obtain ⟨other, hother, hequal⟩ := h m hm
        obtain ⟨last, hlast, hequal'⟩ := h' _ (Names.mem_of_lookup hother)
        exact ⟨last, hlast, hpart _ (.of_lookup hother) hequal hequal'⟩

/-! ## Other numbers in the same places -/

theorem keys_mapNumbers (f : Number → Number) (members : List (String × Json)) :
    (members.map fun m => (m.1, m.2.mapNumbers f)).map Prod.fst = members.map Prod.fst := by
  rw [List.map_map]
  rfl

theorem hasDistinctNames_mapNumbers (f : Number → Number) (hb : b.hasDistinctNames = true) :
    (b.mapNumbers f).hasDistinctNames = true := by
  induction b using HasPart.induction with
  | step b ih =>
    cases b with
    | array items =>
      rw [mapNumbers_array, hasDistinctNames_array]
      intro value hvalue
      obtain ⟨item, hitem, rfl⟩ := List.mem_map.1 hvalue
      exact ih item (.item hitem) (hasDistinctNames_array.1 hb item hitem)
    | object members =>
      obtain ⟨hnames, hmembers⟩ := hasDistinctNames_object.1 hb
      rw [mapNumbers_object, hasDistinctNames_object, keys_mapNumbers]
      refine ⟨hnames, fun m hm => ?_⟩
      obtain ⟨member, hmember, rfl⟩ := List.mem_map.1 hm
      exact ih member.2 (.member hmember) (hmembers member hmember)
    | _ => rfl

theorem mapNumbers_id (b : Json) : b.mapNumbers id = b := by
  induction b using HasPart.induction with
  | step b ih =>
    cases b with
    | array items =>
      rw [mapNumbers_array, List.map_congr_left fun value h => ih value (.item h), List.map_id']
    | object members =>
      have hsame : ∀ m ∈ members, (m.1, m.2.mapNumbers id) = m := fun m h => by rw [ih m.2 (.member h)]
      rw [mapNumbers_object, List.map_congr_left hsame, List.map_id']
    | _ => rfl

theorem equalItemsBy_map (f g : Json → Json) (items : List Json) :
    equalItemsBy eqv (items.map f) (items.map g) = true ↔ ∀ value ∈ items, (f value).equalBy eqv (g value) = true := by
  induction items with
  | nil => simp [equalItemsBy]
  | cons value rest ih => simp [equalItemsBy, ih]

theorem coversBy_map {f g : Json → Json} {members : List (String × Json)} (hd : (members.map Prod.fst).Nodup) :
    coversBy eqv (members.map fun m => (m.1, f m.2)) (members.map fun m => (m.1, g m.2)) = true ↔
      ∀ m ∈ members, (f m.2).equalBy eqv (g m.2) = true := by
  have hfound : ∀ m ∈ members, (members.map fun m => (m.1, g m.2)).lookup m.1 = some (g m.2) := by
    intro m hm
    refine Names.lookup_of_mem ?_ (List.mem_map_of_mem (f := fun m => (m.1, g m.2)) hm)
    rw [List.map_map]
    exact hd
  rw [coversBy_iff, List.forall_mem_map]
  refine forall₂_congr fun m hm => ?_
  simp only [hfound m hm, Option.some.injEq, exists_eq_left']

/-- A value stays equal to itself under other numbers if and only if they are equal number by number. -/
theorem equalBy_mapNumbers_iff {f g : Number → Number} (hb : b.hasDistinctNames = true) :
    (b.mapNumbers f).equalBy eqv (b.mapNumbers g) = true ↔ ∀ n ∈ b.numbers, eqv (f n) (g n) = true := by
  induction b using HasPart.induction with
  | step b ih =>
    cases b with
    | number n => exact (List.forall_mem_singleton (p := fun n => eqv (f n) (g n) = true)).symm
    | array items =>
      have hitems : ∀ value ∈ items, (value.mapNumbers f).equalBy eqv (value.mapNumbers g) = true ↔
          ∀ n ∈ value.numbers, eqv (f n) (g n) = true := fun value h =>
        ih value (.item h) (hasDistinctNames_array.1 hb value h)
      rw [mapNumbers_array, mapNumbers_array, equalBy, equalItemsBy_map, forall₂_congr hitems]
      simp only [mem_numbers_array, forall_exists_index, and_imp]
      exact ⟨fun h n value hv hn => h value hv n hn, fun h value hv n hn => h n value hv hn⟩
    | object members =>
      obtain ⟨hnames, hmembers⟩ := hasDistinctNames_object.1 hb
      have hvalues : ∀ m ∈ members, (m.2.mapNumbers f).equalBy eqv (m.2.mapNumbers g) = true ↔
          ∀ n ∈ m.2.numbers, eqv (f n) (g n) = true := fun m h => ih m.2 (.member h) (hmembers m h)
      rw [mapNumbers_object, mapNumbers_object, equalBy, List.length_map, List.length_map, beq_self_eq_true,
        Bool.true_and, coversBy_map hnames, forall₂_congr hvalues]
      simp only [mem_numbers_object, forall_exists_index, and_imp]
      exact ⟨fun h n m hm hn => h m hm n hn, fun h m hm n hn => h n m hm hn⟩
    | null => simp [mapNumbers, equalBy, numbers]
    | bool flag => simp [mapNumbers, equalBy, numbers]
    | string text => simp [mapNumbers, equalBy, numbers]

/-! ## Numbers by value -/

/-- No number in the value blurs. -/
def IsSharp (value : Json) : Prop := ∀ n ∈ value.numbers, ¬ n.Blurs

theorem equal_self (ha : a.hasDistinctNames = true) : a.equal a = true :=
  equalBy_refl (fun n => by rw [n.compare_self, beq_self_eq_true]) ha

theorem equal_comm (ha : a.hasDistinctNames = true) (hb : b.hasDistinctNames = true) : a.equal b = b.equal a := by
  have hswap : ∀ m n : Number, (m.compare n == .eq) = true → (n.compare m == .eq) = true := fun m n h =>
    beq_iff_eq.2 (Number.compare_eq_comm.1 (beq_iff_eq.1 h))
  exact Bool.eq_iff_iff.2 ⟨equalBy_symm hswap ha hb, equalBy_symm hswap hb ha⟩

theorem equal_trans (hb : b.IsSharp) (hab : a.equal b = true) (hbc : b.equal c = true) : a.equal c = true := by
  refine equalBy_trans (fun n hn m k hmn hnk => ?_) hab hbc
  have hpasses := Number.compare_eq_trans_iff.2 (hb n hn)
  exact beq_iff_eq.2 (hpasses m k (beq_iff_eq.1 hmn) (beq_iff_eq.1 hnk))

theorem equal_mapNumbers_iff {f g : Number → Number} (hb : b.hasDistinctNames = true) :
    (b.mapNumbers f).equal (b.mapNumbers g) = true ↔ ∀ n ∈ b.numbers, (f n).compare (g n) = .eq :=
  (equalBy_mapNumbers_iff hb).trans (forall₂_congr fun _ _ => beq_iff_eq)

/-- A number that blurs spoils every value around it: other numbers in its place make two values that are equal to
this one and not to each other. -/
theorem equal_trans_iff (hb : b.hasDistinctNames = true) :
    (∀ a c : Json, a.hasDistinctNames = true → c.hasDistinctNames = true → a.equal b = true → b.equal c = true →
      a.equal c = true) ↔ b.IsSharp := by
  refine ⟨fun htrans n hn => Number.compare_eq_trans_iff.1 fun m k hmn hnk => ?_,
    fun hsharp a c _ _ => equal_trans hsharp⟩
  let put (other : Number) : Number → Number := Function.update id n other
  have hput : ∀ other, put other n = other := fun other => Function.update_self n other id
  have hleft : (b.mapNumbers (put m)).equal (b.mapNumbers id) = true := by
    refine (equal_mapNumbers_iff hb).2 fun x _ => ?_
    exact (Function.forall_update_iff id fun x y => y.compare x = .eq).2 ⟨hmn, fun x _ => x.compare_self⟩ x
  have hright : (b.mapNumbers id).equal (b.mapNumbers (put k)) = true := by
    refine (equal_mapNumbers_iff hb).2 fun x _ => ?_
    exact (Function.forall_update_iff id fun x y => x.compare y = .eq).2 ⟨hnk, fun x _ => x.compare_self⟩ x
  rw [mapNumbers_id] at hleft hright
  have hends := htrans _ _ (hasDistinctNames_mapNumbers _ hb) (hasDistinctNames_mapNumbers _ hb) hleft hright
  have hn := (equal_mapNumbers_iff hb).1 hends n hn
  rwa [hput, hput] at hn

end Json

end Schemata

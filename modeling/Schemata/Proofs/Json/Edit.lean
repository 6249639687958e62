import Schemata.Proofs.Json.Members
import Schemata.Proofs.Json.Position

/-!
# A value with another one at a place

* `Json.setMember_eq_map` : a member that is there is set where it stands;
* `Json.nodup_keys_setMember`, `Json.nodup_keys_membersOf` : an object that is put together has no name twice;
* `Json.replaceAtTokens?_cons_eq_some` : what a value is in which something below the root was replaced;
* `Json.hasDistinctNames_of_replaceAtTokens?` : its names are distinct again;
* `Json.replaceAtTokens?_comm` : replacements at disjoint places may be done in any order;
* `Json.replaceEach?`, `Json.exists_replaceEach?_of_mem` : replacements one after the other, of which any may be done
  first if their places are disjoint.
-/

namespace Schemata

namespace Json

/-! ## Members -/

section Members

variable {members : List (String × Json)} {name : String} {value : Json}

theorem setMember_eq_map (hd : (members.map Prod.fst).Nodup) (h : name ∈ members.map Prod.fst) :
    setMember name value members = members.map fun m => if m.1 = name then (name, value) else m := by
  induction members with
  | nil => cases h
  | cons entry rest ih =>
    obtain ⟨k, v⟩ := entry
    obtain ⟨hk, hd⟩ := List.nodup_cons.1 hd
    rw [setMember, List.map_cons]
    by_cases hkn : k = name
    · subst hkn
      have hrest : (rest.map fun m => if m.1 = k then (k, value) else m) = rest := by
        refine (List.map_congr_left fun m hm => ?_).trans (List.map_id rest)
        have hne : m.1 ≠ k := fun heq => hk (List.mem_map.2 ⟨m, hm, heq⟩)
        rw [if_neg hne]
        rfl
      rw [if_pos rfl, if_pos rfl, hrest]
    · have hmem : name ∈ rest.map Prod.fst := (List.mem_cons.1 h).resolve_left (Ne.symm hkn)
      rw [if_neg hkn, if_neg hkn, ih hd hmem]

theorem mem_keys_of_lookup {old : Json} (h : members.lookup name = some old) : name ∈ members.map Prod.fst :=
  List.mem_map_of_mem (Names.mem_of_lookup h)

theorem keys_setMember (hd : (members.map Prod.fst).Nodup) (h : name ∈ members.map Prod.fst) :
    (setMember name value members).map Prod.fst = members.map Prod.fst := by
  rw [setMember_eq_map hd h, List.map_map]
  refine List.map_congr_left fun m _ => ?_
  by_cases hm : m.1 = name
  · simp [hm]
  · simp [hm]

theorem nodup_keys_setMember {members : List (String × Json)} (hd : (members.map Prod.fst).Nodup) (name : String)
    (value : Json) : ((setMember name value members).map Prod.fst).Nodup := by
  by_cases h : name ∈ members.map Prod.fst
  · rw [keys_setMember hd h]
    exact hd
  · rw [setMember_of_not_mem h]
    exact Names.nodup_concat hd h value

theorem nodup_keys_membersOf (written : List (String × Json)) : ((membersOf written).map Prod.fst).Nodup := by
  have hfold : ∀ members : List (String × Json), (members.map Prod.fst).Nodup →
      ((written.foldl (fun members entry => setMember entry.1 entry.2 members) members).map Prod.fst).Nodup := by
    induction written with
    | nil => exact fun members hd => hd
    | cons entry rest ih => exact fun members hd => ih _ (nodup_keys_setMember hd entry.1 entry.2)
  exact hfold [] List.nodup_nil

theorem setMember_setMember (first : Json) :
    setMember name value (setMember name first members) = setMember name value members := by
  induction members with
  | nil => simp [setMember]
  | cons entry rest ih =>
    obtain ⟨k, v⟩ := entry
    by_cases hk : k = name
    · simp [setMember, hk]
    · simp [setMember, hk, ih]

theorem setMember_comm {other : String} {otherValue : Json} (hne : name ≠ other)
    (h : name ∈ members.map Prod.fst) (ho : other ∈ members.map Prod.fst) :
    setMember other otherValue (setMember name value members) =
      setMember name value (setMember other otherValue members) := by
  induction members with
  | nil => cases h
  | cons entry rest ih =>
    obtain ⟨k, v⟩ := entry
    by_cases hk : k = name
    · subst hk
      simp [setMember, hne]
    · by_cases hko : k = other
      · subst hko
        simp [setMember, hk]
      · have hrest : name ∈ rest.map Prod.fst := (List.mem_cons.1 h).resolve_left (Ne.symm hk)
        have hrest' : other ∈ rest.map Prod.fst := (List.mem_cons.1 ho).resolve_left (Ne.symm hko)
        simp [setMember, hk, hko, ih hrest hrest']

end Members

/-! ## Replacements -/

/-- What a value is in which something below the root was replaced: an object with another value of one member, or an
array with another item. -/
theorem replaceAtTokens?_cons_eq_some {value edited w : Json} {token : String} {rest : List String}
    (h : value.replaceAtTokens? (token :: rest) w = some edited) :
    (∃ members old new, value = .object members ∧ members.lookup token = some old ∧
        old.replaceAtTokens? rest w = some new ∧ edited = .object (setMember token new members)) ∨
      ∃ items i old new, value = .array items ∧ token = toString i ∧ items[i]? = some old ∧
        old.replaceAtTokens? rest w = some new ∧ edited = .array (items.set i new) := by
  cases value with
  | object members =>
    simp only [replaceAtTokens?, Option.bind_eq_bind, Option.bind_eq_some_iff] at h
    obtain ⟨old, hold, new, hnew, hedited⟩ := h
    exact .inl ⟨members, old, new, rfl, hold, hnew, (Option.some.inj hedited).symm⟩
  | array items =>
    simp only [replaceAtTokens?, Option.bind_eq_bind, Option.bind_eq_some_iff] at h
    obtain ⟨i, hi, old, hold, new, hnew, hedited⟩ := h
    exact .inr ⟨items, i, old, new, rfl, Pointer.toString_of_position? hi, hold, hnew,
      (Option.some.inj hedited).symm⟩
  | _ => cases h

theorem hasDistinctNames_setMember {members : List (String × Json)} {name : String} {old new : Json}
    (hd : (object members).hasDistinctNames = true) (there : members.lookup name = some old)
    (hnew : old.hasDistinctNames = true → new.hasDistinctNames = true) :
    (object (setMember name new members)).hasDistinctNames = true := by
  obtain ⟨hnames, hmembers⟩ := hasDistinctNames_object.1 hd
  have hkeys : (setMember name new members).map Prod.fst = members.map Prod.fst :=
    keys_setMember hnames (mem_keys_of_lookup there)
  refine hasDistinctNames_object.2 ⟨hkeys ▸ hnames, fun m hm => ?_⟩
  rcases mem_setMember hm with rfl | hm
  · exact hnew (hmembers _ (Names.mem_of_lookup there))
  · exact hmembers m hm

theorem hasDistinctNames_set {items : List Json} {i : Nat} {old new : Json}
    (hd : (array items).hasDistinctNames = true) (there : items[i]? = some old)
    (hnew : old.hasDistinctNames = true → new.hasDistinctNames = true) :
    (array (items.set i new)).hasDistinctNames = true := by
  have hitems := hasDistinctNames_array.1 hd
  refine hasDistinctNames_array.2 fun v hv => ?_
  rcases List.mem_or_eq_of_mem_set hv with hv | rfl
  · exact hitems v hv
  · exact hnew (hitems _ (List.mem_of_getElem? there))

/-- Distinct names stay distinct. -/
theorem hasDistinctNames_of_replaceAtTokens? {value edited w : Json} {tokens : List String}
    (hd : value.hasDistinctNames = true) (hw : w.hasDistinctNames = true)
    (h : value.replaceAtTokens? tokens w = some edited) : edited.hasDistinctNames = true := by
  induction tokens generalizing value edited with
  | nil =>
    obtain rfl := Option.some.inj h
    exact hw
  | cons token rest ih =>
    obtain ⟨members, old, new, rfl, hold, hnew, rfl⟩ | ⟨items, i, old, new, rfl, -, hold, hnew, rfl⟩ :=
      replaceAtTokens?_cons_eq_some h
    · exact hasDistinctNames_setMember hd hold fun hdold => ih hdold hnew
    · exact hasDistinctNames_set hd hold fun hdold => ih hdold hnew

theorem replaceAtTokens?_member {members : List (String × Json)} {old new w : Json} {token : String}
    {rest : List String} (hold : members.lookup token = some old) (hnew : old.replaceAtTokens? rest w = some new) :
    (object members).replaceAtTokens? (token :: rest) w = some (object (setMember token new members)) := by
  simp only [replaceAtTokens?, hold, hnew, Option.bind_eq_bind, Option.bind_some]

theorem replaceAtTokens?_item {items : List Json} {i : Nat} {old new w : Json} {rest : List String}
    (hold : items[i]? = some old) (hnew : old.replaceAtTokens? rest w = some new) :
    (array items).replaceAtTokens? (toString i :: rest) w = some (array (items.set i new)) := by
  simp only [replaceAtTokens?, Pointer.position?_toString, hold, hnew, Option.bind_eq_bind, Option.bind_some]

/-- Neither of two places lies in the other one. -/
def DisjointPlaces (a b : List String) : Prop := ¬ a <+: b ∧ ¬ b <+: a

/-- Replacements at disjoint places may be done in any order. -/
theorem replaceAtTokens?_comm {value between edited v w : Json} {a b : List String} (hab : DisjointPlaces a b)
    (ha : value.replaceAtTokens? a v = some between) (hb : between.replaceAtTokens? b w = some edited) :
    ∃ between', value.replaceAtTokens? b w = some between' ∧ between'.replaceAtTokens? a v = some edited := by
  induction a generalizing value between edited b with
  | nil => exact absurd (List.nil_prefix) hab.1
  | cons t ra ih =>
    cases b with
    | nil => exact absurd (List.nil_prefix) hab.2
    | cons u rb =>
      have hrest : t = u → DisjointPlaces ra rb := by
        rintro rfl
        exact ⟨fun h => hab.1 (List.cons_prefix_cons.2 ⟨rfl, h⟩), fun h => hab.2 (List.cons_prefix_cons.2 ⟨rfl, h⟩)⟩
      obtain ⟨members, old, new, rfl, hold, hnew, rfl⟩ | ⟨items, i, old, new, rfl, rfl, hold, hnew, rfl⟩ :=
        replaceAtTokens?_cons_eq_some ha
      · obtain ⟨_, old', new', heq, hold', hnew', rfl⟩ | ⟨_, _, _, _, heq, -⟩ := replaceAtTokens?_cons_eq_some hb
        · obtain rfl := Json.object.inj heq
          by_cases htu : t = u
          · subst htu
            -- Both replacements are in the same member.
            rw [lookup_setMember_self] at hold'
            obtain rfl := Option.some.inj hold'
            obtain ⟨between', hb', ha'⟩ := ih (hrest rfl) hnew hnew'
            refine ⟨_, replaceAtTokens?_member hold hb', ?_⟩
            have hthere : (setMember t between' members).lookup t = some between' := lookup_setMember_self
            have := replaceAtTokens?_member hthere ha'
            rwa [setMember_setMember] at this ⊢
          · rw [lookup_setMember_of_ne (Ne.symm htu)] at hold'
            refine ⟨_, replaceAtTokens?_member hold' hnew', ?_⟩
            have hthere : (setMember u new' members).lookup t = some old := (lookup_setMember_of_ne htu).trans hold
            have := replaceAtTokens?_member hthere hnew
            rwa [← setMember_comm htu (mem_keys_of_lookup hold) (mem_keys_of_lookup hold')] at this
        · cases heq
      · obtain ⟨_, _, _, heq, -⟩ | ⟨_, j, old', new', heq, rfl, hold', hnew', rfl⟩ := replaceAtTokens?_cons_eq_some hb
        · cases heq
        · obtain rfl := Json.array.inj heq
          by_cases hij : i = j
          · subst hij
            have hi : i < items.length := (List.getElem?_eq_some_iff.1 hold).1
            rw [List.getElem?_set_self hi] at hold'
            obtain rfl := Option.some.inj hold'
            obtain ⟨between', hb', ha'⟩ := ih (hrest rfl) hnew hnew'
            refine ⟨_, replaceAtTokens?_item hold hb', ?_⟩
            have hthere : (items.set i between')[i]? = some between' := List.getElem?_set_self hi
            have := replaceAtTokens?_item hthere ha'
            rwa [List.set_set] at this ⊢
          · rw [List.getElem?_set_ne hij] at hold'
            refine ⟨_, replaceAtTokens?_item hold' hnew', ?_⟩
            have hthere : (items.set j new')[i]? = some old := (List.getElem?_set_ne (Ne.symm hij)).trans hold
            have := replaceAtTokens?_item hthere hnew
            rwa [List.set_comm _ _ (Ne.symm hij)] at this

/-- Replacements at the places of some tokens, one after the other. -/
def replaceEach? (value : Json) (edits : List (List String × Json)) : Option Json :=
  edits.foldlM (fun value edit => value.replaceAtTokens? edit.1 edit.2) value

theorem replaceEach?_cons_eq_some {value edited : Json} {edit : List String × Json}
    {edits : List (List String × Json)} :
    value.replaceEach? (edit :: edits) = some edited ↔
      ∃ between, value.replaceAtTokens? edit.1 edit.2 = some between ∧ between.replaceEach? edits = some edited := by
  rw [replaceEach?, List.foldlM_cons, Option.bind_eq_bind, Option.bind_eq_some_iff]
  rfl

theorem exists_replaceEach?_of_mem {value edited : Json} {edits : List (List String × Json)}
    (hdis : edits.Pairwise fun a b => DisjointPlaces a.1 b.1) (h : value.replaceEach? edits = some edited)
    {edit : List String × Json} (hm : edit ∈ edits) :
    ∃ alone others, value.replaceAtTokens? edit.1 edit.2 = some alone ∧ alone.replaceEach? others = some edited ∧
      ∀ other ∈ others, other ∈ edits ∧ DisjointPlaces edit.1 other.1 := by
  induction edits generalizing value with
  | nil => cases hm
  | cons first rest ih =>
    obtain ⟨hfirst, hrest⟩ := List.pairwise_cons.1 hdis
    obtain ⟨between, hbetween, hedited⟩ := replaceEach?_cons_eq_some.1 h
    rcases List.mem_cons.1 hm with rfl | hrm
    · exact ⟨between, rest, hbetween, hedited, fun other ho => ⟨List.mem_cons_of_mem _ ho, hfirst other ho⟩⟩
    · obtain ⟨alone, others, halone, hothers, hall⟩ := ih hrest hedited hrm
      -- The first replacement is put off until after this one.
      obtain ⟨between', hb', ha'⟩ := replaceAtTokens?_comm (hfirst edit hrm) hbetween halone
      refine ⟨between', first :: others, hb', replaceEach?_cons_eq_some.2 ⟨alone, ha', hothers⟩, fun other ho => ?_⟩
      rcases List.mem_cons.1 ho with rfl | ho
      · exact ⟨List.mem_cons_self .., (hfirst edit hrm).2, (hfirst edit hrm).1⟩
      · exact ⟨List.mem_cons_of_mem _ (hall other ho).1, (hall other ho).2⟩

end Json

end Schemata

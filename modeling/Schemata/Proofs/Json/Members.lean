import Schemata.Proofs.Json.Names

/-!
# Objects that are put together

* `Json.lookup_setMember`, `Json.mem_setMember` : what is found in an object after a member was set;
* `Json.setMember_of_not_mem` : a new name goes to the end;
* `Json.membersOf_of_nodup` : an object whose names were written once has its members as they were written;
* `Json.mem_of_mem_membersOf`, `Json.lookup_membersOf_of_not_mem` : an object has no member, and no name, that was not
  written.
-/

namespace Schemata.Json

variable {members : List (String × Json)} {name : String} {value : Json}

theorem lookup_setMember (other : String) :
    (setMember name value members).lookup other = if other = name then some value else members.lookup other := by
  induction members with
  | nil => exact Names.lookup_cons (name, value) [] other
  | cons entry rest ih =>
    obtain ⟨k, v⟩ := entry
    rw [setMember]
    by_cases hk : k = name
    · subst hk
      rw [if_pos rfl, Names.lookup_cons, Names.lookup_cons]
      by_cases h : other = k
      · rw [if_pos h, if_pos h]
      · rw [if_neg h, if_neg h, if_neg h]
    · rw [if_neg hk, Names.lookup_cons, Names.lookup_cons, ih]
      by_cases h : other = k
      · rw [if_pos h, if_pos h, if_neg (h ▸ hk)]
      · rw [if_neg h, if_neg h]

theorem lookup_setMember_self : (setMember name value members).lookup name = some value := by
  rw [lookup_setMember, if_pos rfl]

theorem lookup_setMember_of_ne {other : String} (h : other ≠ name) :
    (setMember name value members).lookup other = members.lookup other := by
  rw [lookup_setMember, if_neg h]

theorem mem_setMember {m : String × Json} (h : m ∈ setMember name value members) :
    m = (name, value) ∨ m ∈ members := by
  induction members with
  | nil => exact .inl (List.mem_singleton.1 h)
  | cons entry rest ih =>
    obtain ⟨k, v⟩ := entry
    rw [setMember] at h
    by_cases hk : k = name
    · rw [if_pos hk] at h
      rcases List.mem_cons.1 h with rfl | h
      · exact .inl (by rw [hk])
      · exact .inr (List.mem_cons_of_mem _ h)
    · rw [if_neg hk] at h
      rcases List.mem_cons.1 h with rfl | h
      · exact .inr (List.mem_cons_self ..)
      · exact (ih h).imp_right (List.mem_cons_of_mem _)

theorem setMember_of_not_mem (h : name ∉ members.map Prod.fst) :
    setMember name value members = members ++ [(name, value)] := by
  induction members with
  | nil => rfl
  | cons entry rest ih =>
    obtain ⟨k, v⟩ := entry
    rw [List.map_cons, List.mem_cons, not_or] at h
    rw [setMember, if_neg (Ne.symm h.1), ih h.2, List.cons_append]

theorem foldl_setMember_of_nodup {written : List (String × Json)}
    (h : ((members ++ written).map Prod.fst).Nodup) :
    written.foldl (fun members entry => setMember entry.1 entry.2 members) members = members ++ written := by
  induction written generalizing members with
  | nil => exact (List.append_nil _).symm
  | cons entry rest ih =>
    have hnew : entry.1 ∉ members.map Prod.fst := by
      rw [List.map_append, List.map_cons, List.nodup_append] at h
      intro hm
      exact h.2.2 _ hm _ (List.mem_cons_self ..) rfl
    have hsplit : members ++ entry :: rest = (members ++ [entry]) ++ rest := by
      rw [List.append_assoc, List.singleton_append]
    rw [List.foldl_cons, setMember_of_not_mem hnew, hsplit]
    exact ih (hsplit ▸ h)

theorem membersOf_of_nodup {written : List (String × Json)} (h : (written.map Prod.fst).Nodup) :
    membersOf written = written :=
  foldl_setMember_of_nodup h

theorem mem_of_mem_membersOf {written : List (String × Json)} {m : String × Json} (h : m ∈ membersOf written) :
    m ∈ written := by
  have hfold : ∀ members : List (String × Json),
      m ∈ written.foldl (fun members entry => setMember entry.1 entry.2 members) members →
        m ∈ members ∨ m ∈ written := by
    clear h
    induction written with
    | nil => exact fun members hm => .inl hm
    | cons entry rest ih =>
      intro members hm
      rcases ih _ hm with hm | hm
      · exact (mem_setMember hm).elim (fun heq => .inr (heq ▸ List.mem_cons_self ..)) .inl
      · exact .inr (List.mem_cons_of_mem _ hm)
  exact (hfold [] h).resolve_left List.not_mem_nil

theorem lookup_membersOf_of_not_mem {written : List (String × Json)} {name : String}
    (h : name ∉ written.map Prod.fst) : (membersOf written).lookup name = none := by
  have hfold : ∀ members : List (String × Json),
      (written.foldl (fun members entry => setMember entry.1 entry.2 members) members).lookup name =
        members.lookup name := by
    induction written with
    | nil => exact fun members => rfl
    | cons entry rest ih =>
      intro members
      rw [List.map_cons, List.mem_cons, not_or] at h
      rw [List.foldl_cons, ih h.2, lookup_setMember_of_ne h.1]
  exact hfold []

end Schemata.Json

import Schemata.Json.Decode
import Schemata.Proofs.Json.Names

/-!
# What is read from a value that was written

* `Decode.Field.Suits`, `Decode.record_object` : an object in which every field can be read, or is left out
  and may be, is read by name;
* `Decode.elim_optional_value`, `Decode.elim_optional_text` : what may be absent is read back, except that
  `null` counts as absent;
* `Decode.items_map` : a list is read item by item.
-/

namespace Schemata.Decode

variable {α β : Type}

/-! ## Records -/

/-- What is found for a field suits it: it can be read, or there is nothing and need not be. -/
def Field.Suits (field : Field) : Option Json → Prop
  | none => field.isOptional = true
  | some value => field.fault? value = none

theorem Field.suits_of_found {decode : Decoder α} {found : Option Json} {value : Json} {a : α}
    (hf : found = some value) (h : decode value = .ok a) (name : String) (isOptional : Bool) :
    (Field.of name isOptional decode).Suits found := by
  rw [hf]
  unfold Suits Field.of
  dsimp only
  rw [h]

theorem Field.suits_of_elim {decode : Decoder α} {found : Option Json} {default a : α}
    (h : found.elim (.ok default) decode = .ok a) (name : String) : (Field.of name true decode).Suits found := by
  cases found with
  | none => rfl
  | some value => exact suits_of_found rfl h name true

theorem memberFault?_eq_none {fields : List Field} {members : List (String × Json)}
    (hd : (members.map Prod.fst).Nodup) (hs : ∀ field ∈ fields, field.Suits (members.lookup field.name)) :
    memberFault? fields members = none := by
  refine List.findSome?_eq_none_iff.2 fun m hm => ?_
  obtain ⟨key, value⟩ := m
  refine Option.bind_eq_none_iff.2 fun field hfound => ?_
  have hkey : field.name = key := by simpa using List.find?_some hfound
  have hsuits := hs field (List.mem_of_find?_eq_some hfound)
  rw [hkey, Names.lookup_of_mem hd hm] at hsuits
  exact hsuits

/-- An object is read by name if its members suit the fields of the record. -/
theorem record_object {fields : List Field} {members : List (String × Json)} (hd : (members.map Prod.fst).Nodup)
    (hs : ∀ field ∈ fields, field.Suits (members.lookup field.name)) (name : String) :
    record name fields (.object members) = .ok fun name => members.lookup name := by
  have hpresent : fields.find? (fun f => !f.isOptional && (members.lookup f.name).isNone) = none := by
    refine List.find?_eq_none.2 fun field hf habsent => ?_
    rw [Bool.and_eq_true, Option.isNone_iff_eq_none] at habsent
    obtain ⟨hrequired, hnone⟩ := habsent
    have hsuits := hs field hf
    rw [hnone] at hsuits
    have hoptional : field.isOptional = true := hsuits
    rw [hoptional] at hrequired
    cases hrequired
  unfold record
  dsimp only
  rw [memberFault?_eq_none hd hs]
  dsimp only
  rw [hpresent]

theorem fieldOr_eq_elim (get : String → Option Json) (name : String) (default : α) (decode : Decoder α) :
    fieldOr get name default decode = (get name).elim (.ok default) decode := by
  unfold fieldOr
  cases get name <;> rfl

/-! ## Single values -/

theorem text_string (s : String) : text (.string s) = .ok s := rfl

theorem flag_bool (b : Bool) : flag (.bool b) = .ok b := rfl


theorem elim_optional_value (found : Option Json) :
    found.elim (.ok none) (optional value) = .ok (found.filter (· ≠ .null)) := by
  cases found with
  | none => rfl
  | some v => cases v <;> rfl

theorem elim_optional_text {found : Option Json} {written : Option String} (h : found = written.map .string) :
    found.elim (.ok none) (optional text) = .ok written := by
  rw [h]
  cases written <;> rfl

/-! ## Lists -/

theorem items_map {decode : Decoder α} {encode : β → Json} {f : β → α} (h : ∀ b, decode (encode b) = .ok (f b))
    (bs : List β) : items decode (.array (bs.map encode)) = .ok (bs.map f) := by
  unfold items
  dsimp only
  induction bs with
  | nil => rfl
  | cons b rest ih =>
    rw [List.map_cons, List.mapM_cons, h, ih]
    rfl

end Schemata.Decode

import Schemata.Proofs.Json.Position

/-!
# Dotted texts of paths

* `Segment.Dottable` : a segment that can stand in a dotted text;
* `Segment.ofText_text` : it is read back from its text;
* `FieldPath.pieces_toDot` : the pieces of a dotted text are the texts of the segments;
* `FieldPath.ofDot?_toDot` : a path of such segments is read back from its dotted text;
* `FieldPath.toDot_of_ofDot?`, `FieldPath.dottable_of_ofDot?` : what is read from a text has this text, and such
  segments;
* `FieldPath.dotted_round_trip` : so these are the paths that dotted texts stand for.
-/

namespace Schemata

namespace Segment

/-- The segment can stand in a dotted text: a position that is a 64-bit word, or a name that is not empty, has no
point, and is not the written form of such a position. -/
def Dottable : Segment → Prop
  | name text => text ≠ "" ∧ '.' ∉ text.toList ∧ ∀ i < 0x10000000000000000, text ≠ toString i
  | index i => i < 0x10000000000000000

theorem toList_toString (i : Nat) : (toString i).toList = Nat.toDigits 10 i := Nat.toList_repr

theorem point_not_mem_toString (i : Nat) : '.' ∉ (toString i).toList := by
  intro h
  rw [toList_toString] at h
  have hdigit := Nat.isDigit_of_mem_toDigits (by decide) (by decide) h
  exact absurd hdigit (by decide)

theorem toString_ne_empty (i : Nat) : toString i ≠ "" := by
  intro h
  have hl := toList_toString i
  rw [h] at hl
  exact Nat.toDigits_ne_nil hl.symm

theorem index?_eq_none_iff {text : String} :
    Pointer.index? text = none ↔ ∀ i < 0x10000000000000000, text ≠ toString i := by
  rw [Option.eq_none_iff_forall_ne_some]
  constructor
  · intro h i hlt heq
    exact h i (Pointer.index?_eq_some_iff.2 ⟨heq, hlt⟩)
  · intro h i hi
    obtain ⟨heq, hlt⟩ := Pointer.index?_eq_some_iff.1 hi
    exact h i hlt heq

theorem ofText_text {segment : Segment} (h : segment.Dottable) : ofText segment.text = segment := by
  unfold ofText
  cases segment with
  | name text =>
    have hnone : Pointer.index? text = none := index?_eq_none_iff.2 h.2.2
    dsimp only [Segment.text]
    rw [hnone]
  | index i =>
    have hsome : Pointer.index? (toString i) = some i := Pointer.index?_eq_some_iff.2 ⟨rfl, h⟩
    dsimp only [Segment.text]
    rw [hsome]

theorem text_ofText (text : String) : (ofText text).text = text := by
  unfold ofText
  cases h : Pointer.index? text with
  | none => rfl
  | some i => exact (Pointer.index?_eq_some_iff.1 h).1.symm

/-- What is read as a segment from a text that is not empty and has no point, can stand in a dotted text. -/
theorem dottable_ofText {text : String} (hne : text ≠ "") (hpoint : '.' ∉ text.toList) : (ofText text).Dottable := by
  unfold ofText
  cases h : Pointer.index? text with
  | none => exact ⟨hne, hpoint, index?_eq_none_iff.1 h⟩
  | some i => exact (Pointer.index?_eq_some_iff.1 h).2

theorem Dottable.text_ne_empty {segment : Segment} (h : segment.Dottable) : segment.text ≠ "" := by
  cases segment with
  | name text => exact h.1
  | index i => exact toString_ne_empty i

theorem Dottable.point_not_mem {segment : Segment} (h : segment.Dottable) : '.' ∉ segment.text.toList := by
  cases segment with
  | name text => exact h.2.1
  | index i => exact point_not_mem_toString i

end Segment

namespace FieldPath

theorem pieces_toDot {segment : Segment} {rest : FieldPath}
    (h : ∀ s ∈ segment :: rest, '.' ∉ s.text.toList) :
    Text.pieces '.' (toDot (segment :: rest)).toList = (segment :: rest).map fun s => s.text.toList := by
  induction rest generalizing segment with
  | nil =>
    have hs := h segment (List.mem_singleton_self segment)
    simpa [toDot] using Text.pieces_of_not_mem hs
  | cons next rest ih =>
    have hs := h segment (List.mem_cons_self ..)
    have hrest := ih fun s hm => h s (List.mem_cons_of_mem _ hm)
    have hdot : (toDot (segment :: next :: rest)).toList =
        segment.text.toList ++ '.' :: (toDot (next :: rest)).toList := by
      simp [toDot, String.intercalate_cons_cons]
    rw [hdot, Text.pieces_append, Text.pieces_of_not_mem hs, hrest]
    rfl

/-- **A path is read back from its dotted text**, if its segments can stand there. -/
theorem ofDot?_toDot {path : FieldPath} (h : ∀ segment ∈ path, segment.Dottable) :
    ofDot? (toDot path) = some path := by
  cases path with
  | nil => rfl
  | cons segment rest =>
    have hpieces := pieces_toDot fun s hs => (h s hs).point_not_mem
    have hdot : (toDot (segment :: rest)).isEmpty = false := by
      -- An empty text has one piece, and that is empty.
      cases he : (toDot (segment :: rest)).isEmpty with
      | false => rfl
      | true =>
        rw [String.isEmpty_iff.1 he] at hpieces
        have hfirst : [] = segment.text.toList := (List.cons.inj hpieces).1
        have htext : segment.text = "" := String.toList_inj.1 hfirst.symm
        exact absurd htext (h segment (List.mem_cons_self ..)).text_ne_empty
    have hany : ((segment :: rest).map fun s => s.text.toList).any List.isEmpty = false := by
      refine List.any_eq_false.2 fun piece hp => ?_
      obtain ⟨s, hs, rfl⟩ := List.mem_map.1 hp
      simpa using (h s hs).text_ne_empty
    have hread : (segment :: rest).map (fun s => Segment.ofText (String.ofList s.text.toList)) = segment :: rest := by
      refine (List.map_congr_left fun s hs => ?_).trans (List.map_id _)
      rw [String.ofList_toList]
      exact Segment.ofText_text (h s hs)
    unfold ofDot?
    rw [hdot, hpieces]
    simp only [hany, List.map_map]
    exact congrArg some hread

/-- A text that is not empty is read piece by piece, and no piece is empty then. -/
theorem eq_map_pieces_of_ofDot? {text : String} {path : FieldPath} (hne : text ≠ "") (h : ofDot? text = some path) :
    (∀ piece ∈ Text.pieces '.' text.toList, piece ≠ []) ∧
      path = (Text.pieces '.' text.toList).map fun piece => Segment.ofText (String.ofList piece) := by
  unfold ofDot? at h
  rw [if_neg (by simpa using hne)] at h
  dsimp only at h
  split at h
  · cases h
  · next hany =>
    refine ⟨?_, (Option.some.inj h).symm⟩
    rintro _ hpiece rfl
    exact hany (List.any_eq_true.2 ⟨[], hpiece, rfl⟩)

theorem dottable_of_ofDot? {text : String} {path : FieldPath} (h : ofDot? text = some path) :
    ∀ segment ∈ path, segment.Dottable := by
  intro segment hs
  by_cases hne : text = ""
  · subst hne
    cases h
    cases hs
  · obtain ⟨hpieces, rfl⟩ := eq_map_pieces_of_ofDot? hne h
    obtain ⟨piece, hpiece, rfl⟩ := List.mem_map.1 hs
    apply Segment.dottable_ofText
    · intro htext
      exact hpieces piece hpiece (by simpa using htext)
    · rw [String.toList_ofList]
      exact Text.not_mem_of_mem_pieces hpiece

theorem toDot_of_ofDot? {text : String} {path : FieldPath} (h : ofDot? text = some path) : toDot path = text := by
  by_cases hne : text = ""
  · subst hne
    cases h
    rfl
  · obtain ⟨-, rfl⟩ := eq_map_pieces_of_ofDot? hne h
    apply String.toList_inj.1
    rw [toDot, String.toList_intercalate]
    simp only [List.map_map, Function.comp_def, Segment.text_ofText, String.toList_ofList, List.map_id']
    exact Text.intercalate_pieces '.' text.toList

/-- **Paths and their dotted texts.** What is read from a text is written as that text again; and a path is read back
from its text if and only if its segments can stand there: each position is a 64-bit word, and each name is not empty,
has no point, and is not the written form of such a position. -/
theorem dotted_round_trip :
    (∀ text path, ofDot? text = some path → toDot path = text) ∧
      ∀ path, ofDot? (toDot path) = some path ↔ ∀ segment ∈ path, segment.Dottable := by
  constructor
  · intro text path h
    exact toDot_of_ofDot? h
  · intro path
    -- A path that is read back has been read from a text, so its segments have no points to be counted.
    exact ⟨dottable_of_ofDot?, ofDot?_toDot⟩

/-- A position, two names that are almost positions, and the greatest position. -/
theorem dotted_round_trip_digits :
    ofDot? "7.07.18446744073709551616.18446744073709551615" =
        some [.index 7, .name "07", .name "18446744073709551616", .index 18446744073709551615] ∧
      toDot [.index 7, .name "07", .name "18446744073709551616", .index 18446744073709551615] =
        "7.07.18446744073709551616.18446744073709551615" ∧
      ofDot? (toDot [.name "07", .name "7"]) ≠ some [.name "07", .name "7"] := by
  have hread : ofDot? "7.07.18446744073709551616.18446744073709551615" =
      some [.index 7, .name "07", .name "18446744073709551616", .index 18446744073709551615] := by rfl
  refine ⟨hread, dotted_round_trip.1 _ _ hread, ?_⟩
  intro h
  have hname : Segment.Dottable (.name "7") := (dotted_round_trip.2 _).1 h _ (by simp)
  exact hname.2.2 7 (by decide) rfl

end FieldPath

end Schemata

import Mathlib.Data.List.TakeWhile
import Schemata.Proofs.Regex.Pieces
import Schemata.Schema.Pattern

/-!
# The formats that patterns spell out

* `Text.exists_trimBlanks` : a text is its inner part between blanks;
* `Format.exists_pieces_of_ofPattern?` : a pattern that spells out a format is made of pieces, which the usual text of
  the format fits, between blanks;
* `Pattern.isMatch_example_iff` : it matches that text if and only if there are no blanks around it.
-/

namespace Schemata

/-! ## Blanks around a text -/

namespace Text

theorem exists_trimBlanks (text : String) :
    ∃ front back, text.toList = front ++ (trimBlanks text).toList ++ back ∧
      (∀ c ∈ front, isBlank c = true) ∧ ∀ c ∈ back, isBlank c = true := by
  let inner := text.toList.dropWhile isBlank
  refine ⟨text.toList.takeWhile isBlank, (inner.reverse.takeWhile isBlank).reverse, ?_, ?_, ?_⟩
  · rw [trimBlanks, String.toList_ofList, List.append_assoc, ← List.reverse_append, List.takeWhile_append_dropWhile,
      List.reverse_reverse, List.takeWhile_append_dropWhile]
  · exact fun c hc => List.mem_takeWhile_imp hc
  · exact fun c hc => List.mem_takeWhile_imp (List.mem_reverse.1 hc)

end Text

/-! ## Pieces of a pattern -/

namespace Regex.Piece

def groups (anyScript : Bool) (second : Char) (many : second ∈ "23456789".toList) : List Piece :=
  [.digits anyScript '3' (by decide), .char '-' (.inr rfl), .digits anyScript second many, .char '-' (.inr rfl),
    .digits anyScript '4' (by decide)]

def spellings (second : Char) (many : second ∈ "23456789".toList) : List (List Piece) :=
  [true, false].flatMap fun anyScript =>
    [.start :: groups anyScript second many ++ [.stop], groups anyScript second many]

/-- Blanks are pieces of their own. -/
theorem exists_flatMap_text_eq {blanks : List Char} (h : ∀ c ∈ blanks, Text.isBlank c = true) :
    ∃ pieces : List Piece, pieces.flatMap text = blanks ∧ ∀ c ∈ blanks, ∃ plain, char c plain ∈ pieces := by
  induction blanks with
  | nil => exact ⟨[], rfl, nofun⟩
  | cons c rest ih =>
    obtain ⟨hc, hrest⟩ := List.forall_mem_cons.1 h
    obtain ⟨pieces, htext, hmem⟩ := ih hrest
    refine ⟨char c (.inl hc) :: pieces, by rw [List.flatMap_cons, htext]; rfl, ?_⟩
    refine List.forall_mem_cons.2 ⟨⟨_, List.mem_cons_self ..⟩, fun other hother => ?_⟩
    obtain ⟨plain, hplain⟩ := hmem other hother
    exact ⟨plain, List.mem_cons_of_mem _ hplain⟩

end Regex.Piece

namespace Format

open Regex (Piece)

theorem toList_ssnPatterns : ssnPatterns.map String.toList =
    (Piece.spellings '2' (by decide)).map (List.flatMap Piece.text) := by
  decide +kernel

theorem toList_phonePatterns : phonePatterns.map String.toList =
    (Piece.spellings '3' (by decide)).map (List.flatMap Piece.text) := by
  decide +kernel

theorem exists_pieces_of_mem {patterns : List String} {spelled : List (List Piece)}
    (h : patterns.map String.toList = spelled.map (List.flatMap Piece.text)) {pattern : String}
    (mem : patterns.contains pattern = true) : ∃ pieces ∈ spelled, pattern.toList = pieces.flatMap Piece.text := by
  have hpattern := List.mem_map_of_mem (f := String.toList) (List.contains_iff_mem.1 mem)
  rw [h] at hpattern
  obtain ⟨pieces, hpieces, htext⟩ := List.mem_map.1 hpattern
  exact ⟨pieces, hpieces, htext.symm⟩

/-- A pattern that spells out a format is made of pieces, which the usual text of the format fits. -/
theorem exists_pieces_of_ofPattern? {source : String} {format : Format} (h : ofPattern? source = some format) :
    ∃ pieces literal, (Text.trimBlanks source).toList = pieces.flatMap Piece.text ∧ format.example? = some literal ∧
      Piece.fitsAll literal.toList 0 pieces = true ∧ literal.toList.any Text.isBlank = false := by
  have hssn : ∀ pieces ∈ Piece.spellings '2' (by decide), Piece.fitsAll "123-45-6789".toList 0 pieces = true := by
    decide
  have hphone : ∀ pieces ∈ Piece.spellings '3' (by decide), Piece.fitsAll "555-123-4567".toList 0 pieces = true := by
    decide
  rw [ofPattern?] at h
  split at h
  next mem =>
    obtain rfl := Option.some.inj h
    obtain ⟨pieces, hpieces, htext⟩ := exists_pieces_of_mem toList_ssnPatterns mem
    exact ⟨pieces, "123-45-6789", htext, rfl, hssn pieces hpieces, by decide⟩
  next =>
    split at h
    next mem =>
      obtain rfl := Option.some.inj h
      obtain ⟨pieces, hpieces, htext⟩ := exists_pieces_of_mem toList_phonePatterns mem
      exact ⟨pieces, "555-123-4567", htext, rfl, hphone pieces hpieces, by decide⟩
    next => cases h

end Format

/-- A pattern that spells out a format matches the usual text of the format if and only if there are no blanks around
the pattern. -/
theorem Pattern.isMatch_example_iff (p : Pattern) {format : Format} (h : Format.ofPattern? p.source = some format)
    {literal : String} (hliteral : format.example? = some literal) :
    p.isMatch literal = true ↔ Text.trimBlanks p.source = p.source := by
  obtain ⟨pieces, _, hpieces, hexample, hfits, hunblank⟩ := Format.exists_pieces_of_ofPattern? h
  obtain rfl := Option.some.inj (hexample.symm.trans hliteral)
  constructor
  · intro hmatch
    obtain ⟨front, back, hsource, hfront, hback⟩ := Text.exists_trimBlanks p.source
    obtain ⟨fronts, hfronts, hmemFront⟩ := Regex.Piece.exists_flatMap_text_eq hfront
    obtain ⟨backs, hbacks, hmemBack⟩ := Regex.Piece.exists_flatMap_text_eq hback
    have htext : p.source.toList = (fronts ++ pieces ++ backs).flatMap Regex.Piece.text := by
      rw [List.flatMap_append, List.flatMap_append, hfronts, hbacks, ← hpieces, hsource]
    -- Blanks would have to be in the text.
    have hnil : front ++ back = [] := by
      refine List.eq_nil_iff_forall_not_mem.2 fun c hc => ?_
      have hpiece : ∃ plain, Regex.Piece.char c plain ∈ fronts ++ pieces ++ backs := by
        rcases List.mem_append.1 hc with hc | hc
        · exact (hmemFront c hc).imp fun _ hmem => List.mem_append_left _ (List.mem_append_left _ hmem)
        · exact (hmemBack c hc).imp fun _ hmem => List.mem_append_right _ hmem
      obtain ⟨plain, hmem⟩ := hpiece
      have hblank : Text.isBlank c = true := (List.mem_append.1 hc).elim (hfront c) (hback c)
      exact List.any_eq_false.1 hunblank c (Regex.mem_of_isMatch p.compiled htext hmatch hmem) hblank
    obtain ⟨rfl, rfl⟩ := List.append_eq_nil_iff.1 hnil
    rw [List.nil_append, List.append_nil] at hsource
    exact (String.toList_inj.1 hsource).symm
  · intro htrim
    rw [htrim] at hpieces
    exact Regex.isMatch_of_fitsAll p.compiled hpieces hfits

end Schemata

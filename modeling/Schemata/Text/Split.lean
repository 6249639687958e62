/-!
# Pieces of a text

* `pieces` : what stands between the occurrences of a separator;
* `digitsValue` : the number that decimal digits write.
-/

namespace Schemata.Text

/-- The pieces between separators; there is always one. -/
def pieces (separator : Char) : List Char → List (List Char)
  | [] => [[]]
  | c :: rest =>
    if c = separator then [] :: pieces separator rest
    else
      match pieces separator rest with
      | piece :: others => (c :: piece) :: others
      | [] => [[c]]

def digitsValue (digits : List Char) : Nat :=
  digits.foldl (fun n c => 10 * n + (c.toNat - 48)) 0

/-! ## Pieces of joined texts -/

theorem pieces_ne_nil (separator : Char) (text : List Char) : pieces separator text ≠ [] := by
  cases text with
  | nil => simp [pieces]
  | cons c rest =>
    unfold pieces
    split
    · simp
    · split <;> simp

theorem pieces_of_not_mem {separator : Char} {text : List Char} (h : separator ∉ text) :
    pieces separator text = [text] := by
  induction text with
  | nil => rfl
  | cons c rest ih =>
    obtain ⟨hc, hr⟩ : separator ≠ c ∧ separator ∉ rest := by simpa using h
    rw [pieces, if_neg (Ne.symm hc), ih hr]

theorem pieces_append (separator : Char) (a b : List Char) :
    pieces separator (a ++ separator :: b) = pieces separator a ++ pieces separator b := by
  induction a with
  | nil => simp [pieces]
  | cons c rest ih =>
    rw [List.cons_append, pieces, pieces, ih]
    split
    · rfl
    · cases h : pieces separator rest with
      | nil => exact absurd h (pieces_ne_nil separator rest)
      | cons piece others => rfl

theorem intercalate_pieces (separator : Char) (text : List Char) :
    [separator].intercalate (pieces separator text) = text := by
  induction text with
  | nil => simp [pieces]
  | cons c rest ih =>
    unfold pieces
    split
    · next h =>
      rw [List.intercalate_cons_of_ne_nil (pieces_ne_nil separator rest), ih, h]
      rfl
    · split
      · next piece others hrest =>
        rw [hrest] at ih
        cases others with
        | nil => simpa using ih
        | cons next others => simpa using ih
      · next hrest => exact absurd hrest (pieces_ne_nil separator rest)

theorem not_mem_of_mem_pieces {separator : Char} {text piece : List Char} (h : piece ∈ pieces separator text) :
    separator ∉ piece := by
  induction text generalizing piece with
  | nil =>
    obtain rfl := List.mem_singleton.1 h
    exact List.not_mem_nil
  | cons c rest ih =>
    unfold pieces at h
    split at h
    · rcases List.mem_cons.1 h with rfl | hrest
      · exact List.not_mem_nil
      · exact ih hrest
    · next hc =>
      split at h
      · next first others hrest =>
        rcases List.mem_cons.1 h with rfl | hother
        · have hfirst : separator ∉ first := ih (hrest ▸ List.mem_cons_self ..)
          simpa [Ne.symm hc] using hfirst
        · exact ih (hrest ▸ List.mem_cons_of_mem _ hother)
      · next hrest => exact absurd hrest (pieces_ne_nil separator rest)

end Schemata.Text

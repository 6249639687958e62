import Schemata.Proofs.Json.Pointer

/-!
# Tokens are written without loss

* `Text.replaceAll` : a text with every occurrence of a pattern replaced;
* `Pointer.escapeChars_eq_escapeInSteps`, `Pointer.unescapeChars_eq_unescapeInSteps` : a token is written by two
  replacements over all of it, and read by the opposite two in the opposite order;
* `Pointer.exists_escape_eq_iff` : which texts are written tokens; `Pointer.escape_eq_self_iff` : which tokens are
  written as they are;
* `Pointer.pieces_append` : the tokens of a pointer stand between its slashes;
* `Pointer.append_lossless` : so the text that tokens add to a pointer is read back as these tokens.
-/

namespace Schemata

/-! ## Replacing in a text -/

namespace Text

/-- The text with every occurrence of a pattern replaced, from left to right. -/
def replaceAll (first : Char) (more replacement : List Char) : List Char → List Char
  | [] => []
  | c :: rest =>
    if c = first ∧ more <+: rest then
      replacement ++ replaceAll first more replacement (rest.drop more.length)
    else c :: replaceAll first more replacement rest
termination_by text => text.length

theorem replaceAll_of_not (replacement : List Char) {first c : Char} {more rest : List Char}
    (h : ¬(c = first ∧ more <+: rest)) :
    replaceAll first more replacement (c :: rest) = c :: replaceAll first more replacement rest := by
  rw [replaceAll, if_neg h]

end Text

namespace Pointer

/-! ## Writing and reading in two steps -/

/-- Every tilde replaced by `~0`, then every slash by `~1`. -/
def escapeInSteps (chars : List Char) : List Char :=
  Text.replaceAll '/' [] ['~', '1'] (Text.replaceAll '~' [] ['~', '0'] chars)

/-- Every `~1` replaced by a slash, then every `~0` by a tilde. -/
def unescapeInSteps (chars : List Char) : List Char :=
  Text.replaceAll '~' ['0'] ['~'] (Text.replaceAll '~' ['1'] ['/'] chars)

/-- The second step leaves alone what the first one writes. -/
theorem escapeChars_eq_escapeInSteps (chars : List Char) : escapeChars chars = escapeInSteps chars := by
  unfold escapeInSteps
  induction chars using escapeChars.induct with
  | case1 => simp [escapeChars, Text.replaceAll]
  | case2 rest ih => simp [escapeChars, Text.replaceAll, ih]
  | case3 rest ih => simp [escapeChars, Text.replaceAll, ih]
  | case4 c rest hc hs ih =>
    have hc : c ≠ '~' := hc
    have hs : c ≠ '/' := hs
    simp [escapeChars, Text.replaceAll, hc, hs, ih]

/-- The first step brings no `0` behind a tilde. -/
theorem zero_prefix_replaceAll_iff (chars : List Char) :
    ['0'] <+: Text.replaceAll '~' ['1'] ['/'] chars ↔ ['0'] <+: chars := by
  cases chars with
  | nil => simp [Text.replaceAll]
  | cons c rest =>
    rw [Text.replaceAll]
    split
    · next h => simp [h.1]
    · simp

theorem unescapeChars_eq_unescapeInSteps (chars : List Char) : unescapeChars chars = unescapeInSteps chars := by
  unfold unescapeInSteps
  induction chars using unescapeChars.induct with
  | case1 => simp [unescapeChars, Text.replaceAll]
  | case2 rest ih => simp [unescapeChars, Text.replaceAll, ih]
  | case3 rest ih => simp [unescapeChars, Text.replaceAll, ih]
  | case4 c rest hzero hone ih =>
    have hfirst : ¬(c = '~' ∧ ['1'] <+: rest) := by
      rintro ⟨hc, tail, htail⟩
      exact hone tail hc htail.symm
    have hsecond : ¬(c = '~' ∧ ['0'] <+: Text.replaceAll '~' ['1'] ['/'] rest) := by
      rw [zero_prefix_replaceAll_iff]
      rintro ⟨hc, tail, htail⟩
      exact hzero tail hc htail.symm
    rw [Text.replaceAll_of_not _ hfirst, Text.replaceAll_of_not _ hsecond, ← ih, unescapeChars]
    · exact hzero
    · exact hone

/-! ## Written tokens -/

theorem escapeChars_unescapeChars {chars : List Char} (h : IsWritten chars) :
    escapeChars (unescapeChars chars) = chars := by
  induction chars using unescapeChars.induct with
  | case1 => rfl
  | case2 rest ih => rw [unescapeChars, escapeChars, ih h.tail.tail]
  | case3 rest ih => rw [unescapeChars, escapeChars, ih h.tail.tail]
  | case4 c rest hzero hone ih =>
    have hs : c ≠ '/' := by
      rintro rfl
      exact h.slash_not_mem (List.mem_cons_self ..)
    have hc : c ≠ '~' := by
      rintro rfl
      cases rest with
      | nil => simpa using h.escape 0 rfl
      | cons d rest =>
        obtain hd | hd := h.escape 0 rfl
        · exact hzero rest rfl (by simpa using hd)
        · exact hone rest rfl (by simpa using hd)
    rw [unescapeChars_cons_of_ne hc, escapeChars_cons_of_ne hc hs, ih h.tail]

/-- The written tokens are the texts without a slash and with `0` or `1` behind each tilde. -/
theorem exists_escape_eq_iff {written : String} : (∃ token, escape token = written) ↔ IsWritten written.toList := by
  constructor
  · rintro ⟨token, rfl⟩
    rw [escape, String.toList_ofList]
    exact isWritten_escapeChars _
  · intro h
    refine ⟨String.ofList (unescapeChars written.toList), ?_⟩
    rw [escape, String.toList_ofList, escapeChars_unescapeChars h, String.ofList_toList]

theorem length_escapeChars (chars : List Char) :
    (escapeChars chars).length = chars.length + chars.count '~' + chars.count '/' := by
  induction chars using escapeChars.induct with
  | case1 => rfl
  | case2 rest ih => simp [escapeChars, ih]; omega
  | case3 rest ih => simp [escapeChars, ih]; omega
  | case4 c rest hc hs ih =>
    have hc : c ≠ '~' := hc
    have hs : c ≠ '/' := hs
    simp [escapeChars_cons_of_ne hc hs, ih, hc, hs]; omega

theorem escapeChars_of_not_mem {chars : List Char} (hc : '~' ∉ chars) (hs : '/' ∉ chars) :
    escapeChars chars = chars := by
  induction chars with
  | nil => rfl
  | cons c rest ih =>
    rw [List.mem_cons, not_or] at hc hs
    rw [escapeChars_cons_of_ne (Ne.symm hc.1) (Ne.symm hs.1), ih hc.2 hs.2]

theorem escape_eq_self_iff {token : String} : escape token = token ↔ '~' ∉ token.toList ∧ '/' ∉ token.toList := by
  rw [← String.toList_inj, escape, String.toList_ofList]
  constructor
  · intro h
    have hlength := length_escapeChars token.toList
    rw [h] at hlength
    exact ⟨List.count_eq_zero.1 (by omega), List.count_eq_zero.1 (by omega)⟩
  · rintro ⟨hc, hs⟩
    exact escapeChars_of_not_mem hc hs

/-! ## Tokens of a pointer -/

theorem pieces_append (parent : String) (tokens : List String) :
    Text.pieces '/' (append parent tokens).toList =
      Text.pieces '/' parent.toList ++ tokens.map fun token => escapeChars token.toList := by
  induction tokens generalizing parent with
  | nil => exact (List.append_nil _).symm
  | cons token rest ih =>
    show Text.pieces '/' (append (child parent token) rest).toList = _
    rw [ih, toList_child, Text.pieces_append, Text.pieces_of_not_mem (slash_not_mem_escapeChars _), List.append_assoc]
    rfl

theorem append_injective (parent : String) : Function.Injective (append parent) := by
  intro tokens tokens' h
  rw [append_eq parent tokens, append_eq parent tokens', String.append_right_inj] at h
  exact append_inj h

/-- **Tokens are written in a pointer without loss.** What tokens add to a pointer, cut at the slashes, is an empty piece
and one piece for each token, which is read back from it by the two replacements. So different tokens make different
pointers. A token is written by the opposite two replacements; the texts that are written are those without a slash and
with `0` or `1` behind each tilde, and a token is written as it is just if it has neither a tilde nor a slash. -/
theorem append_lossless :
    (∀ parent tokens, ∃ added written, append parent tokens = parent ++ added ∧
        Text.pieces '/' added.toList = [] :: written ∧
        written.map (fun piece => String.ofList (unescapeInSteps piece)) = tokens) ∧
      (∀ parent, Function.Injective (append parent)) ∧
      (∀ token, (escape token).toList = escapeInSteps token.toList) ∧
      (∀ written, (∃ token, escape token = written) ↔ IsWritten written.toList) ∧
      ∀ token, escape token = token ↔ '~' ∉ token.toList ∧ '/' ∉ token.toList := by
  refine ⟨?_, append_injective, ?_, fun _ => exists_escape_eq_iff, fun _ => escape_eq_self_iff⟩
  · intro parent tokens
    have hpieces : Text.pieces '/' (append "" tokens).toList =
        [] :: tokens.map fun token => escapeChars token.toList := by
      rw [pieces_append]
      rfl
    refine ⟨append "" tokens, tokens.map fun token => escapeChars token.toList, append_eq parent tokens, hpieces, ?_⟩
    rw [List.map_map]
    refine (List.map_congr_left fun token _ => ?_).trans (List.map_id _)
    show String.ofList (unescapeInSteps (escapeChars token.toList)) = token
    rw [← unescapeChars_eq_unescapeInSteps, unescapeChars_escapeChars, String.ofList_toList]
  · intro token
    rw [escape, String.toList_ofList, escapeChars_eq_escapeInSteps]

/-- Tokens that look like written ones, and an empty one. -/
theorem append_lossless_tildes :
    append "#" ["~1", "~01", "~/", ""] = "#/~01/~001/~0~1/" ∧ append "#" ["~1"] ≠ append "#" ["/"] ∧
      (escape "~01").toList = escapeInSteps "~01".toList ∧ (¬∃ token, escape token = "~2") ∧ escape "~01" ≠ "~01" := by
  obtain ⟨-, hinjective, hsteps, hwritten, hself⟩ := append_lossless
  refine ⟨by decide +kernel, ?_, hsteps "~01", ?_, ?_⟩
  · intro h
    exact absurd (hinjective "#" h) (by decide)
  · rw [hwritten]
    intro h
    exact absurd (h.escape 0 rfl) (by decide)
  · rw [Ne, hself]
    decide

end Pointer

end Schemata

import Schemata.Example.Text
import Schemata.Proofs.Regex.Match

/-!
# Texts made from an expression

* `pickChar?_mem` : the character picked from a class is in it;
* `Growing.rounds_mem`, `Growing.grow_mem` : how many rounds of a repetition are made;
* `Expr.emit_mem_language` : a text made from an expression is one that it stands for;
* `Expr.emit_sound` : between two anchors it matches as a whole.
-/

namespace Schemata.Regex

/-! ## Classes -/

theorem toNat_ofNat {code : Nat} (valid : code.isValidChar) : (Char.ofNat code).toNat = code := by
  rw [Char.ofNat, dif_pos valid]
  rfl

theorem contains_begin {set : CharSet} (proper : set.isProper) {r : Nat × Nat} (mem : r ∈ set.ranges) :
    (Char.ofNat r.1).toNat = r.1 ∧ set.contains (Char.ofNat r.1) = true := by
  obtain ⟨upwards, valid⟩ := of_decide_eq_true (List.all_eq_true.1 proper r mem)
  refine ⟨toNat_ofNat valid, List.any_eq_true.2 ⟨r, mem, ?_⟩⟩
  simp [toNat_ofNat valid, upwards]

theorem pickChar?_mem {bytes : Bool} {set : CharSet} (proper : set.isProper) {c : Char}
    (picked : pickChar? bytes set = some c) : set.contains c = true ∧ (bytes → c.toNat < 128) := by
  rw [pickChar?] at picked
  cases found : preferredChars.find? set.contains with
  | some preferred =>
    rw [found] at picked
    obtain rfl := Option.some.inj picked
    have ascii : preferredChars.all (fun c => c.toNat < 128) = true := by decide
    have := List.all_eq_true.1 ascii _ (List.mem_of_find?_eq_some found)
    exact ⟨List.find?_some found, fun _ => of_decide_eq_true this⟩
  | none =>
    rw [found] at picked
    obtain ⟨r, found, rfl⟩ := Option.map_eq_some_iff.1 picked
    have begins (mem : r ∈ set.ranges) := contains_begin proper mem
    cases bytes with
    | true =>
      rw [if_pos rfl] at found
      obtain ⟨same, contained⟩ := begins (List.mem_of_find?_eq_some found)
      have ascii : r.1 < 128 := by simpa using List.find?_some found
      exact ⟨contained, fun _ => lt_of_eq_of_lt same ascii⟩
    | false => exact ⟨(begins (List.mem_of_mem_head? found)).2, nofun⟩

/-! ## Repetitions -/

namespace Growing

variable {L : Language Char} {next : Nat → Option Growing}

theorem rounds_mem (sound : ∀ growth more, next growth = some more → more.text ∈ L) {n : Nat} {start made : Growing}
    (h : rounds next n start = some made) : ∃ added ∈ L ^ n, made.text = start.text ++ added := by
  induction n generalizing start with
  | zero => exact ⟨[], by simp, by simp_all [rounds]⟩
  | succ n ih =>
    obtain ⟨more, once, again⟩ := Option.bind_eq_some_iff.1 h
    obtain ⟨added, mem, eq⟩ := ih again
    exact ⟨more.text ++ added, pow_succ' L n ▸ Language.append_mem_mul (sound _ _ once) mem, by simp [eq]⟩

theorem grow_mem (sound : ∀ growth more, next growth = some more → more.text ∈ L) {n : Nat} {start made : Growing}
    (h : grow next n start = some made) : ∃ k ≤ n, ∃ added ∈ L ^ k, made.text = start.text ++ added := by
  induction n generalizing start with
  | zero => exact ⟨0, le_rfl, [], by simp, by simp_all [grow]⟩
  | succ n ih =>
    rw [grow] at h
    split at h
    next => exact ⟨0, by omega, [], by simp, by simp_all⟩
    next =>
      obtain ⟨more, once, again⟩ := Option.bind_eq_some_iff.1 h
      have first := sound _ _ once
      split at again
      next =>
        obtain rfl := Option.some.inj again
        exact ⟨1, by omega, more.text, by rwa [pow_one], rfl⟩
      next =>
        obtain ⟨k, le, added, mem, eq⟩ := ih again
        exact ⟨k + 1, by omega, more.text ++ added, pow_succ' L k ▸ Language.append_mem_mul first mem, by simp [eq]⟩

end Growing

/-! ## Expressions -/

namespace Expr

theorem le_of_le_sub {min k : Nat} {max : Option Nat}
    (le : k ≤ (max.map fun max => Nat.min max roundLimit).getD roundLimit - min) :
    ∀ most ∈ max, min + k = min ∨ min + k ≤ most := by
  rintro most rfl
  rw [Option.map_some, Option.getD_some] at le
  have : Nat.min most roundLimit ≤ most := Nat.min_le_left ..
  omega

mutual

theorem emit_mem_language : ∀ (e : Expr) {growth : Nat} {made : Growing}, e.isProper = true →
    e.emit growth = some made → made.text ∈ e.language
  | empty, _, _, _, h | look _, _, _, _, h | literal _, _, _, _, h => by
    obtain rfl := Option.some.inj h
    rfl
  | charClass bytes set, growth, made, proper, h => by
    obtain ⟨c, picked, rfl⟩ := Option.map_eq_some_iff.1 h
    exact mem_language_charClass.2 ⟨c, rfl, pickChar?_mem proper picked⟩
  | repetition min max greedy body, growth, made, proper, h => by
    have sound growth more : emit growth body = some more → more.text ∈ body.language :=
      emit_mem_language body proper
    rw [emit] at h
    split at h
    next => exact absurd h nofun
    next =>
      obtain ⟨least, rounds, grown⟩ := Option.bind_eq_some_iff.1 h
      obtain ⟨first, memFirst, eqFirst⟩ := Growing.rounds_mem sound rounds
      obtain ⟨k, le, added, memAdded, eq⟩ := Growing.grow_mem sound grown
      refine mem_language_repetition.2 ⟨min + k, by omega, le_of_le_sub le, ?_⟩
      rw [eq, eqFirst, List.nil_append, pow_add]
      exact Language.append_mem_mul memFirst memAdded
  | capture _ body, _, _, proper, h => emit_mem_language body proper h
  | concat parts, _, _, proper, h => emitAll_mem parts (listLeaves_eq_true.1 proper) h
  | alternation branches, _, _, proper, h => emitFirst_mem branches (listLeaves_eq_true.1 proper) h

theorem emitAll_mem : ∀ (parts : List Expr) {growth : Nat} {made : Growing}, (∀ e ∈ parts, e.isProper = true) →
    emitAll growth parts = some made → made.text ∈ listProduct parts
  | [], _, _, _, h => by
    obtain rfl := Option.some.inj h
    rfl
  | e :: rest, growth, made, proper, h => by
    obtain ⟨first, one, h⟩ := Option.bind_eq_some_iff.1 h
    obtain ⟨others, all, h⟩ := Option.bind_eq_some_iff.1 h
    obtain rfl := Option.some.inj h
    obtain ⟨properFirst, properRest⟩ := List.forall_mem_cons.1 proper
    exact Language.append_mem_mul (emit_mem_language e properFirst one) (emitAll_mem rest properRest all)

theorem emitFirst_mem : ∀ (branches : List Expr) {growth : Nat} {made : Growing}, (∀ e ∈ branches, e.isProper = true) →
    emitFirst growth branches = some made → made.text ∈ listSum branches
  | [], _, _, _, h => nomatch h
  | e :: _, _, _, proper, h => .inl (emit_mem_language e (proper e List.mem_cons_self) h)

end

/-! ## Anchors -/

def isBeginAnchor : Expr → Bool
  | look .startText | look (.startLine _) => true
  | _ => false

def isEndAnchor : Expr → Bool
  | look .endText | look (.endLine _) => true
  | _ => false

theorem spans_begin {anchor : Expr} (h : anchor.isBeginAnchor = true) (text : List Char) : anchor.Spans text 0 0 := by
  match anchor, h with
  | look .startText, _ | look (.startLine _), _ => exact ⟨⟨Nat.zero_le _, rfl⟩, rfl⟩

theorem spans_end {anchor : Expr} (h : anchor.isEndAnchor = true) (text : List Char) :
    anchor.Spans text text.length text.length := by
  match anchor, h with
  | look .endText, _ | look (.endLine _), _ =>
    exact ⟨⟨le_rfl, by simp [Look.holds]⟩, rfl⟩

theorem language_anchor {anchor : Expr} (h : anchor.isBeginAnchor = true ∨ anchor.isEndAnchor = true) :
    anchor.language = 1 := by
  match anchor, h with
  | look _, _ => rw [language]

/-- What stands between the anchors takes the whole text, so that they are met at its begin and end. -/
theorem spans_anchored {first last : Expr} (begins : first.isBeginAnchor = true) (ends : last.isEndAnchor = true)
    {parts : List Expr} (free : ∀ e ∈ parts, e.isLookFree = true) {text : List Char}
    (mem : text ∈ (concat (first :: parts ++ [last])).language) :
    (concat (first :: parts ++ [last])).Spans text 0 text.length := by
  rw [language, List.cons_append, listProduct, listProduct_append, listProduct, listProduct,
    language_anchor (.inl begins), language_anchor (.inr ends), one_mul, one_mul, mul_one] at mem
  have between := spansAll_of_takes parts free 0 text.length ⟨text, mem, List.prefix_refl _, by rw [Nat.zero_add]⟩
  exact ⟨0, spans_begin begins text, spansAll_append.2 ⟨_, between, _, spans_end ends text, rfl⟩⟩

/-- **What is made from an expression follows it**, however much it is grown: it is one of the texts that the expression
stands for, and between an anchor at the begin and one at the end it matches as a whole. -/
theorem emit_sound {e : Expr} (proper : e.isProper = true) {growth : Nat} {made : Growing}
    (h : e.emit growth = some made) :
    made.text ∈ e.language ∧
      ∀ first parts last, e = concat (first :: parts ++ [last]) → first.isBeginAnchor = true →
        last.isEndAnchor = true → (∀ part ∈ parts, part.isLookFree = true) →
          e.Spans made.text 0 made.text.length ∧ e.isMatch (String.ofList made.text) = true := by
  have mem := emit_mem_language e proper h
  refine ⟨mem, ?_⟩
  rintro first parts last rfl begins ends free
  have spans := spans_anchored begins ends free mem
  refine ⟨spans, (isMatch_iff _ _).2 ⟨0, Nat.zero_le _, made.text.length, ?_⟩⟩
  rwa [String.toList_ofList]

/-- The expression of `^[a-z]{1,2}(-[a-z]+)*$`. -/
def hyphenated : Expr :=
  let letters := charClass false ⟨[(97, 122)]⟩
  let tail := capture 1 (concat [literal ['-'], repetition 1 none true letters])
  concat [look .startText, repetition 1 (some 2) true letters, repetition 0 none true tail, look .endText]

/-- Four more characters: one for the first word, then a second word that takes the rest. -/
theorem emit_sound_hyphenated :
    hyphenated.emit 4 = some ⟨"aa-aaaa".toList, 0⟩ ∧ "aa-aaaa".toList ∈ hyphenated.language ∧
      hyphenated.Spans "aa-aaaa".toList 0 7 ∧ hyphenated.isMatch (String.ofList "aa-aaaa".toList) = true := by
  have made : hyphenated.emit 4 = some ⟨"aa-aaaa".toList, 0⟩ := by rfl
  obtain ⟨mem, anchored⟩ := emit_sound (by decide) made
  exact ⟨made, mem, anchored _ [_, _] _ rfl rfl rfl (by decide)⟩

end Expr

end Schemata.Regex

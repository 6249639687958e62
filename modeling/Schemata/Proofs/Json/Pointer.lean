import Schemata.Field.Path
import Schemata.Proofs.Json.Names

/-!
# Pointers lead where their tokens say

* `Pointer.unescapeChars_escapeChars`, `Pointer.isWritten_escapeChars` : a written token can be read back, and has no
  `/`, and `0` or `1` behind each `~`;
* `Pointer.tokens?_child` : a pointer with one more token has that token last;
* `Pointer.position?_toString` : a written position can be read back;
* `Pointer.append_eq_or_isPrefix_iff` : the pointers at a place and below it are those with further tokens;
* `Json.atPointer?_toPointer` : the pointer of a path leads along the steps of the path.
-/

namespace Schemata

namespace Pointer

/-! ## Tokens -/

theorem unescapeChars_cons_of_ne {c : Char} (h : c ≠ '~') (rest : List Char) :
    unescapeChars (c :: rest) = c :: unescapeChars rest := by
  rw [unescapeChars]
  · rintro rest rfl
    exact absurd rfl h
  · rintro rest rfl
    exact absurd rfl h

theorem unescapeChars_escapeChars (chars : List Char) : unescapeChars (escapeChars chars) = chars := by
  induction chars using escapeChars.induct with
  | case1 => rfl
  | case2 rest ih => rw [escapeChars, unescapeChars, ih]
  | case3 rest ih => rw [escapeChars, unescapeChars, ih]
  | case4 c rest hc hs ih => rw [escapeChars, unescapeChars_cons_of_ne hc, ih] <;> assumption

/-- The text has no slash, and `0` or `1` behind each tilde. -/
structure IsWritten (chars : List Char) : Prop where
  slash_not_mem : '/' ∉ chars
  escape (i : Nat) : chars[i]? = some '~' → chars[i + 1]? = some '0' ∨ chars[i + 1]? = some '1'

theorem IsWritten.tail {c : Char} {rest : List Char} (h : IsWritten (c :: rest)) : IsWritten rest where
  slash_not_mem := fun hslash => h.slash_not_mem (List.mem_cons_of_mem _ hslash)
  escape i hi := by simpa using h.escape (i + 1) (by simpa using hi)

theorem IsWritten.cons {c : Char} {rest : List Char} (h : IsWritten rest) (hc : c ≠ '~') (hs : c ≠ '/') :
    IsWritten (c :: rest) where
  slash_not_mem := by simpa [Ne.symm hs] using h.slash_not_mem
  escape i hi := by
    cases i with
    | zero => exact absurd (by simpa using hi) hc
    | succ i => simpa using h.escape i (by simpa using hi)

theorem IsWritten.escaped {d : Char} {rest : List Char} (h : IsWritten rest) (hd : d = '0' ∨ d = '1') :
    IsWritten ('~' :: d :: rest) := by
  have hbehind : IsWritten (d :: rest) := by
    rcases hd with rfl | rfl
    · exact h.cons (by decide) (by decide)
    · exact h.cons (by decide) (by decide)
  constructor
  · simpa using hbehind.slash_not_mem
  · intro i hi
    cases i with
    | zero => simpa using hd
    | succ i => simpa using hbehind.escape i (by simpa using hi)

theorem escapeChars_cons_of_ne {c : Char} (hc : c ≠ '~') (hs : c ≠ '/') (rest : List Char) :
    escapeChars (c :: rest) = c :: escapeChars rest := by
  rw [escapeChars]
  · exact hc
  · exact hs

theorem isWritten_escapeChars (chars : List Char) : IsWritten (escapeChars chars) := by
  induction chars using escapeChars.induct with
  | case1 => exact ⟨List.not_mem_nil, fun i hi => by simp [escapeChars] at hi⟩
  | case2 rest ih => exact ih.escaped (.inl rfl)
  | case3 rest ih => exact ih.escaped (.inr rfl)
  | case4 c rest hc hs ih =>
    rw [escapeChars_cons_of_ne hc hs]
    exact ih.cons hc hs

theorem slash_not_mem_escapeChars (chars : List Char) : '/' ∉ escapeChars chars :=
  (isWritten_escapeChars chars).slash_not_mem

/-! ## Pointers -/

theorem toList_child (parent token : String) :
    (child parent token).toList = parent.toList ++ '/' :: escapeChars token.toList := by
  simp [child, escape]

theorem tokens?_child {parent : String} {tokens : List String} (h : tokens? parent = some tokens)
    (token : String) : tokens? (child parent token) = some (tokens ++ [token]) := by
  have hpieces : Text.pieces '/' (escapeChars token.toList) = [escapeChars token.toList] :=
    Text.pieces_of_not_mem (slash_not_mem_escapeChars _)
  unfold tokens? at h ⊢
  rw [toList_child]
  cases hp : parent.toList with
  | nil =>
    rw [hp] at h
    cases h
    simp [hpieces, unescapeChars_escapeChars]
  | cons c rest =>
    rw [hp] at h
    by_cases hc : c = '/'
    · subst hc
      cases h
      simp [Text.pieces_append, hpieces, unescapeChars_escapeChars]
    · simp [hc] at h

theorem tokens?_append {parent : String} {front : List String} (h : tokens? parent = some front)
    (tokens : List String) : tokens? (append parent tokens) = some (front ++ tokens) := by
  induction tokens generalizing parent front with
  | nil => simpa [append] using h
  | cons token rest ih =>
    have := ih (tokens?_child h token)
    rwa [List.append_assoc, List.singleton_append] at this

theorem tokens?_empty : tokens? "" = some [] := by simp [tokens?]

theorem append_eq (parent : String) (tokens : List String) :
    append parent tokens = parent ++ append "" tokens := by
  induction tokens generalizing parent with
  | nil => exact (String.append_empty).symm
  | cons token rest ih =>
    show append (child parent token) rest = parent ++ append (child "" token) rest
    rw [ih (child parent token), ih (child "" token)]
    simp [child, String.append_assoc]

/-! ## Positions -/

theorem digitsValue_toDigits (n : Nat) : Text.digitsValue (Nat.toDigits 10 n) = n :=
  Nat.ofDigitChars_ten_toDigits

theorem toDigits_head_ne_zero {n : Nat} (h : 0 < n) (rest : List Char) :
    Nat.toDigits 10 n ≠ '0' :: rest := by
  induction n using Nat.strongRecOn generalizing rest with
  | ind n ih =>
    by_cases hn : n < 10
    · rw [Nat.toDigits_of_lt_base hn]
      intro heq
      have : n.digitChar = '0' := (List.cons.inj heq).1
      simp at this
      omega
    · rw [Nat.toDigits_of_base_le (by omega) (by omega)]
      intro heq
      cases hd : Nat.toDigits 10 (n / 10) with
      | nil => exact Nat.toDigits_ne_nil hd
      | cons c cs =>
        rw [hd, List.cons_append] at heq
        obtain ⟨rfl, -⟩ := List.cons.inj heq
        exact ih (n / 10) (by omega) (by omega) cs hd

theorem position?_toString (n : Nat) : position? (toString n) = some n := by
  have hl : (toString n).toList = Nat.toDigits 10 n := Nat.toList_repr
  by_cases h0 : n = 0
  · subst h0
    rfl
  · have hall : (Nat.toDigits 10 n).all Char.isDigit = true :=
      List.all_eq_true.2 fun c hc => Nat.isDigit_of_mem_toDigits (by decide) (by decide) hc
    unfold position?
    rw [hl]
    split
    · next hnil => exact absurd hnil Nat.toDigits_ne_nil
    · next hzero => exact absurd hzero (toDigits_head_ne_zero (by omega) [])
    · next hzero => exact absurd hzero (toDigits_head_ne_zero (by omega) _)
    · rw [if_pos hall, digitsValue_toDigits]

end Pointer

theorem FieldPath.tokens?_toPointer (path : FieldPath) :
    Pointer.tokens? path.toPointer = some (path.map Segment.text) :=
  Pointer.tokens?_append Pointer.tokens?_empty _

/-! ## Pointers below a place -/

namespace Pointer

theorem append_append (parent : String) (front rest : List String) :
    append parent (front ++ rest) = append (append parent front) rest :=
  List.foldl_append

theorem append_inj {tokens tokens' : List String} (h : append "" tokens = append "" tokens') :
    tokens = tokens' := by
  have ht := tokens?_append tokens?_empty tokens
  rw [h, tokens?_append tokens?_empty] at ht
  exact (Option.some.inj ht).symm

theorem slash_isPrefix_append (parent token : String) (rest : List String) :
    (parent ++ "/").toList <+: (append parent (token :: rest)).toList := by
  induction rest generalizing parent token with
  | nil =>
    refine ⟨escapeChars token.toList, ?_⟩
    simp [append, toList_child]
  | cons next rest ih =>
    have hbelow := ih (child parent token) next
    have hhere : (parent ++ "/").toList <+: (child parent token ++ "/").toList := by
      simp [toList_child, List.append_assoc]
    exact hhere.trans hbelow

/-- A text that goes on behind the slash after a pointer has its tokens and further ones. -/
theorem tokens?_of_slash_isPrefix {pointer text : String} {tokens : List String} (h : tokens? pointer = some tokens)
    (hp : (pointer ++ "/").toList <+: text.toList) : ∃ rest, tokens? text = some (tokens ++ rest) := by
  obtain ⟨tail, htail⟩ := hp
  unfold tokens? at h ⊢
  rw [String.toList_append] at htail
  rw [← htail]
  cases hc : pointer.toList with
  | nil =>
    rw [hc] at h
    obtain rfl := Option.some.inj h
    exact ⟨_, rfl⟩
  | cons c front =>
    rw [hc] at h
    by_cases hslash : c = '/'
    · subst hslash
      obtain rfl := Option.some.inj h
      have hlist : ('/' :: front ++ "/".toList) ++ tail = '/' :: (front ++ '/' :: tail) := by simp
      refine ⟨(Text.pieces '/' tail).map fun piece => String.ofList (unescapeChars piece), ?_⟩
      rw [hlist, ← List.map_append, ← Text.pieces_append]
      rfl
    · simp [hslash] at h

/-- The pointers at a place and below it are those with further tokens. -/
theorem append_eq_or_isPrefix_iff {tokens tokens' : List String} :
    (append "" tokens' = append "" tokens ∨ (append "" tokens ++ "/").toList <+: (append "" tokens').toList) ↔
      tokens <+: tokens' := by
  constructor
  · rintro (h | h)
    · exact (append_inj h) ▸ List.prefix_refl _
    · obtain ⟨rest, hrest⟩ := tokens?_of_slash_isPrefix (tokens?_append tokens?_empty tokens) h
      rw [tokens?_append tokens?_empty] at hrest
      exact ⟨rest, (Option.some.inj hrest).symm⟩
  · rintro ⟨rest, rfl⟩
    rw [append_append]
    cases rest with
    | nil => exact .inl rfl
    | cons token rest => exact .inr (slash_isPrefix_append _ token rest)

end Pointer

/-! ## Places in a value -/

namespace Json

theorem atTokens?_concat (value : Json) (tokens : List String) (token : String) :
    value.atTokens? (tokens ++ [token]) = (value.atTokens? tokens).bind fun v => v.step? token := by
  unfold atTokens?
  rw [List.foldlM_append]
  cases List.foldlM step? value tokens with
  | none => rfl
  | some v => simp

theorem step?_name (members : List (String × Json)) (name : String) :
    (Json.object members).step? name = members.lookup name := rfl

theorem step?_index (values : List Json) (i : Nat) :
    (Json.array values).step? (toString i) = values[i]? := by
  unfold step?
  dsimp only
  rw [Pointer.position?_toString]
  rfl

theorem HasPart.of_step? {value part : Json} {token : String} (h : value.step? token = some part) :
    value.HasPart part := by
  unfold step? at h
  split at h
  · exact .of_lookup h
  · obtain ⟨i, -, hi⟩ := Option.bind_eq_some_iff.1 h
    exact .item (List.mem_of_getElem? hi)
  · cases h

/-- **The pointer of a path** leads along the steps of the path. -/
theorem atPointer?_toPointer (value : Json) (path : FieldPath) :
    value.atPointer? path.toPointer = value.atTokens? (path.map Segment.text) := by
  rw [atPointer?, FieldPath.tokens?_toPointer]
  rfl

end Json

end Schemata

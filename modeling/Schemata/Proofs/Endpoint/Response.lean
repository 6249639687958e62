import Schemata.Proofs.Endpoint.Content
import Schemata.Proofs.Json.Position

/-!
# The main response of an operation

* `Endpoint.IsSuccess` : a key of responses writes the code of a success;
* `Endpoint.successCode?_eq_some_iff` : it is read as that code then;
* `Endpoint.IsMain` : the main response, and `Endpoint.mainResponse?_eq_some_iff` : it is chosen;
* `Endpoint.mainResponse?_perm` : it is the same one in another order, if no two successes have the same code.
-/

namespace Schemata

namespace Endpoint

/-! ## Codes of successes -/

/-- The key writes the code of a success: the number, maybe with zeros before it, and a plus sign before these. -/
structure IsSuccess (key : String) (code : Nat) : Prop where
  least : 200 ≤ code
  below : code < 300
  written : ∃ sign ∈ ["", "+"], ∃ zeros, key = sign ++ String.ofList (List.replicate zeros '0') ++ toString code

def unsigned : List Char → List Char
  | '+' :: rest => rest
  | chars => chars

/-- The code that digits write, if it is that of a success. -/
def codeOfDigits? (digits : List Char) : Option Nat :=
  if digits.isEmpty || !digits.all Char.isDigit then none
  else if 200 ≤ Text.digitsValue digits ∧ Text.digitsValue digits < 300 then some (Text.digitsValue digits) else none

theorem successCode?_eq (key : String) : successCode? key = codeOfDigits? (unsigned key.toList) := rfl

theorem isDigit_of_mem_zeros_append {zeros code : Nat} {c : Char}
    (h : c ∈ List.replicate zeros '0' ++ Nat.toDigits 10 code) : c.isDigit = true := by
  rcases List.mem_append.1 h with hzero | hdigit
  · obtain rfl := List.eq_of_mem_replicate hzero
    rfl
  · exact Nat.isDigit_of_mem_toDigits (by decide) (by decide) hdigit

theorem codeOfDigits?_eq_some_iff {digits : List Char} {code : Nat} :
    codeOfDigits? digits = some code ↔
      (200 ≤ code ∧ code < 300) ∧ ∃ zeros, digits = List.replicate zeros '0' ++ Nat.toDigits 10 code := by
  unfold codeOfDigits?
  constructor
  · intro h
    split at h
    · cases h
    · next hdigits =>
      split at h
      · next hrange =>
        obtain rfl := Option.some.inj h
        obtain ⟨-, hall⟩ : digits ≠ [] ∧ ∀ d ∈ digits, d.isDigit = true := by simpa using hdigits
        exact ⟨hrange, Text.exists_zeros hall (by omega)⟩
      · cases h
  · rintro ⟨hrange, zeros, rfl⟩
    have hvalue : Text.digitsValue (List.replicate zeros '0' ++ Nat.toDigits 10 code) = code := by
      rw [Text.digitsValue_zeros, Pointer.digitsValue_toDigits]
    have hall : (List.replicate zeros '0' ++ Nat.toDigits 10 code).all Char.isDigit = true :=
      List.all_eq_true.2 fun c hc => isDigit_of_mem_zeros_append hc
    have hempty : (List.replicate zeros '0' ++ Nat.toDigits 10 code).isEmpty = false := by
      simp [Nat.toDigits_ne_nil]
    rw [hvalue, hall, hempty, if_pos hrange]
    rfl

theorem exists_sign (chars : List Char) : ∃ sign ∈ ["", "+"], chars = sign.toList ++ unsigned chars := by
  unfold unsigned
  split
  · exact ⟨"+", by simp, rfl⟩
  · exact ⟨"", by simp, rfl⟩

theorem unsigned_sign_append {sign : String} (hs : sign ∈ ["", "+"]) {digits : List Char}
    (h : ∀ d ∈ digits, d.isDigit = true) : unsigned (sign.toList ++ digits) = digits := by
  have hplus : sign = "" ∨ sign = "+" := by simpa using hs
  rcases hplus with rfl | rfl
  · cases digits with
    | nil => rfl
    | cons d rest =>
      have hd : d ≠ '+' := by
        rintro rfl
        exact absurd (h '+' (List.mem_cons_self ..)) (by decide)
      show unsigned (d :: rest) = d :: rest
      unfold unsigned
      split
      · next heq => exact absurd (List.cons.inj heq).1 hd
      · rfl
  · rfl

theorem successCode?_eq_some_iff {key : String} {code : Nat} : successCode? key = some code ↔ IsSuccess key code := by
  rw [successCode?_eq, codeOfDigits?_eq_some_iff]
  constructor
  · rintro ⟨⟨hleast, hbelow⟩, zeros, hdigits⟩
    obtain ⟨sign, hsign, hkey⟩ := exists_sign key.toList
    refine ⟨hleast, hbelow, sign, hsign, zeros, ?_⟩
    apply String.toList_inj.1
    rw [hkey, hdigits]
    simp [Nat.toList_repr]
  · rintro ⟨hleast, hbelow, sign, hsign, zeros, rfl⟩
    refine ⟨⟨hleast, hbelow⟩, zeros, ?_⟩
    have hkey : (sign ++ String.ofList (List.replicate zeros '0') ++ toString code).toList =
        sign.toList ++ (List.replicate zeros '0' ++ Nat.toDigits 10 code) := by
      simp [Nat.toList_repr]
    rw [hkey]
    exact unsigned_sign_append hsign fun d hd => isDigit_of_mem_zeros_append hd

/-! ## The main response -/

/-- The main response of those declared: the success with the lowest code, the first one of equal codes, or else the
default. -/
inductive IsMain (responses : List (String × Json)) : Json → Prop
  | success {key response code} (lowest : FirstLowest (fun entry => IsSuccess entry.1) responses (key, response) code) :
      IsMain responses response
  | default {response} (none : ∀ entry ∈ responses, ∀ code, ¬ IsSuccess entry.1 code)
      (there : responses.lookup "default" = some response) : IsMain responses response

/-- The responses that are successes, with their codes. -/
def successes (responses : List (String × Json)) : List (Nat × Json) :=
  responses.filterMap fun (key, response) => (successCode? key).map fun code => (code, response)

theorem mainResponse?_eq (responses : List (String × Json)) :
    mainResponse? responses = ((lowest? (successes responses)).map Prod.snd).or (responses.lookup "default") := rfl

theorem IsSuccess.unique {key : String} {code code' : Nat} (h : IsSuccess key code) (h' : IsSuccess key code') :
    code = code' := by
  have hcode := successCode?_eq_some_iff.2 h
  rw [successCode?_eq_some_iff.2 h'] at hcode
  exact (Option.some.inj hcode).symm

theorem not_isSuccess_of_successCode? {key : String} (h : successCode? key = none) (code : Nat) :
    ¬ IsSuccess key code := by
  intro hcode
  rw [successCode?_eq_some_iff.2 hcode] at h
  cases h

theorem successes_eq_nil_iff {responses : List (String × Json)} :
    successes responses = [] ↔ ∀ entry ∈ responses, ∀ code, ¬ IsSuccess entry.1 code := by
  rw [successes, List.filterMap_eq_nil_iff]
  constructor
  · intro h entry hm
    exact not_isSuccess_of_successCode? (Option.map_eq_none_iff.1 (h entry hm))
  · intro h entry hm
    refine Option.map_eq_none_iff.2 (Option.eq_none_iff_forall_ne_some.2 ?_)
    intro code hcode
    exact h entry hm code (successCode?_eq_some_iff.1 hcode)

theorem lowest?_eq_none_iff {entries : List (Nat × Json)} : lowest? entries = none ↔ entries = [] := by
  cases entries with
  | nil => exact ⟨fun _ => rfl, fun _ => rfl⟩
  | cons entry rest =>
    obtain ⟨code, response⟩ := entry
    refine ⟨fun h => ?_, nofun⟩
    unfold lowest? at h
    split at h
    · split at h <;> cases h
    · cases h

theorem exists_firstLowest {responses : List (String × Json)} {code : Nat} {response : Json}
    (h : lowest? (successes responses) = some (code, response)) :
    ∃ key, FirstLowest (fun entry => IsSuccess entry.1) responses (key, response) code := by
  -- The induction is on the responses and not on the successes, which have lost their keys.
  induction responses generalizing code response with
  | nil => cases h
  | cons entry rest ih =>
    obtain ⟨key, first⟩ := entry
    cases hkey : successCode? key with
    | none =>
      have hrest : successes ((key, first) :: rest) = successes rest := by simp [successes, hkey]
      rw [hrest] at h
      obtain ⟨key', hlowest⟩ := ih h
      exact ⟨key', hlowest.cons fun r hr => absurd hr (not_isSuccess_of_successCode? hkey r)⟩
    | some c =>
      have hsuccess : IsSuccess key c := successCode?_eq_some_iff.1 hkey
      have hrest : successes ((key, first) :: rest) = (c, first) :: successes rest := by simp [successes, hkey]
      rw [hrest, lowest?] at h
      cases hlow : lowest? (successes rest) with
      | none =>
        rw [hlow] at h
        cases h
        have hnone := successes_eq_nil_iff.1 (lowest?_eq_none_iff.1 hlow)
        exact ⟨key, .head hsuccess fun other hm r hr => absurd hr (hnone other hm r)⟩
      | some lowest =>
        obtain ⟨c', other⟩ := lowest
        obtain ⟨key', hlowest⟩ := ih hlow
        rw [hlow] at h
        dsimp only at h
        split at h
        · next hlt =>
          cases h
          refine ⟨key', hlowest.cons fun r hr => ?_⟩
          rwa [hr.unique hsuccess]
        · next hge =>
          cases h
          refine ⟨key, .head hsuccess fun other hm r hr => ?_⟩
          have hle : c' ≤ r := hlowest.le (fun _ => hlowest.ranked.unique) hm hr
          omega

theorem isMain_of_mainResponse? {responses : List (String × Json)} {response : Json}
    (h : mainResponse? responses = some response) : IsMain responses response := by
  rw [mainResponse?_eq] at h
  cases hlow : lowest? (successes responses) with
  | none =>
    rw [hlow] at h
    exact .default (successes_eq_nil_iff.1 (lowest?_eq_none_iff.1 hlow)) h
  | some lowest =>
    obtain ⟨code, first⟩ := lowest
    rw [hlow] at h
    cases h
    obtain ⟨key, hlowest⟩ := exists_firstLowest hlow
    exact .success hlowest

theorem IsMain.unique {responses : List (String × Json)} {response response' : Json} (h : IsMain responses response)
    (h' : IsMain responses response') : response = response' := by
  cases h with
  | success lowest =>
    cases h' with
    | success lowest' => exact (Prod.mk.inj (lowest.unique lowest')).2
    | default none' _ => exact absurd lowest.ranked (none' _ lowest.mem _)
  | default none there =>
    cases h' with
    | success lowest' => exact absurd lowest'.ranked (none _ lowest'.mem _)
    | default _ there' => exact Option.some.inj (there.symm.trans there')

/-- There is no main response if and only if there is neither a success nor a default. -/
theorem mainResponse?_eq_none_iff {responses : List (String × Json)} :
    mainResponse? responses = none ↔
      (∀ entry ∈ responses, ∀ code, ¬ IsSuccess entry.1 code) ∧ responses.lookup "default" = none := by
  rw [mainResponse?_eq, Option.or_eq_none_iff, Option.map_eq_none_iff, lowest?_eq_none_iff, successes_eq_nil_iff]

theorem mainResponse?_eq_some_iff {responses : List (String × Json)} {response : Json} :
    mainResponse? responses = some response ↔ IsMain responses response := by
  constructor
  · exact isMain_of_mainResponse?
  · intro h
    cases hmain : mainResponse? responses with
    | some other => rw [(isMain_of_mainResponse? hmain).unique h]
    | none =>
      obtain ⟨hnone, hdefault⟩ := mainResponse?_eq_none_iff.1 hmain
      cases h with
      | success lowest => exact absurd lowest.ranked (hnone _ lowest.mem _)
      | default _ there => rw [hdefault] at there; cases there

theorem exists_isMain {responses : List (String × Json)}
    (h : (∃ entry ∈ responses, ∃ code, IsSuccess entry.1 code) ∨
      ∃ response, responses.lookup "default" = some response) : ∃ response, IsMain responses response := by
  cases hmain : mainResponse? responses with
  | some response => exact ⟨response, mainResponse?_eq_some_iff.1 hmain⟩
  | none =>
    obtain ⟨hnone, hdefault⟩ := mainResponse?_eq_none_iff.1 hmain
    rcases h with ⟨entry, hm, code, hcode⟩ | ⟨response, hthere⟩
    · exact absurd hcode (hnone entry hm code)
    · rw [hdefault] at hthere
      cases hthere

theorem IsMain.perm {responses responses' : List (String × Json)} {response : Json} (h : IsMain responses response)
    (hnames : (responses.map Prod.fst).Nodup)
    (hcodes : responses.Pairwise fun a b => ∀ code, IsSuccess a.1 code → ¬ IsSuccess b.1 code)
    (hp : responses.Perm responses') : IsMain responses' response := by
  cases h with
  | success lowest => exact .success (lowest.perm (fun _ => lowest.ranked.unique) hcodes hp)
  | default none there =>
    refine .default (fun entry hm => none entry (hp.mem_iff.2 hm)) ?_
    rw [Names.lookup_perm hnames hp]
    exact there

theorem mainResponse?_perm {responses responses' : List (String × Json)} (hnames : (responses.map Prod.fst).Nodup)
    (hcodes : responses.Pairwise fun a b => ∀ code, IsSuccess a.1 code → ¬ IsSuccess b.1 code)
    (hp : responses.Perm responses') : mainResponse? responses' = mainResponse? responses := by
  cases hmain : mainResponse? responses with
  | some response => exact mainResponse?_eq_some_iff.2 ((mainResponse?_eq_some_iff.1 hmain).perm hnames hcodes hp)
  | none =>
    obtain ⟨hnone, hdefault⟩ := mainResponse?_eq_none_iff.1 hmain
    refine mainResponse?_eq_none_iff.2 ⟨fun entry hm => hnone entry (hp.mem_iff.2 hm), ?_⟩
    rw [Names.lookup_perm hnames hp]
    exact hdefault

end Endpoint

end Schemata

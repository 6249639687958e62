import Mathlib.Tactic.ByContra
import Schemata.Endpoint
import Schemata.Proofs.Json.Names

/-!
# The schema of a body

* `FirstLowest` : the first entry of the lowest rank; it is the only one (`FirstLowest.unique`), and stays it in another
  order if no other entry has its rank (`FirstLowest.perm`);
* `Endpoint.Declares`, `Endpoint.Prefers` : the media types that a body declares, and the one of them that it prefers;
* `Endpoint.media?_eq_some_iff` : that one is chosen, whether it has a schema or not;
* `Endpoint.contentSchema_eq_found_iff`, `Endpoint.contentSchema_eq_noJsonContent_iff` : so the schema of the body is
  the one that it has;
* `Endpoint.contentSchema_tells_iff` : when the answer that there is none speaks of all media types.
-/

namespace Schemata

/-! ## The first of the lowest rank -/

/-- The entry has the rank, entries before it have higher ones, and those behind it no lower ones; there may be entries
without rank. -/
structure FirstLowest {α : Type} (ranks : α → Nat → Prop) (entries : List α) (entry : α) (rank : Nat) : Prop where
  ranked : ranks entry rank
  placed : ∃ front rest, entries = front ++ entry :: rest ∧ (∀ other ∈ front, ∀ r, ranks other r → rank < r) ∧
    ∀ other ∈ rest, ∀ r, ranks other r → rank ≤ r

namespace FirstLowest

variable {α : Type} {ranks : α → Nat → Prop} {entries entries' : List α} {entry other : α} {rank rank' : Nat}

theorem mem (h : FirstLowest ranks entries entry rank) : entry ∈ entries := by
  obtain ⟨front, rest, rfl, -⟩ := h.placed
  exact List.mem_append_right _ (List.mem_cons_self ..)

theorem of_append {rankOf : α → Nat} {front rest : List α} (here : rankOf entry = rank)
    (hfront : ∀ other ∈ front, rank < rankOf other) (hrest : ∀ other ∈ rest, rank ≤ rankOf other) :
    FirstLowest (fun entry rank => rankOf entry = rank) (front ++ entry :: rest) entry rank :=
  ⟨here, front, rest, rfl, fun other hm _ hr => hr ▸ hfront other hm, fun other hm _ hr => hr ▸ hrest other hm⟩

theorem head (hr : ranks entry rank) (h : ∀ other ∈ entries, ∀ r, ranks other r → rank ≤ r) :
    FirstLowest ranks (entry :: entries) entry rank :=
  ⟨hr, [], entries, rfl, fun _ hm => absurd hm List.not_mem_nil, h⟩

theorem cons (h : FirstLowest ranks entries entry rank) (hfirst : ∀ r, ranks other r → rank < r) :
    FirstLowest ranks (other :: entries) entry rank := by
  obtain ⟨front, rest, rfl, hfront, hrest⟩ := h.placed
  refine ⟨h.ranked, other :: front, rest, rfl, ?_, hrest⟩
  intro before hm r hr
  rcases List.mem_cons.1 hm with rfl | hm
  · exact hfirst r hr
  · exact hfront before hm r hr

theorem le (h : FirstLowest ranks entries entry rank) (hsame : ∀ r, ranks entry r → rank = r) (ho : other ∈ entries)
    {r : Nat} (hr : ranks other r) : rank ≤ r := by
  obtain ⟨front, rest, rfl, hfront, hrest⟩ := h.placed
  rcases List.mem_append.1 ho with hm | hm
  · exact Nat.le_of_lt (hfront other hm r hr)
  · rcases List.mem_cons.1 hm with rfl | hm
    · exact Nat.le_of_eq (hsame r hr)
    · exact hrest other hm r hr

/-- An entry of which no later one has a lower rank is not before another one that has a lower rank than those before
it. -/
theorem eq_of_append {between rest rest' : List α} (hr : ranks entry rank) (hr' : ranks other rank')
    (hrest : ∀ later ∈ rest, ∀ r, ranks later r → rank ≤ r) (hbetween : ∀ b ∈ between, ∀ r, ranks b r → rank' < r)
    (h : entry :: rest = between ++ other :: rest') : entry = other := by
  cases between with
  | nil => exact (List.cons.inj h).1
  | cons first between =>
    obtain ⟨rfl, rfl⟩ := List.cons.inj h
    have hlt : rank' < rank := hbetween entry (List.mem_cons_self ..) rank hr
    have hle : rank ≤ rank' := hrest other (by simp) rank' hr'
    omega

theorem unique (h : FirstLowest ranks entries entry rank) (h' : FirstLowest ranks entries other rank') :
    entry = other := by
  obtain ⟨front, rest, rfl, hfront, hrest⟩ := h.placed
  obtain ⟨front', rest', heq, hfront', hrest'⟩ := h'.placed
  rcases List.append_eq_append_iff.1 heq with ⟨between, rfl, hbetween⟩ | ⟨between, rfl, hbetween⟩
  · exact eq_of_append h.ranked h'.ranked hrest (fun b hb => hfront' b (List.mem_append_right _ hb)) hbetween
  · exact (eq_of_append h'.ranked h.ranked hrest' (fun b hb => hfront b (List.mem_append_right _ hb)) hbetween).symm

theorem perm (h : FirstLowest ranks entries entry rank) (hsame : ∀ r, ranks entry r → rank = r)
    (hd : entries.Pairwise fun a b => ∀ r, ranks a r → ¬ ranks b r) (hp : entries.Perm entries') :
    FirstLowest ranks entries' entry rank := by
  have hd' : entries'.Pairwise fun a b => ∀ r, ranks a r → ¬ ranks b r :=
    (hp.pairwise_iff fun hab r hb ha => hab r ha hb).1 hd
  obtain ⟨front, rest, rfl⟩ := List.append_of_mem (hp.mem_iff.1 h.mem)
  have hle : ∀ other ∈ front ++ entry :: rest, ∀ r, ranks other r → rank ≤ r :=
    fun other hm r hr => h.le hsame (hp.mem_iff.2 hm) hr
  refine ⟨h.ranked, front, rest, rfl, ?_, ?_⟩
  · intro other hm r hr
    have hne : rank ≠ r := by
      rintro rfl
      exact (List.pairwise_append.1 hd').2.2 other hm entry (List.mem_cons_self ..) rank hr h.ranked
    have := hle other (List.mem_append_left _ hm) r hr
    omega
  · intro other hm
    exact hle other (List.mem_append_right _ (List.mem_cons_of_mem _ hm))

end FirstLowest

namespace Endpoint

/-! ## Media types -/

/-- JSON comes first, then the types that are written as JSON, then all others. -/
def mediaRank (name : String) : Nat :=
  if name = "application/json" then 0 else if name.endsWith "+json" then 1 else 2

/-- The content of the body has the media type. -/
def Declares (body media : Json) : Prop :=
  ∃ content name, body.member? "content" = some (.object content) ∧ (name, media) ∈ content

/-- The media type is the first one of the lowest rank in the content of the body. -/
def Prefers (body media : Json) : Prop :=
  ∃ content name rank, body.member? "content" = some (.object content) ∧
    FirstLowest (fun entry rank => mediaRank entry.1 = rank) content (name, media) rank

theorem Prefers.declares {body media : Json} (h : Prefers body media) : Declares body media := by
  obtain ⟨content, name, rank, hcontent, hlowest⟩ := h
  exact ⟨content, name, hcontent, hlowest.mem⟩

theorem Prefers.unique {body media media' : Json} (h : Prefers body media) (h' : Prefers body media') :
    media = media' := by
  obtain ⟨content, name, rank, hcontent, hlowest⟩ := h
  obtain ⟨content', name', rank', hcontent', hlowest'⟩ := h'
  rw [hcontent] at hcontent'
  cases hcontent'
  exact (Prod.mk.inj (hlowest.unique hlowest')).2

theorem mediaRank_pos {name : String} (h : name ≠ "application/json") : 0 < mediaRank name := by
  unfold mediaRank
  rw [if_neg h]
  split <;> omega

theorem mediaRank_of_endsWith {name : String} (h : name ≠ "application/json") (hends : name.endsWith "+json" = true) :
    mediaRank name = 1 := by
  rw [mediaRank, if_neg h, if_pos hends]

theorem mediaRank_of_not_endsWith {name : String} (h : name ≠ "application/json")
    (hends : ¬ name.endsWith "+json" = true) : mediaRank name = 2 := by
  rw [mediaRank, if_neg h, if_neg hends]

/-! ## The media type that is chosen -/

/-- The media type that is chosen of a content. -/
def preferred? (content : List (String × Json)) : Option Json :=
  ((content.lookup "application/json").or
    ((content.find? fun entry => entry.1.endsWith "+json").map Prod.snd)).or (content.head?.map Prod.snd)

def media? (body : Json) : Option Json := ((body.member? "content").bind Json.members?).bind preferred?

theorem firstLowest_of_not_json {content : List (String × Json)} {media : Json}
    (hne : ∀ entry ∈ content, entry.1 ≠ "application/json")
    (h : ((content.find? fun entry => entry.1.endsWith "+json").map Prod.snd).or (content.head?.map Prod.snd) =
      some media) :
    ∃ name rank, FirstLowest (fun entry rank => mediaRank entry.1 = rank) content (name, media) rank := by
  cases hlike : content.find? fun entry => entry.1.endsWith "+json" with
  | some entry =>
    rw [hlike] at h
    cases h
    obtain ⟨hends, front, rest, rfl, hfront⟩ := List.find?_eq_some_iff_append.1 hlike
    refine ⟨entry.1, 1, .of_append (mediaRank_of_endsWith (hne entry (by simp)) hends) ?_ ?_⟩
    · intro other hm
      rw [mediaRank_of_not_endsWith (hne other (List.mem_append_left _ hm)) (by simpa using hfront other hm)]
      exact Nat.one_lt_two
    · intro other hm
      exact mediaRank_pos (hne other (List.mem_append_right _ (List.mem_cons_of_mem _ hm)))
  | none =>
    rw [hlike] at h
    have htwo : ∀ entry ∈ content, mediaRank entry.1 = 2 := fun entry hm =>
      mediaRank_of_not_endsWith (hne entry hm) (List.find?_eq_none.1 hlike entry hm)
    cases content with
    | nil => cases h
    | cons first rest =>
      cases h
      refine ⟨first.1, 2, .head (htwo first (List.mem_cons_self ..)) ?_⟩
      rintro other hm _ rfl
      exact Nat.le_of_eq (htwo other (List.mem_cons_of_mem _ hm)).symm

theorem firstLowest_of_preferred? {content : List (String × Json)} {media : Json}
    (h : preferred? content = some media) :
    ∃ name rank, FirstLowest (fun entry rank => mediaRank entry.1 = rank) content (name, media) rank := by
  rw [preferred?, Option.or_assoc] at h
  cases hjson : content.lookup "application/json" with
  | some json =>
    rw [hjson] at h
    cases h
    obtain ⟨front, rest, rfl, hfront⟩ := List.lookup_eq_some_iff.1 hjson
    refine ⟨"application/json", 0, .of_append rfl ?_ fun other _ => Nat.zero_le _⟩
    intro other hm
    exact mediaRank_pos (bne_iff_ne.1 (hfront other hm)).symm
  | none =>
    rw [hjson, Option.none_or] at h
    refine firstLowest_of_not_json (fun entry hm heq => ?_) h
    exact Names.lookup_eq_none_iff.1 hjson (heq ▸ List.mem_map_of_mem hm)

theorem preferred?_eq_none_iff {content : List (String × Json)} : preferred? content = none ↔ content = [] := by
  cases content with
  | nil => exact ⟨fun _ => rfl, fun _ => rfl⟩
  | cons first rest => simp [preferred?]

theorem preferred?_eq_some_iff {content : List (String × Json)} {media : Json} :
    preferred? content = some media ↔
      ∃ name rank, FirstLowest (fun entry rank => mediaRank entry.1 = rank) content (name, media) rank := by
  constructor
  · exact firstLowest_of_preferred?
  · rintro ⟨name, rank, hlowest⟩
    cases hchosen : preferred? content with
    | some chosen =>
      obtain ⟨name', rank', hlowest'⟩ := firstLowest_of_preferred? hchosen
      rw [(Prod.mk.inj (hlowest.unique hlowest')).2]
    | none =>
      have hmem := hlowest.mem
      rw [preferred?_eq_none_iff.1 hchosen] at hmem
      cases hmem

theorem bind_members?_eq_some_iff {value : Option Json} {members : List (String × Json)} :
    value.bind Json.members? = some members ↔ value = some (.object members) := by
  cases value with
  | none => simp
  | some value => cases value <;> simp [Json.members?]

theorem media?_eq_some_iff {body media : Json} : media? body = some media ↔ Prefers body media := by
  rw [media?, Option.bind_eq_some_iff]
  simp only [bind_members?_eq_some_iff, preferred?_eq_some_iff]
  constructor
  · rintro ⟨content, hcontent, name, rank, hlowest⟩
    exact ⟨content, name, rank, hcontent, hlowest⟩
  · rintro ⟨content, name, rank, hcontent, hlowest⟩
    exact ⟨content, hcontent, name, rank, hlowest⟩

/-! ## The schema of the content -/

theorem contentSchema_eq (body : Json) :
    contentSchema body =
      match (media? body).bind (Json.member? "schema") with
      | some schema => .found schema
      | none => .noJsonContent := by
  unfold contentSchema media?
  cases (body.member? "content").bind Json.members? <;> rfl

/-- The schema of a body is that of the media type that it prefers. -/
theorem contentSchema_eq_found_iff {body schema : Json} :
    contentSchema body = .found schema ↔ ∃ media, Prefers body media ∧ media.member? "schema" = some schema := by
  have hfound : contentSchema body = .found schema ↔ (media? body).bind (Json.member? "schema") = some schema := by
    rw [contentSchema_eq]
    cases (media? body).bind (Json.member? "schema") <;> simp
  rw [hfound, Option.bind_eq_some_iff]
  simp only [media?_eq_some_iff]

theorem contentSchema_eq_noJsonContent_iff {body : Json} :
    contentSchema body = .noJsonContent ↔ ∀ media, Prefers body media → media.member? "schema" = none := by
  have hnone : contentSchema body = .noJsonContent ↔ (media? body).bind (Json.member? "schema") = none := by
    rw [contentSchema_eq]
    cases (media? body).bind (Json.member? "schema") <;> simp
  rw [hnone, Option.bind_eq_none_iff]
  simp only [media?_eq_some_iff]

/-- The answer that there is no schema means that no media type has one, just if the one that the body prefers has a
schema wherever any has. -/
theorem contentSchema_tells_iff {body : Json} :
    (contentSchema body = .noJsonContent ↔ ∀ media, Declares body media → media.member? "schema" = none) ↔
      ((∃ media, Declares body media ∧ media.member? "schema" ≠ none) →
        ∃ media, Prefers body media ∧ media.member? "schema" ≠ none) := by
  rw [contentSchema_eq_noJsonContent_iff]
  constructor
  · rintro htells ⟨media, hdeclares, hschema⟩
    by_contra hno
    have hprefers : ∀ preferred, Prefers body preferred → preferred.member? "schema" = none := by
      intro preferred hpreferred
      by_contra hsome
      exact hno ⟨preferred, hpreferred, hsome⟩
    exact hschema (htells.1 hprefers media hdeclares)
  · intro h
    constructor
    · intro hprefers media hdeclares
      by_contra hschema
      obtain ⟨preferred, hpreferred, hsome⟩ := h ⟨media, hdeclares, hschema⟩
      exact hsome (hprefers preferred hpreferred)
    · intro hall media hprefers
      exact hall media hprefers.declares

theorem contentSchema_ne_noResponse (body : Json) : contentSchema body ≠ .noResponse := by
  rw [contentSchema_eq]
  cases (media? body).bind (Json.member? "schema") <;> simp

end Endpoint

end Schemata

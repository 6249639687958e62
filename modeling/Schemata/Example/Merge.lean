import Schemata.Schema.Count

/-!
# Merging what must hold together

* `Node.absorb` : a node with what another one adds; what it says itself stays;
* `Node.merged?` : a node with the branches of its first `allOf` absorbed, branches of branches
  included, if there are any;
* `Node.count_lt_of_merged?` : merging leaves fewer nodes.
-/

namespace Schemata

/-- The rules of two nodes; those of the first go first. An unknown kind counts as none. -/
def Rules.absorb (target branch : Rules) : Rules :=
  { target with
    kind := match target.kind with
      | none | some (.other _) => branch.kind
      | some kind => some kind
    format := target.format.or branch.format
    pattern := target.pattern.or branch.pattern
    allowed := target.allowed.or branch.allowed
    minLength := target.minLength.or branch.minLength
    maxLength := target.maxLength.or branch.maxLength
    minimum := target.minimum.or branch.minimum
    maximum := target.maximum.or branch.maximum
    required := branch.required.foldl
      (fun names name => if names.contains name then names else names ++ [name]) target.required }

/-- The first of two things said about further properties. -/
def Additional.or {α : Type} : Additional α → Additional α → Additional α
  | .open, b => b
  | a, _ => a

namespace Node

/-- Properties with further ones, where the name is new. -/
def addMissing (properties : List (String × Node)) : List (String × Node) → List (String × Node)
  | [] => properties
  | (name, node) :: rest =>
    if (properties.lookup name).isSome then addMissing properties rest
    else addMissing (properties ++ [(name, node)]) rest

/-- A node with what a branch adds. -/
def absorb : Node → Node → Node
  | .schema rules properties items additional combinations,
      .schema rules' properties' items' additional' combinations' =>
    .schema (rules.absorb rules') (addMissing properties properties') (items.or items')
      (additional.or additional') (combinations ++ combinations')
  | target, _ => target

mutual

/-- A node with the branches of its first `allOf` absorbed. -/
def merged? : Node → Option Node
  | .reference _ => none
  | .schema rules properties items additional combinations =>
    match takeAllOf? combinations with
    | none => none
    | some (branches, others) =>
      some (branches.foldl absorb (.schema rules properties items additional others))

/-- The branches of the first `allOf` that has some, each one merged, and all other combinations. -/
def takeAllOf? : List (Combinator × List Node) →
    Option (List Node × List (Combinator × List Node))
  | [] => none
  | (combinator, branches) :: rest =>
    if combinator = .allOf ∧ !branches.isEmpty then some (mergedEach branches, rest)
    else
      match takeAllOf? rest with
      | none => none
      | some (found, others) => some (found, (combinator, branches) :: others)

def mergedEach : List Node → List Node
  | [] => []
  | node :: rest => (merged? node).getD node :: mergedEach rest

end

/-! ## Fewer nodes -/

theorem countProperties_append (a b : List (String × Node)) :
    countProperties (a ++ b) = countProperties a + countProperties b := by
  induction a with
  | nil => simp [countProperties]
  | cons entry rest ih => simp [countProperties, ih]; omega

theorem countProperties_addMissing (a b : List (String × Node)) :
    countProperties (addMissing a b) ≤ countProperties a + countProperties b := by
  induction b generalizing a with
  | nil => simp [addMissing, countProperties]
  | cons entry rest ih =>
    obtain ⟨name, node⟩ := entry
    unfold addMissing
    split
    · have := ih a
      simp [countProperties]; omega
    · have := ih (a ++ [(name, node)])
      simp [countProperties_append, countProperties] at this ⊢; omega

theorem countItems_or (a b : Option Node) :
    countItems (a.or b) ≤ countItems a + countItems b := by
  cases a <;> simp [countItems]

theorem countAdditional_or (a b : Additional Node) :
    countAdditional (a.or b) ≤ countAdditional a + countAdditional b := by
  cases a <;> simp [Additional.or, countAdditional]

theorem countCombinations_append (a b : List (Combinator × List Node)) :
    countCombinations (a ++ b) = countCombinations a + countCombinations b := by
  induction a with
  | nil => simp [countCombinations]
  | cons entry rest ih => simp [countCombinations, ih]; omega

/-- The root of a branch is lost when it is absorbed. -/
theorem count_absorb (target branch : Node) :
    (target.absorb branch).count + 1 ≤ target.count + branch.count := by
  cases target with
  | reference t =>
    have := branch.count_pos
    simp [absorb]; omega
  | schema rules properties items additional combinations =>
    cases branch with
    | reference t => simp [absorb, count]
    | schema rules' properties' items' additional' combinations' =>
      have h1 := countProperties_addMissing properties properties'
      have h2 := countItems_or items items'
      have h3 := countAdditional_or additional additional'
      have h4 := countCombinations_append combinations combinations'
      simp only [absorb, count]; omega

theorem count_foldl_absorb (branches : List Node) (target : Node) :
    (branches.foldl absorb target).count + branches.length ≤ target.count + countNodes branches := by
  induction branches generalizing target with
  | nil => simp [countNodes]
  | cons branch rest ih =>
    have h1 := ih (target.absorb branch)
    have h2 := count_absorb target branch
    simp [countNodes]; omega

mutual

theorem count_lt_of_merged? : ∀ {node merged : Node}, merged? node = some merged →
    merged.count < node.count
  | .reference _, _, h => by simp [merged?] at h
  | .schema rules properties items additional combinations, merged, h => by
    unfold merged? at h
    split at h
    · simp at h
    · next branches others heq =>
      obtain ⟨hcount, hne⟩ := count_of_takeAllOf? heq
      have hfold := count_foldl_absorb branches (.schema rules properties items additional others)
      have hlen : 0 < branches.length := List.length_pos_iff.2 hne
      simp only [Option.some.injEq] at h
      subst h
      simp only [count] at hfold ⊢
      omega

theorem count_of_takeAllOf? : ∀ {combinations : List (Combinator × List Node)}
    {branches : List Node} {others : List (Combinator × List Node)},
    takeAllOf? combinations = some (branches, others) →
      countNodes branches + countCombinations others ≤ countCombinations combinations
        ∧ branches ≠ []
  | [], _, _, h => by simp [takeAllOf?] at h
  | (combinator, nodes) :: rest, branches, others, h => by
    unfold takeAllOf? at h
    split at h
    · next hc =>
      simp only [Option.some.injEq, Prod.mk.injEq] at h
      obtain ⟨rfl, rfl⟩ := h
      have := countNodes_mergedEach nodes
      refine ⟨by simp [countCombinations]; omega, ?_⟩
      cases nodes with
      | nil => simp at hc
      | cons node nodes => simp [mergedEach]
    · split at h
      · simp at h
      · next found left heq =>
        simp only [Option.some.injEq, Prod.mk.injEq] at h
        obtain ⟨rfl, rfl⟩ := h
        obtain ⟨hcount, hne⟩ := count_of_takeAllOf? heq
        exact ⟨by simp [countCombinations]; omega, hne⟩

theorem countNodes_mergedEach : ∀ (nodes : List Node),
    countNodes (mergedEach nodes) ≤ countNodes nodes
  | [] => by simp [mergedEach]
  | node :: rest => by
    have hrest := countNodes_mergedEach rest
    unfold mergedEach
    cases h : merged? node with
    | none => simp [countNodes]; omega
    | some merged =>
      have := count_lt_of_merged? h
      simp [countNodes]; omega

end

end Node

end Schemata

import Mathlib.Data.List.Basic
import Schemata.Proofs.Json.Edit
import Schemata.Proofs.Validation.Location

/-!
# A change of a value shows at its place only

* `Violation.isWithin`, `Violation.isEnumAbove`, `Violation.isApart` : where a violation stands to a place;
* `Json.SameShell` : values that a node judges alike, lists of allowed values apart;
* `Visit.put`, `Visit.children_put_member`, `Visit.children_put_item` : a change below a value is one of the same
  visits, in the same order;
* `Visit.filter_errors_of_replace` : apart from its place, a change keeps the list of errors;
* `Node.errors_of_replaceEach` : so do any number of changes, and none shows at a place that is disjoint from it.
-/

namespace Schemata

/-! ## Where a violation stands -/

namespace Violation

/-- The violation is at the place of some tokens or below it: its pointer is that of the place, or goes on with a
slash. -/
def isWithin (tokens : List String) (e : Violation) : Bool :=
  e.path == Pointer.append "" tokens || (Pointer.append "" tokens ++ "/").toList.isPrefixOf e.path.toList

/-- The violation is one of `enum`, at a place strictly above that of some tokens. -/
def isEnumAbove (tokens : List String) (e : Violation) : Bool :=
  e.kind == .enum && (List.range tokens.length).any fun n => e.path == Pointer.append "" (tokens.take n)

/-- The violation has nothing to do with the place of some tokens. -/
def isApart (tokens : List String) (e : Violation) : Bool := !e.isWithin tokens && !e.isEnumAbove tokens

theorem isWithin_iff {tokens tokens' : List String} {e : Violation} (h : e.path = Pointer.append "" tokens') :
    e.isWithin tokens = true ↔ tokens <+: tokens' := by
  rw [← Pointer.append_eq_or_isPrefix_iff, isWithin, Bool.or_eq_true, beq_iff_eq, List.isPrefixOf_iff_prefix, h]

theorem isEnumAbove_iff {tokens : List String} {e : Violation} :
    e.isEnumAbove tokens = true ↔
      e.kind = .enum ∧ ∃ n < tokens.length, e.path = Pointer.append "" (tokens.take n) := by
  simp [isEnumAbove]

/-- A violation within one place is apart from any place that is disjoint from it. -/
theorem isApart_of_isWithin {place tokens tokens' : List String} {e : Violation}
    (hp : e.path = Pointer.append "" tokens') (h : e.isWithin place = true) (hpt : ¬ place <+: tokens)
    (htp : ¬ tokens <+: place) : e.isApart tokens = true := by
  have hplace : place <+: tokens' := (isWithin_iff hp).1 h
  rw [isApart, Bool.and_eq_true, Bool.not_eq_true', Bool.not_eq_true', ← Bool.not_eq_true, ← Bool.not_eq_true]
  constructor
  · intro hw
    have htokens : tokens <+: tokens' := (isWithin_iff hp).1 hw
    rcases Nat.le_total place.length tokens.length with hle | hle
    · exact hpt (List.prefix_of_prefix_length_le hplace htokens hle)
    · exact htp (List.prefix_of_prefix_length_le htokens hplace hle)
  · intro ha
    obtain ⟨-, n, -, hn⟩ := isEnumAbove_iff.1 ha
    have htake : tokens' = tokens.take n := Pointer.append_inj (hp.symm.trans hn)
    exact hpt (hplace.trans (htake ▸ List.take_prefix n tokens))

end Violation

/-! ## Values that are judged alike -/

/-- Objects with the same names, or arrays. -/
inductive Json.SameShell : Json → Json → Prop
  | object {members members' : List (String × Json)}
      (h : ∀ name, (members'.lookup name).isNone = (members.lookup name).isNone) :
      SameShell (.object members) (.object members')
  | array {items items' : List Json} : SameShell (.array items) (.array items')

namespace Json.SameShell

variable {value value' : Json}

theorem setMember {members : List (String × Json)} {name : String} {old new : Json}
    (there : members.lookup name = some old) :
    SameShell (.object members) (.object (Json.setMember name new members)) := by
  refine .object fun other => ?_
  rw [lookup_setMember]
  by_cases hname : other = name
  · rw [if_pos hname, hname, there]
    rfl
  · rw [if_neg hname]

theorem ne_null (h : SameShell value value') : value ≠ .null ∧ value' ≠ .null := by
  cases h with
  | object h => simp
  | array => simp

theorem accepts (h : SameShell value value') (kind : Kind) : kind.accepts value' = kind.accepts value := by
  cases h <;> cases kind <;> rfl

theorem kindName (h : SameShell value value') : value'.kindName = value.kindName := by
  cases h <;> rfl

theorem fits (h : SameShell value value') (rules : Rules) : rules.fits value' = rules.fits value := by
  unfold Rules.fits
  simp only [h.accepts]

theorem typeError? (h : SameShell value value') (rules : Rules) (path : FieldPath) :
    rules.typeError? path value' = rules.typeError? path value := by
  unfold Rules.typeError?
  simp only [h.accepts, h.kindName]

theorem checkContent (h : SameShell value value') (rules : Rules) (path : FieldPath) :
    rules.checkContent path value' = rules.checkContent path value := by
  cases h with
  | object h =>
    show rules.checkRequired path _ = rules.checkRequired path _
    unfold Rules.checkRequired
    simp only [h]
  | array => rfl

end Json.SameShell

namespace Rules

/-- What a node finds at a place above, apart from `enum`, does not change. -/
theorem filter_violations_of_sameShell (rules : Rules) (path : FieldPath) {value value' : Json}
    (h : value.SameShell value') (token : String) (rest : List String) :
    (rules.violations path value').filter (Violation.isApart (path.map Segment.text ++ token :: rest)) =
      (rules.violations path value).filter (Violation.isApart (path.map Segment.text ++ token :: rest)) := by
  have henum : ∀ value, (rules.checkAllowed path value).filter
      (Violation.isApart (path.map Segment.text ++ token :: rest)) = [] := by
    intro value
    refine List.filter_eq_nil_iff.2 fun e he => ?_
    obtain ⟨values, -, -, rfl⟩ := mem_keyword.1 he
    have habove : Violation.isEnumAbove (path.map Segment.text ++ token :: rest)
        (.at path .enum ("Value must be one of: " ++ Hint.listing values) (some (.array values)) (some value))
          = true := by
      refine Violation.isEnumAbove_iff.2 ⟨rfl, path.length, by simp, ?_⟩
      rw [List.take_left' (List.length_map ..)]
      rfl
    simp [Violation.isApart, habove]
  unfold violations
  rw [h.typeError?]
  cases rules.typeError? path value with
  | some violation => rfl
  | none => rw [List.filter_append, List.filter_append, henum, henum, h.checkContent]

end Rules

/-! ## Changed visits -/

namespace Visit

theorem exists_path_of_reached {limit : Nat} {v w : Visit} (h : Reached limit v w) :
    ∃ steps : FieldPath, w.path = v.path ++ steps := by
  induction h with
  | refl => exact ⟨[], (List.append_nil _).symm⟩
  | tail _ hs ih =>
    obtain ⟨steps, hsteps⟩ := ih
    obtain ⟨segment, hsegment⟩ := hs.2.2.exists_path_eq
    exact ⟨steps ++ [segment], by rw [hsegment, hsteps, List.append_assoc]⟩

/-- The pointer of an error is that of the visit or of a place below it. -/
theorem path_of_mem_errors {limit : Nat} {v : Visit} {e : Violation} (h : e ∈ v.errors limit) :
    ∃ below : List String, e.path = Pointer.append "" (v.path.map Segment.text ++ below) := by
  obtain ⟨w, hw, -, he⟩ := mem_errors_iff.1 h
  obtain ⟨sub, -, hp, -⟩ := Rules.breaks_of_mem_violations he
  obtain ⟨steps, hsteps⟩ := exists_path_of_reached hw
  refine ⟨(steps ++ sub).map Segment.text, ?_⟩
  rw [hp, hsteps, FieldPath.toPointer, ← List.map_append, List.append_assoc]

/-- The visit with another value, if it is at a certain path. -/
def put (path : FieldPath) (value : Json) (v : Visit) : Visit :=
  if v.path = path then { v with value := value } else v

theorem put_of_path {path : FieldPath} {value : Json} {v : Visit} (h : v.path = path) :
    v.put path value = { v with value := value } := if_pos h

theorem put_of_path_ne {path : FieldPath} {value : Json} {v : Visit} (h : v.path ≠ path) : v.put path value = v :=
  if_neg h

theorem path_concat_name_inj {path : FieldPath} {a b : String} (h : path ++ [Segment.name a] = path ++ [.name b]) :
    a = b :=
  Segment.name.inj (List.singleton_inj.1 (List.append_cancel_left h))

theorem path_concat_index_inj {path : FieldPath} {i j : Nat} (h : path ++ [Segment.index i] = path ++ [.index j]) :
    i = j :=
  Segment.index.inj (List.singleton_inj.1 (List.append_cancel_left h))

variable {path : FieldPath} {node : Node}

theorem children_put_member {members : List (String × Json)} {token : String} {new : Json}
    (hd : (members.map Prod.fst).Nodup) (h : token ∈ members.map Prod.fst) :
    children ⟨path, node, .object (Json.setMember token new members)⟩ =
      (children ⟨path, node, .object members⟩).map (put (path ++ [.name token]) new) := by
  have hsome : ∃ old, members.lookup token = some old := by
    obtain ⟨m, hm, rfl⟩ := List.mem_map.1 h
    exact ⟨m.2, Names.lookup_of_mem hd hm⟩
  obtain ⟨old, hold⟩ := hsome
  show _ ++ _ = List.map _ (_ ++ _)
  rw [List.map_append]
  congr 1
  · -- The declared properties.
    rw [List.map_filterMap]
    refine List.filterMap_congr fun entry _ => ?_
    unfold ofProperty?
    dsimp only
    rw [Json.lookup_setMember]
    by_cases hname : entry.1 = token
    · rw [if_pos hname, hname, hold, Option.map_some, Option.map_some, Option.map_some]
      exact congrArg some (put_of_path (v := ⟨_, entry.2, old⟩) rfl).symm
    · have hne : path ++ [Segment.name entry.1] ≠ path ++ [.name token] := fun heq =>
        hname (path_concat_name_inj heq)
      rw [if_neg hname, Option.map_map]
      refine congrArg (fun f => (members.lookup entry.1).map f) (funext fun value => ?_)
      exact (put_of_path_ne (v := ⟨_, entry.2, value⟩) hne).symm
  · -- The members that are not declared.
    rw [Json.setMember_eq_map hd h]
    cases hadd : node.additional with
    | constrained child =>
      have hfilter : ((members.map fun m => if m.1 = token then (token, new) else m).filter
          fun m => (node.property? m.1).isNone) =
          (members.filter fun m => (node.property? m.1).isNone).map
            fun m => if m.1 = token then (token, new) else m := by
        rw [List.filter_map]
        refine congrArg _ (List.filter_congr fun m _ => ?_)
        by_cases hm : m.1 = token
        · simp [hm]
        · simp [hm]
      dsimp only
      rw [hfilter]
      show List.map _ (List.map _ _) = List.map _ (List.map _ _)
      rw [List.map_map, List.map_map]
      refine List.map_congr_left fun m _ => ?_
      by_cases hm : m.1 = token
      · simp [hm, put]
      · have hne : path ++ [Segment.name m.1] ≠ path ++ [.name token] := fun heq =>
          hm (path_concat_name_inj heq)
        simp only [Function.comp_apply, if_neg hm]
        exact (put_of_path_ne hne).symm
    | «open» => rfl
    | forbidden => rfl

theorem children_put_item {items : List Json} {i : Nat} {new : Json} :
    children ⟨path, node, .array (items.set i new)⟩ =
      (children ⟨path, node, .array items⟩).map (put (path ++ [.index i]) new) := by
  show ofItems path (items.set i new) node.items = (ofItems path items node.items).map _
  cases node.items with
  | none => rfl
  | some child =>
    refine List.ext_getElem? fun j => ?_
    simp only [ofItems, List.getElem?_map, List.getElem?_mapIdx, List.getElem?_set, Option.map_map]
    by_cases hij : i = j
    · subst hij
      by_cases hi : i < items.length
      · simp [hi, put]
      · simp [hi]
    · have hne : path ++ [Segment.index j] ≠ path ++ [.index i] := fun heq =>
        hij (path_concat_index_inj heq).symm
      rw [if_neg hij]
      refine congrArg (fun f => (items[j]?).map f) (funext fun value => ?_)
      exact (put_of_path_ne (v := ⟨_, child, value⟩) hne).symm

/-- A change below a value: where it begins, what the value there becomes, and that a node judges the whole alike and
asks about the same parts. -/
theorem exists_put_of_replace (path : FieldPath) (node : Node) {value edited w : Json} {token : String}
    {rest : List String} (hd : value.hasDistinctNames = true)
    (h : value.replaceAtTokens? (token :: rest) w = some edited) :
    ∃ segment old new, Segment.text segment = token ∧ value.step? token = some old ∧
      old.replaceAtTokens? rest w = some new ∧ value.SameShell edited ∧
      children ⟨path, node, edited⟩ = (children ⟨path, node, value⟩).map (put (path ++ [segment]) new) := by
  obtain ⟨members, old, new, rfl, hold, hnew, rfl⟩ | ⟨items, i, old, new, rfl, rfl, hold, hnew, rfl⟩ :=
    Json.replaceAtTokens?_cons_eq_some h
  · have hnames := (Json.hasDistinctNames_object.1 hd).1
    exact ⟨.name token, old, new, rfl, hold, hnew, .setMember hold,
      children_put_member hnames (Json.mem_keys_of_lookup hold)⟩
  · exact ⟨.index i, old, new, rfl, (Json.step?_index _ _).trans hold, hnew, .array, children_put_item⟩

/-- **Apart from its place, a change keeps the list of errors.** -/
theorem filter_errors_of_replace {limit : Nat} (path : FieldPath) (node : Node) {value edited w : Json}
    {tokens : List String} (hd : value.hasDistinctNames = true) (h : value.replaceAtTokens? tokens w = some edited) :
    (errors limit ⟨path, node, edited⟩).filter (Violation.isApart (path.map Segment.text ++ tokens)) =
      (errors limit ⟨path, node, value⟩).filter (Violation.isApart (path.map Segment.text ++ tokens)) := by
  induction tokens generalizing path node value edited with
  | nil =>
    have hnone : ∀ value, (errors limit ⟨path, node, value⟩).filter
        (Violation.isApart (path.map Segment.text ++ [])) = [] := by
      intro value
      refine List.filter_eq_nil_iff.2 fun e he => ?_
      obtain ⟨below, hbelow⟩ := path_of_mem_errors he
      have hwithin : e.isWithin (path.map Segment.text ++ []) = true := by
        rw [List.append_nil]
        exact (Violation.isWithin_iff hbelow).2 (List.prefix_append _ _)
      unfold Violation.isApart
      rw [hwithin]
      exact Bool.false_ne_true
    rw [hnone, hnone]
  | cons token rest ih =>
    obtain ⟨segment, old, new, htext, hold, hnew, hshell, hchildren⟩ := exists_put_of_replace path node hd h
    have hbelow : ∀ v ∈ children ⟨path, node, value⟩, v.path = path ++ [segment] →
        (errors limit (v.put (path ++ [segment]) new)).filter
            (Violation.isApart (path.map Segment.text ++ token :: rest)) =
          (errors limit v).filter (Violation.isApart (path.map Segment.text ++ token :: rest)) := by
      intro v hv hp
      have hvalue : value.step? token = some v.value := htext ▸ (mem_children_iff.1 hv).step?_eq hd hp
      obtain rfl := Option.some.inj (hold.symm.trans hvalue)
      have hplace : (path ++ [segment]).map Segment.text ++ rest = path.map Segment.text ++ token :: rest := by
        simp [htext]
      have := ih (path ++ [segment]) v.node ((Json.HasPart.of_step? hold).hasDistinctNames hd) hnew
      rw [hplace] at this
      rw [put_of_path hp]
      obtain ⟨vpath, vnode, vvalue⟩ := v
      subst hp
      exact this
    by_cases hopen : Open limit ⟨path, node, value⟩
    · have hopen' : Open limit ⟨path, node, edited⟩ :=
        ⟨hopen.within, hopen.known, fun hnull => hshell.ne_null.2 hnull.1⟩
      rw [errors_of_open hopen, errors_of_open hopen', List.filter_append, List.filter_append]
      dsimp only
      rw [Rules.filter_violations_of_sameShell _ _ hshell, hshell.fits]
      congr 1
      by_cases hf : node.rules.fits value = true
      · rw [if_pos hf, if_pos hf, hchildren, List.flatMap_map, List.filter_flatMap, List.filter_flatMap]
        refine List.flatMap_congr fun v hv => ?_
        by_cases hp : v.path = path ++ [segment]
        · exact hbelow v hv hp
        · rw [put_of_path_ne hp]
      · rw [if_neg hf, if_neg hf]
    · have hopen' : ¬ Open limit ⟨path, node, edited⟩ := fun hedited =>
        hopen ⟨hedited.within, hedited.known, fun hnull => hshell.ne_null.1 hnull.1⟩
      rw [errors_of_not_open hopen, errors_of_not_open hopen']

end Visit

/-! ## Reports -/

namespace Node

variable (node : Node) (options : ValidateOptions) {payload edited : Json}

theorem filter_errors_of_replaceAtTokens? {tokens : List String} {w : Json}
    (hd : payload.hasDistinctNames = true) (h : payload.replaceAtTokens? tokens w = some edited) :
    (node.validate options edited).errors.filter (Violation.isApart tokens) =
      (node.validate options payload).errors.filter (Violation.isApart tokens) :=
  Visit.filter_errors_of_replace [] node hd h

theorem filter_errors_of_replaceEach? {edits : List (List String × Json)} (hd : payload.hasDistinctNames = true)
    (hw : ∀ edit ∈ edits, edit.2.hasDistinctNames = true) (h : payload.replaceEach? edits = some edited) :
    (node.validate options edited).errors.filter (fun e => edits.all fun edit => e.isApart edit.1) =
      (node.validate options payload).errors.filter fun e => edits.all fun edit => e.isApart edit.1 := by
  induction edits generalizing payload with
  | nil =>
    obtain rfl : payload = edited := Option.some.inj h
    rfl
  | cons edit rest ih =>
    obtain ⟨between, hbetween, hedited⟩ := Json.replaceEach?_cons_eq_some.1 h
    have hdb : between.hasDistinctNames = true :=
      Json.hasDistinctNames_of_replaceAtTokens? hd (hw edit (List.mem_cons_self ..)) hbetween
    have hfirst := filter_errors_of_replaceAtTokens? node options hd hbetween
    have hrest := ih hdb (fun other ho => hw other (List.mem_cons_of_mem _ ho)) hedited
    simp only [List.all_cons]
    rw [← List.filter_filter, ← List.filter_filter, hrest, List.filter_comm, hfirst, List.filter_comm]

/-- Replacements do not show at a place that is disjoint from theirs. -/
theorem filter_isWithin_of_replaceEach? {edits : List (List String × Json)} {place : List String}
    (hd : payload.hasDistinctNames = true) (hw : ∀ edit ∈ edits, edit.2.hasDistinctNames = true)
    (h : payload.replaceEach? edits = some edited)
    (hdis : ∀ edit ∈ edits, Json.DisjointPlaces place edit.1) :
    (node.validate options edited).errors.filter (Violation.isWithin place) =
      (node.validate options payload).errors.filter (Violation.isWithin place) := by
  -- Whatever is within the place is apart from all replacements.
  have hwithin : ∀ payload, (node.validate options payload).errors.filter (Violation.isWithin place) =
      ((node.validate options payload).errors.filter fun e => edits.all fun edit => e.isApart edit.1).filter
        (Violation.isWithin place) := by
    intro payload
    rw [List.filter_filter]
    refine List.filter_congr fun e he => ?_
    obtain ⟨below, hbelow⟩ := Visit.path_of_mem_errors (v := ⟨[], node, payload⟩) he
    cases hin : e.isWithin place with
    | false => rfl
    | true =>
      refine (List.all_eq_true.2 fun edit hm => ?_).symm
      exact Violation.isApart_of_isWithin hbelow hin (hdis edit hm).1 (hdis edit hm).2
  rw [hwithin, hwithin, filter_errors_of_replaceEach? node options hd hw h]

/-- **A change of a value shows at its place only.** Another value at a place keeps the list of all errors that have
nothing to do with that place: those that are neither at the place nor below it, and are not of `enum` above it. So do
changes at any number of places that are disjoint from each other, and at each of these places the errors are those
that its own change alone leads to. -/
theorem errors_of_replace (hd : payload.hasDistinctNames = true) :
    (∀ tokens w edited, payload.replaceAtTokens? tokens w = some edited →
      (node.validate options edited).errors.filter (Violation.isApart tokens) =
        (node.validate options payload).errors.filter (Violation.isApart tokens)) ∧
    ∀ edits edited, (∀ edit ∈ edits, edit.2.hasDistinctNames = true) →
      edits.Pairwise (fun a b => Json.DisjointPlaces a.1 b.1) → payload.replaceEach? edits = some edited →
      (node.validate options edited).errors.filter (fun e => edits.all fun edit => e.isApart edit.1) =
          ((node.validate options payload).errors.filter fun e => edits.all fun edit => e.isApart edit.1) ∧
        ∀ edit ∈ edits, ∃ alone, payload.replaceAtTokens? edit.1 edit.2 = some alone ∧
          (node.validate options edited).errors.filter (Violation.isWithin edit.1) =
            (node.validate options alone).errors.filter (Violation.isWithin edit.1) := by
  refine ⟨fun tokens w edited h => filter_errors_of_replaceAtTokens? node options hd h,
    fun edits edited hw hdis h => ⟨filter_errors_of_replaceEach? node options hd hw h, fun edit hm => ?_⟩⟩
  obtain ⟨alone, others, halone, hothers, hall⟩ := Json.exists_replaceEach?_of_mem hdis h hm
  have hda : alone.hasDistinctNames = true := Json.hasDistinctNames_of_replaceAtTokens? hd (hw edit hm) halone
  exact ⟨alone, halone, filter_isWithin_of_replaceEach? node options hda (fun other ho => hw other (hall other ho).1)
    hothers fun other ho => (hall other ho).2⟩

/-- A name and a list of tags; the whole is one of a few values. -/
def taggedNode : Node :=
  schema { kind := some .object, allowed := some [.object []], required := ["id"] }
    [("name", schema { minLength := some 3 } [] none .open []),
      ("tags", schema {} [] (some (schema { kind := some .string } [] none .open [])) .open [])]
    none .open []

def taggedPayload : Json := .object [("name", .string "Al"), ("tags", .array [.null, .string "b", .bool true])]

/-- The name becomes longer, and the second tag is no text any more. -/
def taggedEdits : List (List String × Json) := [(["name"], .string "Alan"), (["tags", "1"], .array [])]

def taggedEdited : Json := .object [("name", .string "Alan"), ("tags", .array [.null, .array [], .bool true])]

theorem errors_of_replace_tagged :
    taggedPayload.hasDistinctNames = true ∧ taggedPayload.replaceEach? taggedEdits = some taggedEdited ∧
      ((taggedNode.validate {} taggedEdited).errors.filter fun e => taggedEdits.all fun edit => e.isApart edit.1) =
        ((taggedNode.validate {} taggedPayload).errors.filter fun e =>
          taggedEdits.all fun edit => e.isApart edit.1) ∧
      (((taggedNode.validate {} taggedPayload).errors.filter fun e =>
        taggedEdits.all fun edit => e.isApart edit.1).map Violation.path) = ["/id", "/tags/0", "/tags/2"] := by
  have hd : taggedPayload.hasDistinctNames = true := by decide
  have hw : ∀ edit ∈ taggedEdits, edit.2.hasDistinctNames = true := by decide
  have hdis : taggedEdits.Pairwise fun a b => Json.DisjointPlaces a.1 b.1 := by
    simp [taggedEdits, Json.DisjointPlaces]
  have h : taggedPayload.replaceEach? taggedEdits = some taggedEdited := by rfl
  exact ⟨hd, h, ((errors_of_replace taggedNode {} hd).2 taggedEdits taggedEdited hw hdis h).1, by decide⟩

end Node

end Schemata

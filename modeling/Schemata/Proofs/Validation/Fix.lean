import Schemata.Proofs.Format.Pattern
import Schemata.Proofs.Validation.Place

/-!
# A value that was mended as its hint says

* `Hint.quoted?` : the literal that a hint shows;
* `Rules.fix_of_mem_violations` : the hint of a format or a pattern follows from the kind of the violation and what was
  expected;
* `Visit.exists_replace_of_reached` : where another value is put at a place, a validation still comes there;
* `Node.mended_iff_of_quoted` : where the hint of a format or a pattern shows a literal, the literal in place of the
  value leaves no error of that kind, unless there are blanks around the pattern.
-/

namespace Schemata

/-! ## Literals in hints -/

namespace Hint

/-- The literal that a hint shows, if it asks to use something: the text after `, e.g. `. A hint that repeats a pattern
shows none, whatever the pattern is. -/
def quoted? (hint : String) : Option String :=
  if "Use ".toList.isPrefixOf hint.toList then
    (Regex.Parser.splitAt? ", e.g. ".toList hint.toList).map fun parts => String.ofList parts.2
  else none

theorem quoted?_format {f : Format} (h : f.isUnknown = false) : quoted? (format f) = f.example? := by
  cases f with
  | other name => cases h
  | _ => decide +kernel

theorem quoted?_pattern (source : String) :
    quoted? (pattern source) = (Format.ofPattern? source).bind Format.example? := by
  rw [pattern]
  cases h : Format.ofPattern? source with
  | none =>
    have hstart : "Use ".toList.isPrefixOf ("Value must match pattern: `" ++ source ++ "`").toList = false := by
      rw [String.toList_append, String.toList_append]
      rfl
    rw [quoted?, if_neg (by rw [hstart]; decide)]
    rfl
  | some f =>
    obtain ⟨pieces, literal, -, hexample, -⟩ := Format.exists_pieces_of_ofPattern? h
    have hknown : f.isUnknown = false := by
      cases f with
      | other name => cases hexample
      | _ => rfl
    exact quoted?_format hknown

end Hint

theorem Format.ofName_name {f : Format} (h : f.isUnknown = false) : ofName f.name = f := by
  cases f with
  | other name => cases h
  | _ => rfl

namespace Rules

variable {rules : Rules} {path : FieldPath} {value : Json} {e : Violation}

theorem check_of_quoted {format : Format} {s hint literal : String} (broken : format.check s = false)
    (hfix : Hint.format (.ofName format.name) = hint) (hquoted : Hint.quoted? hint = some literal) :
    format.check literal = true := by
  have hknown : format.isUnknown = false := by
    cases format with
    | other name => cases broken
    | _ => rfl
  rw [← hfix, Format.ofName_name hknown, Hint.quoted?_format hknown] at hquoted
  exact Format.check_of_mem_examples literal (List.mem_of_mem_head? hquoted)

theorem fits_string (s t : String) : rules.fits (.string s) = rules.fits (.string t) := by
  unfold fits
  cases rules.kind with
  | none => rfl
  | some kind => cases kind <;> rfl

/-- A violation of a format or a pattern is found at a text, and its hint follows from what was expected. -/
theorem fix_of_mem_violations (h : e ∈ rules.violations path value) (hk : e.kind = .format ∨ e.kind = .pattern) :
    (∃ s, value = .string s) ∧ e.path = path.toPointer ∧
      ∀ field, e.fix = Hint.fix? e.kind ((rules.expected e.kind).getD .null) field := by
  cases records_of_mem_violations h with
  | @keyword value kind sub message broken unbounded =>
    obtain rfl | rfl : kind = .format ∨ kind = .pattern := hk
    · cases broken with
      | format => exact ⟨⟨_, rfl⟩, by rw [List.append_nil]; rfl, fun _ => rfl⟩
    · cases broken with
      | pattern => exact ⟨⟨_, rfl⟩, by rw [List.append_nil]; rfl, fun _ => rfl⟩
  | @bound n kind bound message broken asked =>
    obtain rfl | rfl : kind = .format ∨ kind = .pattern := hk
    · cases asked
    · cases asked

theorem not_breaks_format_of_quoted {s hint literal : String} (hb : rules.Breaks (.string s) .format [])
    (hfix : Hint.fix? .format ((rules.expected .format).getD .null) "" = some hint)
    (hquoted : Hint.quoted? hint = some literal) : ¬ rules.Breaks (.string literal) .format [] := by
  cases hb with
  | @format format s fits asked broken =>
    have hhint : Hint.format (.ofName format.name) = hint := by
      simpa [expected, asked, Hint.fix?, Json.string?] using hfix
    have hcheck := check_of_quoted broken hhint hquoted
    rintro (_ | _ | ⟨-, asked', broken'⟩)
    obtain rfl := Option.some.inj (asked.symm.trans asked')
    exact absurd (hcheck.symm.trans broken') (by decide)

/-- The literal that is shown in the hint of a pattern breaks it if and only if there are blanks around the pattern. -/
theorem breaks_pattern_quoted_iff {s hint literal : String} (hb : rules.Breaks (.string s) .pattern [])
    (hfix : Hint.fix? .pattern ((rules.expected .pattern).getD .null) "" = some hint)
    (hquoted : Hint.quoted? hint = some literal) :
    rules.Breaks (.string literal) .pattern [] ↔
      ¬ ∀ source, rules.expected .pattern = some (.string source) → Text.trimBlanks source = source := by
  cases hb with
  | @pattern pattern s fits asked broken =>
    have hhint : Hint.pattern pattern.source = hint := by
      simpa [expected, asked, Hint.fix?, Json.string?] using hfix
    rw [← hhint, Hint.quoted?_pattern, Option.bind_eq_some_iff] at hquoted
    obtain ⟨format, hformat, hexample⟩ := hquoted
    have hsource : rules.expected .pattern = some (.string pattern.source) := by rw [expected, asked]; rfl
    have hiff : (∀ source, rules.expected .pattern = some (.string source) → Text.trimBlanks source = source) ↔
        pattern.isMatch literal = true := by
      rw [hsource, pattern.isMatch_example_iff hformat hexample]
      simp only [Option.some.injEq, Json.string.injEq, forall_eq']
    rw [hiff, Bool.not_eq_true]
    constructor
    · rintro (_ | _ | _ | ⟨-, asked', broken'⟩)
      obtain rfl := Option.some.inj (asked.symm.trans asked')
      exact broken'
    · exact fun hfails => .pattern (fits_string s literal ▸ fits) asked hfails

/-- The literal that is shown in the hint of a format or a pattern does not break it, unless there are blanks around the
pattern. -/
theorem breaks_quoted_iff (h : e ∈ rules.violations path value) (hk : e.kind = .format ∨ e.kind = .pattern)
    {hint literal : String} (hfix : e.fix = some hint) (hquoted : Hint.quoted? hint = some literal) :
    rules.Breaks (.string literal) e.kind [] ↔
      ¬ (e.kind = .pattern → ∀ source, e.expected = some (.string source) → Text.trimBlanks source = source) := by
  obtain ⟨⟨s, rfl⟩, -, hfixes⟩ := fix_of_mem_violations h hk
  obtain ⟨sub, hb, -⟩ := breaks_of_mem_violations h
  have hfix := (hfixes "").symm.trans hfix
  rw [expected_of_mem_violations h]
  generalize e.kind = kind at hk hb hfix ⊢
  rcases hk with rfl | rfl
  · obtain rfl : sub = [] := by cases hb; rfl
    exact iff_of_false (not_breaks_format_of_quoted hb hfix hquoted) (not_not_intro nofun)
  · obtain rfl : sub = [] := by cases hb; rfl
    exact (breaks_pattern_quoted_iff hb hfix hquoted).trans
      (not_congr ⟨fun htrim _ => htrim, fun htrim => htrim rfl⟩)

end Rules

/-! ## Values in place of others -/

namespace Visit

variable {limit : Nat} {v u w : Visit}

theorem Descends.replace (h : Descends limit v u) (hd : v.value.hasDistinctNames = true) {tokens : List String}
    {replacement new : Json} (hnew : u.value.replaceAtTokens? tokens replacement = some new) :
    ∃ segment edited, u.path = v.path ++ [segment] ∧
      v.value.replaceAtTokens? (segment.text :: tokens) replacement = some edited ∧
      Descends limit { v with value := edited } { u with value := new } := by
  obtain ⟨hopen, hfits, hstep⟩ := h
  have hdescends : ∀ {edited : Json}, v.value.SameShell edited →
      Step { v with value := edited } { u with value := new } →
      Descends limit { v with value := edited } { u with value := new } := by
    intro edited hshell hstep
    exact ⟨⟨hopen.within, hopen.known, fun hnull => hshell.ne_null.2 hnull.1⟩, (hshell.fits _).trans hfits, hstep⟩
  cases hstep with
  | @property path node members name child value declared there =>
    exact ⟨.name name, _, rfl, Json.replaceAtTokens?_member there hnew,
      hdescends (.setMember there) (.property declared Json.lookup_setMember_self)⟩
  | @additional path node members name child value constrained undeclared there =>
    have hfound : members.lookup name = some value := Names.lookup_of_mem (Json.hasDistinctNames_object.1 hd).1 there
    exact ⟨.name name, _, rfl, Json.replaceAtTokens?_member hfound hnew, hdescends (.setMember hfound)
      (.additional constrained undeclared (Names.mem_of_lookup Json.lookup_setMember_self))⟩
  | @item path node values i child value items there =>
    have hi : i < values.length := (List.getElem?_eq_some_iff.1 there).1
    exact ⟨.index i, _, rfl, Json.replaceAtTokens?_item there hnew,
      hdescends .array (.item items (List.getElem?_set_self hi))⟩

/-- Where another value is put at a place that a validation reaches, it comes there again and finds that value. -/
theorem exists_replace_of_reached (h : Reached limit v w) (hd : v.value.hasDistinctNames = true) (new : Json) :
    ∃ steps edited, w.path = v.path ++ steps ∧
      v.value.replaceAtTokens? (steps.map Segment.text) new = some edited ∧
      Reached limit { v with value := edited } { w with value := new } := by
  induction h using Relation.ReflTransGen.head_induction_on with
  | refl => exact ⟨[], new, (List.append_nil _).symm, rfl, .refl⟩
  | head hs _ ih =>
    obtain ⟨steps, edited, hpath, hedited, hreached⟩ := ih (hs.2.2.hasPart.hasDistinctNames hd)
    obtain ⟨segment, edited', hsegment, hedited', hdescends⟩ := hs.replace hd hedited
    refine ⟨segment :: steps, edited', ?_, hedited', .head hdescends hreached⟩
    rw [hpath, hsegment, List.append_assoc]
    rfl

/-- At the place of a text, a validation finds what is broken there. -/
theorem exists_mem_errors_at_iff (hv : v.Named) (h : Reached limit v w) (hw : w.Open limit) {s : String}
    (hs : w.value = .string s) (kind : ViolationKind) :
    (∃ e ∈ v.errors limit, e.path = w.path.toPointer ∧ e.kind = kind) ↔ w.node.rules.Breaks w.value kind [] := by
  have hown : w.errors limit = w.node.rules.violations w.path w.value := by
    have hchildren : w.children = [] := by rw [children, hs]
    rw [errors_of_open hw, hchildren, List.flatMap_nil, ite_self, List.append_nil]
  constructor
  · rintro ⟨e, he, hpath, rfl⟩
    have hwithin : e.isWithin w.tokens = true := (Violation.isWithin_iff hpath).2 (List.prefix_refl _)
    have hmem := List.mem_filter.2 ⟨he, hwithin⟩
    rw [filter_isWithin_of_reached hv h, hown] at hmem
    obtain ⟨sub, hb, -⟩ := Rules.breaks_of_mem_violations hmem
    rw [hs] at hb ⊢
    generalize e.kind = kind at hb ⊢
    cases hb <;> first | assumption | constructor <;> assumption
  · intro hb
    obtain ⟨e, he, hk, hpath⟩ := Rules.exists_mem_violations_of_breaks hb w.path
    rw [List.append_nil] at hpath
    exact ⟨e, (collects_errors limit).mem_of_reached h hw he, hpath, hk⟩

end Visit

namespace Node

variable {schema payload : Json} {node : Node} {e : Violation}

/-- **To do as a hint says mends the value**, unless the hint is that of a pattern with blanks around it. Where the hint
of a wrong format or of a wrong pattern shows a literal, the literal can be put in place of the value, and then there is
no error of that kind at the same pointer; but a pattern that spells out a format between blanks is not met by the
literal of the format. -/
theorem mended_iff_of_quoted (hc : compile schema = .ok node) (hs : schema.hasDistinctNames = true)
    (hp : payload.hasDistinctNames = true) (options : ValidateOptions)
    (he : e ∈ (node.validate options payload).errors) (hk : e.kind = .format ∨ e.kind = .pattern)
    {hint literal : String} (hfix : e.fix = some hint) (hquoted : Hint.quoted? hint = some literal) :
    ∃ edited, payload.replaceAt? e.path (.string literal) = some edited ∧
      ((∀ other ∈ (node.validate options edited).errors, other.path = e.path → other.kind ≠ e.kind) ↔
        (e.kind = .pattern → ∀ source, e.expected = some (.string source) → Text.trimBlanks source = source)) := by
  have he : e ∈ Visit.errors options.maxDepth ⟨[], node, payload⟩ := he
  obtain ⟨w, hw, hopen, he⟩ := Visit.mem_errors_iff.1 he
  obtain ⟨-, hpath, -⟩ := Rules.fix_of_mem_violations he hk
  obtain ⟨steps, edited, hsteps, hedited, hreached⟩ := Visit.exists_replace_of_reached hw hp (.string literal)
  obtain rfl : w.path = steps := hsteps
  refine ⟨edited, ?_, ?_⟩
  · rw [Json.replaceAt?, hpath, FieldPath.tokens?_toPointer]
    exact hedited
  · have hroot := Visit.Named.root hc hs (Json.hasDistinctNames_of_replaceAtTokens? hp rfl hedited)
    have hopen' : Visit.Open options.maxDepth { w with value := .string literal } :=
      ⟨hopen.within, hopen.known, fun hnull => nomatch hnull.1⟩
    have hiff := (Visit.exists_mem_errors_at_iff hroot hreached hopen' rfl e.kind).trans
      (Rules.breaks_quoted_iff he hk hfix hquoted)
    rw [← not_iff_not, ← hiff, hpath]
    simp only [ne_eq, not_forall, not_not, exists_prop]
    rfl

def digitsPattern (blanks : String) (second : Char) : String :=
  blanks ++ "^[0-9]\x7b3\x7d-[0-9]\x7b" ++ String.singleton second ++ "\x7d-[0-9]\x7b4\x7d$"

def digitsParts (second : Nat) : List Regex.Expr :=
  let digits (n : Nat) : Regex.Expr := .repetition n (some n) true (.charClass false ⟨[(48, 57)]⟩)
  [.look .startText, digits 3, .literal ['-'], digits second, .literal ['-'], digits 4, .look .endText]

def phonePattern : Pattern where
  source := digitsPattern "" '3'
  expr := .concat (digitsParts 3)
  compiled := by with_unfolding_all rfl

def contactSchema : Json :=
  .object [("properties", .object [("mail", .object [("format", .string "email")]),
    ("phone", .object [("pattern", .string (digitsPattern "" '3'))])])]

def contactNode : Node :=
  .schema {} [("mail", .schema { format := some .email } [] none .open []),
    ("phone", .schema { pattern := some phonePattern } [] none .open [])] none .open []

def contactPayload (mail phone : String) : Json := .object [("phone", .string phone), ("mail", .string mail)]

theorem mended_iff_of_quoted_contact :
    compile contactSchema = .ok contactNode ∧ contactSchema.hasDistinctNames = true ∧
      (contactPayload "nobody" "12").hasDistinctNames = true ∧
      ∃ e ∈ (contactNode.validate {} (contactPayload "nobody" "12")).errors, e.path = "/phone" ∧ e.kind = .pattern ∧
        e.fix = some "Use the format XXX-XXX-XXXX, e.g. 555-123-4567" ∧
        ∃ edited, (contactPayload "nobody" "12").replaceAt? "/phone" (.string "555-123-4567") = some edited ∧
          ∀ other ∈ (contactNode.validate {} edited).errors, other.path = "/phone" → other.kind ≠ .pattern := by
  have hc : compile contactSchema = .ok contactNode := by with_unfolding_all rfl
  have hp : (contactPayload "nobody" "12").hasDistinctNames = true := by decide
  have hfound : ("/phone", ViolationKind.pattern, some (Json.string (digitsPattern "" '3')),
      some "Use the format XXX-XXX-XXXX, e.g. 555-123-4567") ∈
      (contactNode.validate {} (contactPayload "nobody" "12")).errors.map
        fun e => (e.path, e.kind, e.expected, e.fix) := by
    decide +kernel
  obtain ⟨e, he, heq⟩ := List.mem_map.1 hfound
  simp only [Prod.mk.injEq] at heq
  obtain ⟨hpath, hk, hexpected, hfix⟩ := heq
  have hquoted : Hint.quoted? "Use the format XXX-XXX-XXXX, e.g. 555-123-4567" = some "555-123-4567" := by
    decide +kernel
  obtain ⟨edited, hedited, hmended⟩ := mended_iff_of_quoted hc (by decide) hp {} he (.inr hk) hfix hquoted
  have htrim : e.kind = .pattern → ∀ source, e.expected = some (.string source) →
      Text.trimBlanks source = source := by
    rintro - source hsource
    obtain rfl : digitsPattern "" '3' = source := by simpa [hexpected] using hsource
    decide +kernel
  have hgone := hmended.2 htrim
  rw [hpath] at hedited hgone
  rw [hk] at hgone
  exact ⟨hc, by decide, hp, e, he, hpath, hk, hfix, edited, hedited, hgone⟩

def blankPattern : Pattern where
  source := digitsPattern " " '2'
  expr := .concat (.literal [' '] :: digitsParts 2)
  compiled := by with_unfolding_all rfl

def blankSchema : Json := .object [("pattern", .string (digitsPattern " " '2'))]

def blankNode : Node := .schema { pattern := some blankPattern } [] none .open []

/-- The hint shows a literal that the pattern does not match. -/
theorem not_mended_of_blank :
    compile blankSchema = .ok blankNode ∧
      (∃ e ∈ (blankNode.validate {} (.string "123-45-6789")).errors, e.path = "" ∧ e.kind = .pattern ∧
        e.fix = some "Use the format XXX-XX-XXXX, e.g. 123-45-6789") ∧
      Hint.quoted? "Use the format XXX-XX-XXXX, e.g. 123-45-6789" = some "123-45-6789" ∧
      (Json.string "123-45-6789").replaceAt? "" (.string "123-45-6789") = some (.string "123-45-6789") := by
  have hc : compile blankSchema = .ok blankNode := by with_unfolding_all rfl
  have hfound : ("", ViolationKind.pattern, some "Use the format XXX-XX-XXXX, e.g. 123-45-6789") ∈
      (blankNode.validate {} (.string "123-45-6789")).errors.map fun e => (e.path, e.kind, e.fix) := by
    decide +kernel
  obtain ⟨e, he, heq⟩ := List.mem_map.1 hfound
  simp only [Prod.mk.injEq] at heq
  exact ⟨hc, ⟨e, he, heq⟩, by decide +kernel, by decide⟩

end Node

end Schemata

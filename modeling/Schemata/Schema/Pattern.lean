import Schemata.Regex.Basic
import Schemata.Regex.Match

/-!
# Patterns

* `Pattern` : a regular expression together with its source;
* `Pattern.compile` : reads a source; `Pattern.enforced?` : what a schema makes of one.
-/

namespace Schemata

/-- A source and its expression. -/
structure Pattern where
  source : String
  expr : Regex.Expr
  compiled : Regex.compile source = .ok expr

namespace Pattern

def compile (source : String) : Except Regex.Error Pattern :=
  match h : Regex.compile source with
  | .ok expr => .ok ⟨source, expr, h⟩
  | .error e => .error e

def isMatch (p : Pattern) (text : String) : Bool := p.expr.isMatch text

/-- The pattern that a schema enforces. Sources with look-around or references back are accepted, but
not enforced. -/
def enforced? (source : String) : Except Regex.Error (Option Pattern) :=
  match compile source with
  | .ok pattern => .ok (some pattern)
  | .error (.writing ⟨.lookAround, _, _⟩) => .ok none
  | .error (.writing ⟨.backreference, _, _⟩) => .ok none
  | .error e => .error e

theorem ext_source {p q : Pattern} (h : p.source = q.source) : p = q := by
  obtain ⟨s, e, hp⟩ := p
  obtain ⟨t, f, hq⟩ := q
  obtain rfl : s = t := h
  obtain rfl : e = f := by simpa using hp.symm.trans hq
  rfl

instance : DecidableEq Pattern := fun p q =>
  if h : p.source = q.source then isTrue (ext_source h) else isFalse fun e => h (e ▸ rfl)

end Pattern

end Schemata

import FieldRules.Regex.Match
import FieldRules.Regex.Parser

/-!
# Patterns

A `Pattern` is a text that denotes a regular expression, kept together with that expression. Two
patterns with the same text are equal.
-/

namespace FieldRules

/-- A well-formed pattern text and its expression. -/
structure Pattern where
  source : String
  regex : Regex
  parsed : Regex.parse? source.toList = some regex

namespace Pattern

/-- The pattern with this text, if the text is well formed. -/
def ofSource? (source : String) : Option Pattern :=
  match h : Regex.parse? source.toList with
  | some regex => some ⟨source, regex, h⟩
  | none => none

/-- Whether some part of the text matches. -/
def isMatch (p : Pattern) (text : String) : Bool :=
  p.regex.isMatch text.toList

theorem ext_source {p q : Pattern} (h : p.source = q.source) : p = q := by
  obtain ⟨s, r, hr⟩ := p
  obtain ⟨t, u, hu⟩ := q
  simp only at h
  subst h
  simp only [hr, Option.some.injEq] at hu
  subst hu
  rfl

instance : DecidableEq Pattern := fun p q =>
  if h : p.source = q.source then isTrue (ext_source h) else isFalse fun e => h (congrArg source e)

theorem source_ofSource? {s : String} {p : Pattern} (h : ofSource? s = some p) : p.source = s := by
  unfold ofSource? at h
  split at h
  · obtain rfl := Option.some.inj h
    rfl
  · exact absurd h nofun

theorem ofSource?_source (p : Pattern) : ofSource? p.source = some p := by
  unfold ofSource?
  split
  case h_1 regex h => exact congrArg some (ext_source rfl)
  case h_2 h => exact absurd (p.parsed.symm.trans h) nofun

end Pattern

end FieldRules

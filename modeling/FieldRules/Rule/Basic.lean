import FieldRules.Regex.Pattern

/-!
# Rules

A rule names a check and narrows it by params, a range, groups of values and a pattern, and says
whether a value must be present. `Rule.computedValues` is the value set that the groups denote, and
`Rule.agrees` compares two rules without their source texts (`agrees_iff`).
-/

namespace FieldRules

/-- The bounds between brackets: one value, or two ends of which either may be open. -/
inductive Range
  | exact (value : String)
  | span (min max : Option String) (exclusiveMin exclusiveMax : Bool)
  deriving DecidableEq, Repr

namespace Range

/-- The lower bound. -/
def min : Range → Option String
  | exact v => some v
  | span m _ _ _ => m

/-- The upper bound. -/
def max : Range → Option String
  | exact v => some v
  | span _ m _ _ => m

/-- Whether the lower bound itself is left out. -/
def exclusiveMin : Range → Bool
  | exact _ => false
  | span _ _ e _ => e

/-- Whether the upper bound itself is left out. -/
def exclusiveMax : Range → Bool
  | exact _ => false
  | span _ _ _ e => e

end Range

/-- What a rule says of an absent value: it is refused, let pass, or replaced by a default. -/
inductive Presence
  | required
  | optional
  | default (text : String)
  deriving DecidableEq, Repr

namespace Presence

/-- Whether an absent value is let pass. -/
def isOptional : Presence → Bool
  | required => false
  | _ => true

/-- The text of the default. -/
def default? : Presence → Option String
  | default text => some text
  | _ => none

/-- Makes a required value optional and leaves a default in place. -/
def relax : Presence → Presence
  | required => optional
  | p => p

end Presence

mutual

/-- A rule. `raw` is the text it was read from, empty for a rule that was built by hand. -/
structure Rule where
  raw : String
  name : String
  params : List Param
  range : Option Range
  /-- The groups of values, which combine to all concatenations of one value from each group. -/
  values : List (List String)
  pattern : Option Pattern
  presence : Presence

/-- A param: left blank, a literal, or a rule of its own. -/
inductive Param
  | blank
  | literal (text : String)
  | rule (r : Rule)

end

/-- All concatenations of a value from the first list and one from the second, in order. -/
def combine (heads tails : List String) : List String :=
  heads.flatMap fun x => tails.map fun y => x ++ y

namespace Rule

/-- A rule with a name and nothing else. -/
def named (name : String) : Rule where
  raw := ""
  name := name
  params := []
  range := none
  values := []
  pattern := none
  presence := .required

instance : Inhabited Rule := ⟨named ""⟩

/-- The param at a place, when it is there and not blank. -/
def param? (r : Rule) (i : Nat) : Option Param :=
  match r.params[i]? with
  | none | some .blank => none
  | some p => some p

/-- The value set: the product of the groups, the first group varying slowest. -/
def computedValues (r : Rule) : List String :=
  match r.values with
  | [] => []
  | group :: groups => groups.foldl combine group

/-- Sets the default, which also makes the value optional. -/
def withDefault (r : Rule) (text : String) : Rule :=
  { r with presence := .default text }

end Rule

mutual

/-- Equality up to the source texts. -/
def Rule.agrees : Rule → Rule → Bool
  | ⟨_, n, ps, rg, vs, pt, pr⟩, ⟨_, n', ps', rg', vs', pt', pr'⟩ =>
    n = n' && Param.agreeAll ps ps' && rg = rg' && vs = vs' && pt = pt' && pr = pr'

/-- Equality of params up to the source texts. -/
def Param.agrees : Param → Param → Bool
  | .blank, .blank => true
  | .literal s, .literal t => s = t
  | .rule r, .rule s => Rule.agrees r s
  | _, _ => false

/-- Equality of lists of params up to the source texts. -/
def Param.agreeAll : List Param → List Param → Bool
  | [], [] => true
  | p :: ps, q :: qs => Param.agrees p q && Param.agreeAll ps qs
  | _, _ => false

end

mutual

/-- The rule without source texts, its own and those of its params. -/
def Rule.bare : Rule → Rule
  | ⟨_, n, ps, rg, vs, pt, pr⟩ => ⟨"", n, Param.bareAll ps, rg, vs, pt, pr⟩

/-- The param without source texts. -/
def Param.bare : Param → Param
  | .blank => .blank
  | .literal s => .literal s
  | .rule r => .rule (Rule.bare r)

/-- The params without source texts. -/
def Param.bareAll : List Param → List Param
  | [] => []
  | p :: ps => Param.bare p :: Param.bareAll ps

end

mutual

theorem Rule.agrees_iff : (r s : Rule) → (r.agrees s = true ↔ r.bare = s.bare)
  | ⟨_, n, ps, rg, vs, pt, pr⟩, ⟨_, n', ps', rg', vs', pt', pr'⟩ => by
    simp only [Rule.agrees, Rule.bare, Bool.and_eq_true, decide_eq_true_eq, Param.agreeAll_iff ps ps',
      Rule.mk.injEq, true_and, and_assoc]

theorem Param.agrees_iff : (p q : Param) → (p.agrees q = true ↔ p.bare = q.bare)
  | .blank, .blank => by simp [Param.agrees, Param.bare]
  | .literal s, .literal t => by simp [Param.agrees, Param.bare]
  | .rule r, .rule s => by simp [Param.agrees, Param.bare, Rule.agrees_iff r s]
  | .blank, .literal _ | .blank, .rule _ | .literal _, .blank | .literal _, .rule _
  | .rule _, .blank | .rule _, .literal _ => by simp [Param.agrees, Param.bare]

theorem Param.agreeAll_iff : (ps qs : List Param) →
    (Param.agreeAll ps qs = true ↔ Param.bareAll ps = Param.bareAll qs)
  | [], [] => by simp [Param.agreeAll, Param.bareAll]
  | p :: ps, q :: qs => by
    simp [Param.agreeAll, Param.bareAll, Param.agrees_iff p q, Param.agreeAll_iff ps qs]
  | [], _ :: _ | _ :: _, [] => by simp [Param.agreeAll, Param.bareAll]

end

end FieldRules

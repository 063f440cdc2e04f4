import FieldRules.Proofs.Rule.WellFormed

/-!
# The grammar of rules

Which tokens make a rule, and which rule they make, said without a reader. A rule is an at sign, a name and
clauses in any order, at most one of each sort except for groups of values (`Rule.AtMostOnce`); its params are
literals, rules or left blank. `Rule.Derives` follows the derivations and says what they denote; only the source
text of a rule depends on where its tokens stand.
-/

namespace FieldRules

namespace Rule

/-- What can stand behind the name of a rule. -/
inductive Clause
  | params (ps : List Param)
  | range (range : Range)
  | values (group : List String)
  | pattern (p : Pattern)
  | marker (presence : Presence)

/-- The sorts of clauses of which a rule can have one. -/
inductive ClauseSort
  | params
  | range
  | pattern
  | marker
  deriving DecidableEq

namespace Clause

/-- The sort of a clause, unless a rule can have any number of them. -/
def sort? : Clause → Option ClauseSort
  | params _ => some .params
  | range _ => some .range
  | values _ => none
  | pattern _ => some .pattern
  | marker _ => some .marker

end Clause

/-- Whether there are at most one clause of params, one range, one pattern and one mark. -/
def AtMostOnce (cs : List Clause) : Prop :=
  (cs.filterMap Clause.sort?).Nodup

/-- The rule with one more clause. -/
def withClause (r : Rule) : Clause → Rule
  | .params ps => { r with params := ps }
  | .range range => { r with range := some range }
  | .values group => { r with values := r.values ++ [group] }
  | .pattern p => { r with pattern := some p }
  | .marker presence => { r with presence }

/-- The rule with the given clauses. -/
def ofClauses (raw name : String) (cs : List Clause) : Rule :=
  cs.foldl withClause { named name with raw }

end Rule

/-! ### Parts without rules in them -/

/-- A literal, or nothing. -/
inductive OptionalLiteral : List TokenKind → Option String → Prop
  | absent : OptionalLiteral [] none
  | literal (text : String) : OptionalLiteral [.literal text] (some text)

/-- A literal in square brackets; or a comma with literals left and right of it or not, in brackets of which
the round ones leave out the bound next to them. -/
inductive Range.Derives : List TokenKind → Range → Prop
  | exact (text : String) : Range.Derives [.leftBracket, .literal text, .rightBracket] (.exact text)
  | span {ks ls : List TokenKind} {min max : Option String} (exclusiveMin exclusiveMax : Bool)
      (lower : OptionalLiteral ks min) (upper : OptionalLiteral ls max) :
      Range.Derives ((if exclusiveMin then .leftParen else .leftBracket) :: ks ++
        .comma :: ls ++ [if exclusiveMax then .rightParen else .rightBracket])
        (.span min max exclusiveMin exclusiveMax)

/-- Values with a comma between neighbours; one that is left out is empty. -/
inductive ValuesDerive : List TokenKind → List String → Prop
  | last {ks : List TokenKind} {value : Option String} (h : OptionalLiteral ks value) :
      ValuesDerive ks [value.getD ""]
  | more {ks ls : List TokenKind} {value : Option String} {rest : List String} (h : OptionalLiteral ks value)
      (others : ValuesDerive ls rest) : ValuesDerive (ks ++ .comma :: ls) (value.getD "" :: rest)

/-- A question mark; or an equals sign with the default, in quotes or as a literal. -/
inductive Presence.Derives : List TokenKind → Presence → Prop
  | optional : Presence.Derives [.question] .optional
  | quoted (text : String) : Presence.Derives [.equals, .quoted text] (.default text)
  | literal (text : String) : Presence.Derives [.equals, .literal text] (.default text)

/-! ### Rules -/

/-- The offset at which the last of some tokens ends. -/
def lastStop (start : Nat) (ts : List Token) : Nat :=
  (ts.getLast?.map Token.stop).getD start

mutual

/-- An at sign, a name and clauses. The source text of the rule reaches from its at sign to its last token. -/
inductive Rule.Derives (source : List Char) : List Token → Rule → Prop
  | rule {sign word : Token} {ts : List Token} {name : String} {cs : List Rule.Clause}
      (sign_kind : sign.kind = .atSign) (word_kind : word.kind = .literal name) (valid : IsName name)
      (clauses : ClausesDerive source ts cs) (once : Rule.AtMostOnce cs) :
      Rule.Derives source (sign :: word :: ts)
        (.ofClauses (String.ofList (Text.slice sign.start (lastStop word.stop ts) source)) name cs)

/-- Clauses in a row. -/
inductive ClausesDerive (source : List Char) : List Token → List Rule.Clause → Prop
  | nil : ClausesDerive source [] []
  | cons {ts us : List Token} {c : Rule.Clause} {cs : List Rule.Clause} (first : ClauseDerives source ts c)
      (others : ClausesDerive source us cs) : ClausesDerive source (ts ++ us) (c :: cs)

/-- One clause. -/
inductive ClauseDerives (source : List Char) : List Token → Rule.Clause → Prop
  | params {left right : Token} {ts : List Token} {ps : List Param} (left_kind : left.kind = .leftAngle)
      (slots : SlotsDerive source ts ps) (right_kind : right.kind = .rightAngle) :
      ClauseDerives source (left :: ts ++ [right]) (.params ps)
  | range {ts : List Token} {range : Range} (h : range.Derives (ts.map Token.kind)) :
      ClauseDerives source ts (.range range)
  | values {left right : Token} {ts : List Token} {group : List String} (left_kind : left.kind = .leftBrace)
      (h : ValuesDerive (ts.map Token.kind) group) (right_kind : right.kind = .rightBrace) :
      ClauseDerives source (left :: ts ++ [right]) (.values group)
  | pattern {t : Token} {text : String} {p : Pattern} (kind : t.kind = .pattern text)
      (compiles : Pattern.ofSource? text = some p) : ClauseDerives source [t] (.pattern p)
  | marker {ts : List Token} {presence : Presence} (h : presence.Derives (ts.map Token.kind)) :
      ClauseDerives source ts (.marker presence)

/-- Params with a comma between neighbours. -/
inductive SlotsDerive (source : List Char) : List Token → List Param → Prop
  | last {ts : List Token} {p : Param} (h : SlotDerives source ts p) : SlotsDerive source ts [p]
  | more {ts us : List Token} {comma : Token} {p : Param} {ps : List Param} (h : SlotDerives source ts p)
      (comma_kind : comma.kind = .comma) (others : SlotsDerive source us ps) :
      SlotsDerive source (ts ++ comma :: us) (p :: ps)

/-- One param. -/
inductive SlotDerives (source : List Char) : List Token → Param → Prop
  | blank : SlotDerives source [] .blank
  | literal {t : Token} {text : String} (kind : t.kind = .literal text) : SlotDerives source [t] (.literal text)
  | rule {ts : List Token} {r : Rule} (h : r.Derives source ts) : SlotDerives source ts (.rule r)

end

end FieldRules

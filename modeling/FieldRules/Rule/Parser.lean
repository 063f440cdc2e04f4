import FieldRules.Rule.Basic
import FieldRules.Rule.Lexer

/-!
# Reading rules

The reader takes one token at a time. `Reader.advance?` is the grammar: it says which tokens can come
next and what each adds to the rule under construction. `Reader.fault` says what is wrong with a token
that cannot come next. Rules whose params are being read wait on a stack, and a nested rule ends at the
first token that is no modifier of it, which then has to continue the params around it.
-/

namespace FieldRules

/-- The names that a rule can have: an ASCII letter, then letters, digits, underscores and hyphens. -/
def isRuleName (text : String) : Bool :=
  match text.toList with
  | [] => false
  | c :: cs => c.isAlpha && cs.all fun c => c.isAlphanum || c == '_' || c == '-'

/-- A rule under construction, and the offset of its at sign. -/
structure Draft where
  start : Nat
  rule : Rule

/-- Params under construction: the rule they belong to, the offset of their bracket, and the params read
so far, the last one first. -/
structure OpenParams where
  draft : Draft
  opened : Nat
  done : List Param

/-- What the reader is about to read. -/
inductive ReaderState
  /-- The at sign of the whole rule. -/
  | start
  | name (start : Nat)
  | modifier (d : Draft)
  | slot (p : OpenParams)
  | slotEnd (p : OpenParams)
  | rangeMin (d : Draft) (opened : Nat) (exclusiveMin : Bool)
  | rangeComma (d : Draft) (opened : Nat) (exclusiveMin : Bool) (min : Option String)
  | rangeMax (d : Draft) (opened : Nat) (exclusiveMin : Bool) (min : Option String)
  | rangeEnd (d : Draft) (opened : Nat) (exclusiveMin : Bool) (min max : Option String)
  | value (d : Draft) (opened : Nat) (done : List String)
  | valueEnd (d : Draft) (opened : Nat) (done : List String)
  | default (d : Draft)

/-- The reader: its state, the params around the current rule, the innermost first, and the offset at
which the last token ended. -/
structure RuleReader where
  state : ReaderState := .start
  outer : List OpenParams := []
  last : Nat := 0

namespace Draft

/-- The finished rule, with its source text. -/
def finish (source : List Char) (d : Draft) (stop : Nat) : Rule :=
  { d.rule with raw := String.ofList (Text.slice d.start stop source) }

end Draft

namespace RuleReader

/-- The state behind a param, given the token that follows it. -/
def afterParam (p : OpenParams) (param : Param) : TokenKind → Option ReaderState
  | .comma => some (.slot { p with done := param :: p.done })
  | .rightAngle =>
    some (.modifier { p.draft with rule := { p.draft.rule with params := (param :: p.done).reverse } })
  | _ => none

/-- The draft with its range. -/
def withRange (d : Draft) (range : Range) : ReaderState :=
  .modifier { d with rule := { d.rule with range := some range } }

/-- The state behind a lower bound, given the token that follows it. -/
def afterMin (d : Draft) (opened : Nat) (exclusiveMin : Bool) (min : Option String) :
    TokenKind → Option ReaderState
  | .comma => some (.rangeMax d opened exclusiveMin min)
  | .rightBracket => if exclusiveMin then none else min.map fun v => withRange d (.exact v)
  | _ => none

/-- The state behind an upper bound, given the token that follows it. -/
def afterMax (d : Draft) (exclusiveMin : Bool) (min max : Option String) : TokenKind → Option ReaderState
  | .rightBracket => some (withRange d (.span min max exclusiveMin false))
  | .rightParen => some (withRange d (.span min max exclusiveMin true))
  | _ => none

/-- The state behind a value, given the token that follows it. -/
def afterValue (d : Draft) (opened : Nat) (done : List String) : TokenKind → Option ReaderState
  | .comma => some (.value d opened done)
  | .rightBrace =>
    some (.modifier { d with rule := { d.rule with values := d.rule.values ++ [done.reverse] } })
  | _ => none

/-- The state behind a token that starts a modifier, if the token is one and the rule can have it. -/
def beginModifier (d : Draft) (start : Nat) : TokenKind → Option ReaderState
  | .leftAngle => if d.rule.params.isEmpty then some (.slot ⟨d, start, []⟩) else none
  | .leftBracket => if d.rule.range.isNone then some (.rangeMin d start false) else none
  | .leftParen => if d.rule.range.isNone then some (.rangeMin d start true) else none
  | .leftBrace => some (.value d start [])
  | .pattern text =>
    if d.rule.pattern.isNone then
      (Pattern.ofSource? text).map fun p => .modifier { d with rule := { d.rule with pattern := some p } }
    else none
  | .question =>
    if d.rule.presence = .required then
      some (.modifier { d with rule := { d.rule with presence := .optional } })
    else none
  | .equals => if d.rule.presence = .required then some (.default d) else none
  | _ => none

/-- Whether a token starts a modifier. -/
def startsModifier : TokenKind → Bool
  | .leftAngle | .leftBracket | .leftParen | .leftBrace | .pattern _ | .question | .equals => true
  | _ => false

/-- The reader behind a token, if the token can come next. -/
def advance? (source : List Char) (r : RuleReader) (t : Token) : Option RuleReader :=
  let stay (state : ReaderState) : RuleReader := { r with state, last := t.stop }
  match r.state with
  | .start => if t.kind = .atSign then some (stay (.name t.start)) else none
  | .name start => match t.kind with
    | .literal text => if isRuleName text then some (stay (.modifier ⟨start, .named text⟩)) else none
    | _ => none
  | .modifier d =>
    if startsModifier t.kind then (beginModifier d t.start t.kind).map stay
    else match r.outer with
      | [] => none
      | p :: outer => (afterParam p (.rule (d.finish source r.last)) t.kind).map
          fun state => { state, outer, last := t.stop }
  | .slot p => match t.kind with
    | .atSign => some { state := .name t.start, outer := p :: r.outer, last := t.stop }
    | .literal text => some (stay (.slotEnd { p with done := .literal text :: p.done }))
    | kind => (afterParam p .blank kind).map stay
  | .slotEnd p => match p.done with
    | [] => none
    | param :: done => (afterParam { p with done } param t.kind).map stay
  | .rangeMin d opened exclusiveMin => match t.kind with
    | .literal text => some (stay (.rangeComma d opened exclusiveMin (some text)))
    | kind => (afterMin d opened exclusiveMin none kind).map stay
  | .rangeComma d opened exclusiveMin min => (afterMin d opened exclusiveMin min t.kind).map stay
  | .rangeMax d opened exclusiveMin min => match t.kind with
    | .literal text => some (stay (.rangeEnd d opened exclusiveMin min (some text)))
    | kind => (afterMax d exclusiveMin min none kind).map stay
  | .rangeEnd d _ exclusiveMin min max => (afterMax d exclusiveMin min max t.kind).map stay
  | .value d opened done => match t.kind with
    | .literal text => some (stay (.valueEnd d opened (text :: done)))
    | kind => (afterValue d opened ("" :: done) kind).map stay
  | .valueEnd d opened done => (afterValue d opened done t.kind).map stay
  | .default d => match t.kind with
    | .quoted text | .literal text => some (stay (.modifier { d with rule := d.rule.withDefault text }))
    | _ => none

/-- The fault of a token that does not continue a part: at the end of the text the part is unterminated. -/
def outOfPlace (part : RulePart) (opened : Nat) (t : Token) : Fault :=
  if t.kind = .finish then ⟨opened, .unterminated part⟩ else ⟨t.start, .unexpected t.kind part⟩

/-- The fault of a token behind a lower bound. -/
def minFault (opened : Nat) (min : Option String) (t : Token) : Fault :=
  if t.kind = .rightBracket ∨ t.kind = .rightParen then
    ⟨opened, if min.isNone then .emptyRange else .exactBrackets⟩
  else outOfPlace .range opened t

/-- The fault of a token behind an upper bound. -/
def maxFault (opened : Nat) (t : Token) : Fault :=
  if t.kind = .comma then ⟨t.start, .tooManyBounds⟩ else outOfPlace .range opened t

/-- What is wrong with a token that cannot come next. -/
def fault (r : RuleReader) (t : Token) : Fault :=
  match r.state with
  | .start => ⟨t.start, .expectedAt t.kind⟩
  | .name _ => match t.kind with
    | .literal text => ⟨t.start, .invalidName text⟩
    | _ => ⟨t.start, .missingName⟩
  | .modifier d => match t.kind with
    | .leftAngle => ⟨t.start, .duplicateParams⟩
    | .leftBracket | .leftParen => ⟨t.start, .duplicateRange⟩
    | .pattern _ => ⟨t.start, if d.rule.pattern.isSome then .duplicatePattern else .invalidPattern⟩
    | .question | .equals => ⟨t.start, .duplicateMarker⟩
    | kind => match r.outer with
      | [] => ⟨t.start, .trailing kind⟩
      | p :: _ => outOfPlace .params p.opened t
  | .slot p | .slotEnd p => outOfPlace .params p.opened t
  | .rangeMin _ opened _ => minFault opened none t
  | .rangeComma _ opened _ min => minFault opened min t
  | .rangeMax _ opened _ _ | .rangeEnd _ opened _ _ _ => maxFault opened t
  | .value _ opened _ | .valueEnd _ opened _ => outOfPlace .values opened t
  | .default _ => ⟨t.start, .missingDefault⟩

/-- The finished rule, if the text may end here. -/
def result? (source : List Char) (r : RuleReader) : Option Rule :=
  match r.state, r.outer with
  | .modifier d, [] => some (d.finish source r.last)
  | _, _ => none

/-- Reads the tokens ahead. -/
def run (source : List Char) : RuleReader → List Token → Except Fault Rule
  | r, [] => match r.result? source with
    | some rule => .ok rule
    | none => .error (r.fault (Lexer.endToken source))
  | r, t :: ts => match r.advance? source t with
    | some r => run source r ts
    | none => .error (r.fault t)

end RuleReader

namespace Rule

/-- Reads a rule that spans the whole text. -/
def parse (text : String) : Except SyntaxError Rule :=
  let source := text.toList
  match Lexer.tokens source >>= RuleReader.run source {} with
  | .ok rule => .ok rule
  | .error fault => .error { fault with rule := text }

end Rule

end FieldRules

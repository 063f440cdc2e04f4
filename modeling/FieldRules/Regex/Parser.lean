import FieldRules.Regex.Automaton
import FieldRules.Regex.Class
import FieldRules.Unicode.Current

/-!
# Reading patterns

A pattern is read in rounds, each taking at least one character: an atom, a repetition of the item
before it, a bar, or the opening or closing of a group or class. Open groups and classes wait on
stacks. `Regex.parse?` fails on malformed patterns, on nesting deeper than `maxDepth` and on
expressions whose automata would not fit.
-/

open FieldRules.Unicode (CharSet)

namespace FieldRules.Regex

/-- The deepest nesting of groups, classes, repetitions, sequences and choices. -/
def maxDepth : Nat := 250

/-- The largest count of a repetition. -/
def maxCount : Nat := 4294967295

/-- An item of a sequence: what it matches, its nesting, and whether it can be repeated. -/
structure Item where
  regex : Regex
  depth : Nat := 0
  repeatable : Bool := true

namespace Item

/-- Joins items in order; several items make a level of their own. -/
def sequence (items : List Item) : Item :=
  match items with
  | [] => { regex := .empty }
  | [item] => item
  | items => {
      regex := .concat (items.map (·.regex))
      depth := 1 + items.foldl (fun d i => max d i.depth) 0 }

/-- Joins the branches of a choice; a lone branch stays what it is. -/
def choice (first : Item) (rest : List Item) : Item :=
  match rest with
  | [] => first
  | rest => {
      regex := Regex.choice first.regex (rest.map (·.regex))
      depth := 1 + rest.foldl (fun d i => max d i.depth) first.depth }

end Item

/-- The group around the current place, kept while an inner group is read. -/
structure Level where
  /-- The flags to return to. -/
  flags : Flags
  captures : Bool := false
  /-- The branches that bars have ended, the last one first. -/
  branches : List Item := []
  /-- The items of the current branch, the last one first. -/
  items : List Item := []

namespace Level

/-- The choice of all branches. -/
def item (l : Level) : Item :=
  match (Item.sequence l.items.reverse :: l.branches).reverse with
  | [] => { regex := .empty }
  | first :: rest => Item.choice first rest

end Level

/-- What has been read of a pattern. -/
structure Progress where
  flags : Flags := {}
  current : Level := { flags := {} }
  /-- The groups around the current one, the innermost first. -/
  outer : List Level := []
  /-- The open classes, the innermost first. -/
  classes : List OpenClass := []
  /-- The names of groups met so far. -/
  names : List (List Char) := []

namespace Progress

/-- Adds an item to the current branch. -/
def push (p : Progress) (item : Item) : Progress :=
  { p with current := { p.current with items := item :: p.current.items } }

/-- Adds a set of characters. -/
def pushSet (p : Progress) (s : CharSet) : Progress :=
  p.push { regex := .oneOf s }

/-- Adds an atom; a character is closed under case where the flags say so. -/
def pushAtom (p : Progress) : Atom → Progress
  | .char c => p.pushSet (p.flags.close (.single c))
  | .set s => p.pushSet s
  | .anchor a => p.push { regex := .anchor a }

/-- Ends the current branch. -/
def bar (p : Progress) : Progress :=
  { p with current := { p.current with
      branches := Item.sequence p.current.items.reverse :: p.current.branches, items := [] } }

/-- Opens a group with its own flags. -/
def openGroup (p : Progress) (captures : Bool) (inner : Flags) : Progress :=
  { p with flags := inner, current := { flags := p.flags, captures }, outer := p.current :: p.outer }

/-- Closes the innermost group. -/
def closeGroup (p : Progress) : Option Progress :=
  match p.outer with
  | [] => none
  | around :: outer =>
    let inner := p.current.item
    let regex := Regex.group p.current.captures inner.regex
    let p := { p with flags := p.current.flags, current := around, outer }
    some (p.push { regex, depth := 1 + inner.depth })

/-- Repeats the item just read; at the start of a branch and behind flags there is none. -/
def repeatLast (p : Progress) (greedy : Bool) (min : Nat) (max : Option Nat) : Option Progress :=
  match p.current.items with
  | [] => none
  | item :: items =>
    if item.repeatable then
      let regex := Regex.repeated (greedy != p.flags.lazy) min max item.regex
      some { p with current := { p.current with
        items := { regex, depth := 1 + item.depth } :: items } }
    else none

/-- Repeats the item just read and passes over the mark that makes a repetition lazy. -/
def repeatBy (p : Progress) (min : Nat) (max : Option Nat) (cs : List Char) :
    Option (Progress × List Char) :=
  match cs with
  | '?' :: cs => (p.repeatLast false min max).map (·, cs)
  | cs => (p.repeatLast true min max).map (·, cs)

end Progress

/-- A count: digits with blanks around them. -/
def readCount (f : Flags) (cs : List Char) : Option (Nat × List Char) := do
  let (digits, rest) ← f.cut (fun c => !c.isDigit) false (Text.trimStart (f.skip cs))
  let count := digits.foldl (fun n c => 10 * n + (c.toNat - 48)) 0
  if !digits.isEmpty && count ≤ maxCount then some (count, Text.trimStart rest) else none

/-- The counts of a repetition behind its opening brace: `n`, `n,` or `n,m`, with `n` at most `m`. -/
def readCounts (f : Flags) (cs : List Char) : Option ((Nat × Option Nat) × List Char) := do
  let (min, rest) ← readCount f cs
  match f.skip rest with
  | '\x7d' :: rest => return ((min, some min), f.skip rest)
  | ',' :: rest => match f.skip rest with
    | '\x7d' :: rest => return ((min, none), f.skip rest)
    | rest => do
      let (max, rest) ← readCount f rest
      match f.skip rest with
      | '\x7d' :: rest => if min ≤ max then return ((min, some max), f.skip rest) else none
      | _ => none
  | _ => none

/-- The flags between a question mark and a colon or a closing parenthesis, applied to those in force.
`seen` holds the letters met, `negated` whether a minus was, `hanging` whether it came last. -/
def readFlags (seen : List Char) (negated hanging : Bool) (f : Flags) :
    List Char → Option (Flags × List Char)
  | [] => none
  | c :: cs =>
    if c = ':' ∨ c = ')' then (if hanging then none else some (f, c :: cs))
    else if c = '-' then (if negated then none else readFlags seen true true f cs)
    else if seen.contains c then none
    else
      let on := !negated
      match c with
      | 'i' => readFlags (c :: seen) negated false { f with ignoreCase := on } cs
      | 'm' => readFlags (c :: seen) negated false { f with multiLine := on } cs
      | 's' => readFlags (c :: seen) negated false { f with dotAll := on } cs
      | 'u' => readFlags (c :: seen) negated false { f with unicode := on } cs
      | 'R' => readFlags (c :: seen) negated false { f with crlf := on } cs
      | 'x' => readFlags (c :: seen) negated false { f with verbose := on } cs
      | 'U' => readFlags (c :: seen) negated false { f with lazy := on } cs
      | _ => none

/-- The name of a group, up to its closing angle: a letter or underscore, then also digits, points and
square brackets. -/
def readGroupName (cs : List Char) : Option (List Char × List Char) := do
  let (name, rest) ← cutAt (· == '>') cs
  let isFirst (c : Char) : Bool := c == '_' || Unicode.Current.isAlphabetic c
  let isNext (c : Char) : Bool :=
    isFirst c || c == '.' || c == '[' || c == ']' || Unicode.Current.isNumeric c
  match name with
  | [] => none
  | c :: more => if isFirst c && more.all isNext then return (name, rest.drop 1) else none

namespace Progress

/-- Opens a group with a name that no other group has. -/
def openNamed (p : Progress) (cs : List Char) : Option (Progress × List Char) := do
  let (name, rest) ← readGroupName cs
  if p.names.contains name then none
  else return ({ p with names := name :: p.names }.openGroup true p.flags, rest)

/-- What stands behind an opening parenthesis; assertions about the text around are refused. -/
def readGroup (p : Progress) (cs : List Char) : Option (Progress × List Char) :=
  match p.flags.skip cs with
  | '?' :: 'P' :: '<' :: cs => p.openNamed cs
  | '?' :: '<' :: '=' :: _ | '?' :: '<' :: '!' :: _ | '?' :: '=' :: _ | '?' :: '!' :: _ => none
  | '?' :: '<' :: cs => p.openNamed cs
  | '?' :: cs => do
    let (flags, rest) ← readFlags [] false false p.flags cs
    match rest with
    | ':' :: rest => return (p.openGroup false flags, rest)
    | _ :: rest =>
      if cs.head? = some ')' then none
      else return ({ p with flags }.push { regex := .empty, repeatable := false }, rest)
    | [] => none
  | cs => some (p.openGroup true p.flags, cs)

/-- One round inside a class; `k` is the innermost one. -/
def stepClass (p : Progress) (k : OpenClass) (outer : List OpenClass) (c : Char) (cs : List Char) :
    Option (Progress × List Char) :=
  let f := p.flags
  match c, cs with
  | '[', cs => match readAsciiClass? f cs with
    | some (s, rest) => do return ({ p with classes := k.push (← s) :: outer }, rest)
    | none => do
      let (inner, rest) ← readClassOpen f cs
      return ({ p with classes := inner :: k :: outer }, rest)
  | ']', cs => do
    let v ← k.close f
    match outer with
    | [] => return ({ p with classes := [] }.push { regex := .oneOf v.set, depth := v.depth }, cs)
    | around :: outer =>
      return ({ p with classes := { around with items := v :: around.items } :: outer }, cs)
  | '&', '&' :: cs => some ({ p with classes := k.operate f .inter :: outer }, cs)
  | '-', '-' :: cs => some ({ p with classes := k.operate f .diff :: outer }, cs)
  | '~', '~' :: cs => some ({ p with classes := k.operate f .symmDiff :: outer }, cs)
  | c, cs => do
    let (s, rest) ← readClassRange f (c :: cs)
    return ({ p with classes := k.push s :: outer }, rest)

/-- One round outside classes. -/
def stepItem (p : Progress) (c : Char) (cs : List Char) : Option (Progress × List Char) :=
  let f := p.flags
  match c with
  | '(' => p.readGroup cs
  | ')' => p.closeGroup.map (·, cs)
  | '|' => some (p.bar, cs)
  | '[' => do
    let (k, rest) ← readClassOpen f cs
    return ({ p with classes := [k] }, rest)
  | '?' => p.repeatBy 0 (some 1) cs
  | '*' => p.repeatBy 0 none cs
  | '+' => p.repeatBy 1 none cs
  | '\x7b' => do
    let ((min, max), rest) ← readCounts f cs
    p.repeatBy min max rest
  | '\\' => do
    let (atom, rest) ← readEscape f cs
    return (p.pushAtom atom, rest)
  | '.' => f.dot.map fun s => (p.pushSet s, cs)
  | '^' =>
    let a := if f.multiLine then (if f.crlf then Anchor.crlfLineStart else .lineStart) else .textStart
    some (p.push { regex := .anchor a }, cs)
  | '$' =>
    let a := if f.multiLine then (if f.crlf then Anchor.crlfLineEnd else .lineEnd) else .textEnd
    some (p.push { regex := .anchor a }, cs)
  | c => some (p.pushAtom (.char c), cs)

/-- The expression of a pattern read to its end: no group or class is open, and the limits hold. -/
def finish (p : Progress) : Option Regex :=
  match p.outer, p.classes with
  | [], [] =>
    let item := p.current.item
    if item.depth ≤ maxDepth ∧ item.regex.fits = true then some item.regex else none
  | _, _ => none

/-- Reads what is left of a pattern, in no more rounds than given. -/
def run : Nat → Progress → List Char → Option Regex
  | rounds, p, cs => match p.flags.skip cs with
    | [] => p.finish
    | c :: cs => match rounds with
      | 0 => none
      | rounds + 1 => do
        let (p, rest) ← match p.classes with
          | [] => p.stepItem c cs
          | k :: outer => p.stepClass k outer c cs
        run rounds p rest

end Progress

/-- The expression that a pattern denotes, if it is well formed and within the limits. -/
def parse? (pattern : List Char) : Option Regex :=
  Progress.run pattern.length {} pattern

end FieldRules.Regex

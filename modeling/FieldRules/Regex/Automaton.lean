import FieldRules.Regex.Normal
import FieldRules.Unicode.Encoding

/-!
# The size of automata

An expression may only be as large as the automata for it are allowed to be. Two are counted, one that reads
the bytes of a text from the front and one that reads them from the back. Each state takes `stateBytes`, and more if
many arrows leave it: a branch takes `branchBytes` for each of its ways, and a state that looks at a byte
`arrowBytes` for each interval of bytes. `Regex.fits` tells whether both automata stay within `maxBytes`; as long
as a rough bound does, nothing is counted.

Sets of characters beyond ASCII take most of the room. States that lead to the same places are shared where a
table of limited size still knows them, so what a set takes depends on the number of states in front of it.
-/

open FieldRules.Unicode (Ranges CharSet ByteRange)

namespace FieldRules.Regex

/-- The most that an automaton may take. -/
def maxBytes : Nat := 10485760

/-- What every state takes. -/
def stateBytes : Nat := 32

/-- What each way of a branch takes. -/
def branchBytes : Nat := 4

/-- What each interval of bytes takes in a state that looks at several. -/
def arrowBytes : Nat := 8

/-- The part of an automaton that has been built: its number of states, what their arrows take, and whether the
last state is a branch, so that going on takes another way of it. -/
structure Extent where
  states : Nat
  arrows : Nat
  endsInBranch : Bool
  deriving DecidableEq, Repr

namespace Extent

/-- What the part takes. -/
def bytes (e : Extent) : Nat :=
  stateBytes * e.states + e.arrows

/-- The part with more states and arrows behind it; the last one is no branch. -/
def add (e : Extent) (states arrows : Nat) : Extent :=
  ⟨e.states + states, e.arrows + arrows, false⟩

/-- What it takes to go on behind the part. -/
def link (e : Extent) : Nat :=
  if e.endsInBranch then branchBytes else 0

/-- Builds a part behind this one and goes on with it. -/
def follow (e : Extent) (build : Extent → Extent) : Extent :=
  let next := build (e.add 0 0)
  { next with arrows := next.arrows + e.link }

/-- Builds a part so many times, one behind the other, unless there is no room left. -/
def times (build : Extent → Extent) : Nat → Extent → Extent
  | 0, e => e
  | n + 1, e => if maxBytes < e.bytes then e else times build n (e.follow build)

/-- Builds a part so many times, each behind a branch that can leave it out. -/
def options (build : Extent → Extent) : Nat → Extent → Extent
  | 0, e => e
  | n + 1, e =>
    if maxBytes < e.bytes then e
    else options build n (build (e.add 1 (e.link + 2 * branchBytes)))

end Extent

/-- An arrow to a state, for some bytes. -/
structure Arrow where
  range : ByteRange
  target : Nat
  deriving DecidableEq, Repr

/-- Mixes a number into a hash. -/
def mix (hash n : UInt64) : UInt64 :=
  (hash ^^^ n) * 1099511628211

/-- The hash that nothing has been mixed into. -/
def emptyHash : UInt64 := 14695981039346656037

/-- A table of states under their contents. Each place holds one state, the last that came there. -/
structure StateTable (α : Type) where
  places : Array (Option (α × Nat))

namespace StateTable

/-- A table with so many places. -/
def empty {α : Type} (size : Nat) : StateTable α :=
  ⟨Array.replicate size none⟩

/-- The place of a hash. -/
def place {α : Type} (t : StateTable α) (hash : UInt64) : Nat :=
  (hash % UInt64.ofNat t.places.size).toNat

/-- The state with some contents, if the table still knows it. -/
def find? {α : Type} [BEq α] (t : StateTable α) (place : Nat) (a : α) : Option Nat :=
  match t.places[place]? with
  | some (some (b, id)) => if a == b then some id else none
  | _ => none

/-- Puts a state into its place. -/
def put {α : Type} (t : StateTable α) (place : Nat) (a : α) (id : Nat) : StateTable α :=
  ⟨t.places.setIfInBounds place (some (a, id))⟩

end StateTable

namespace Forward

/-- A state that is still being built: its arrows, the last first, and the bytes of one whose target is not
known yet. -/
structure Draft where
  arrows : List Arrow
  ahead : Option ByteRange

/-- The automaton of a set of characters while it is built. -/
structure Build where
  extent : Extent
  table : StateTable (List Arrow)

/-- The draft with its last arrow drawn. -/
def Draft.draw (d : Draft) (target : Nat) : Draft :=
  match d.ahead with
  | some range => ⟨⟨range, target⟩ :: d.arrows, none⟩
  | none => d

/-- The state with these arrows: one that is known, or a new one. -/
def Build.state (b : Build) (arrows : List Arrow) : Nat × Build :=
  let hash := arrows.foldr (fun a h =>
    mix (mix (mix h a.range.lo.toUInt64) a.range.hi.toUInt64) (UInt64.ofNat a.target)) emptyHash
  let place := b.table.place hash
  match b.table.find? place arrows with
  | some id => (id, b)
  | none =>
    let id := b.extent.states
    (id, ⟨b.extent.add 1 (arrowBytes * arrows.length), b.table.put place arrows id⟩)

/-- Completes the drafts below the first one, the deepest first, and draws the arrow of the first one. -/
def settle (target : Nat) (first : Draft) : List Draft → Build → Draft × Build
  | [], b => (first.draw target, b)
  | d :: ds, b =>
    let (d, b) := settle target d ds b
    let (id, b) := b.state d.arrows
    (first.draw id, b)

/-- Adds a product of byte intervals behind those that came before. The drafts lie on the path of the last one;
those that it shares with the new one are kept. -/
def insert (target : Nat) : List ByteRange → Draft → List Draft → Build → Draft × List Draft × Build
  | [], first, drafts, b => (first, drafts, b)
  | range :: more, first, drafts, b =>
    match first.ahead == some range, drafts with
    | true, d :: ds =>
      let (d, ds, b) := insert target more d ds b
      (first, d :: ds, b)
    | _, drafts =>
      let (first, b) := settle target first drafts b
      (⟨first.arrows, some range⟩, more.map fun r => ⟨[], some r⟩, b)

/-- The automaton of a set behind a part that has been built. -/
def build (rs : Ranges) (e : Extent) : Extent :=
  let target := e.states
  let start : Draft × List Draft × Build := (⟨[], none⟩, [], ⟨e.add 1 0, .empty 10000⟩)
  let (first, drafts, b) := (rs.flatMap Unicode.spans).foldl
    (fun (first, drafts, b) span => insert target span first drafts b) start
  let (first, b) := settle target first drafts b
  (b.state first.arrows).2.extent

end Forward

namespace Backward

/-- A state that looks at one interval of bytes, and the state behind it. -/
structure Link where
  source : Nat
  range : ByteRange
  deriving DecidableEq, Repr

/-- Adds a product of byte intervals, from the first byte on; gives the state that it ends in. -/
def insert (e : Extent) (t : StateTable Link) (source : Nat) :
    List ByteRange → Extent × StateTable Link
  | [] => (e.add 0 branchBytes, t)
  | range :: more =>
    let hash := mix (mix (mix emptyHash (UInt64.ofNat source)) range.lo.toUInt64) range.hi.toUInt64
    let place := t.place hash
    match t.find? place ⟨source, range⟩ with
    | some id => insert e t id more
    | none => insert (e.add 1 0) (t.put place ⟨source, range⟩ e.states) e.states more

/-- The automaton of a set behind a part that has been built. -/
def build (rs : Ranges) (e : Extent) : Extent :=
  let last := e.states + 1
  ((rs.flatMap Unicode.spans).foldl (fun (e, t) span => insert e t last span)
    (e.add 2 0, StateTable.empty 1000)).1

end Backward

/-- The automaton of a set of characters behind a part that has been built. -/
def buildSet (backward : Bool) (rs : Ranges) (e : Extent) : Extent :=
  if rs.all fun r => r.2 < 0x80 then e.add 2 (arrowBytes * rs.length)
  else if backward then Backward.build rs e
  else Forward.build rs e

/-- A tree of texts that share their beginnings. The arrows of a node lie in chunks, since a text that ends at a
node comes before the longer ones behind it: those before the last text that ended here, and those behind it. -/
inductive TextTree
  | node (closed : List (List (UInt8 × TextTree))) (last : List (UInt8 × TextTree))

namespace TextTree

/-- Whether a node has no arrows. -/
def isLeaf : TextTree → Bool
  | .node closed last => closed.all List.isEmpty && last.isEmpty

/-- Changes what lies behind a byte. -/
def update (byte : UInt8) (f : TextTree → TextTree) : List (UInt8 × TextTree) → List (UInt8 × TextTree)
  | [] => [(byte, f (.node [] []))]
  | (b, t) :: rest => if b = byte then (b, f t) :: rest else (b, t) :: update byte f rest

/-- Adds a text. -/
def insert : List UInt8 → TextTree → TextTree
  | [], .node closed last =>
    if !closed.isEmpty && (TextTree.node closed last).isLeaf then .node closed last
    else .node (closed ++ [last]) []
  | b :: bs, .node closed last => .node closed (update b (insert bs) last)

/-- The state of a chunk and the way to it; an empty chunk has none. -/
def addChunk {α : Type} (chunk : List α) (e : Extent) : Extent :=
  match chunk with
  | [] => e
  | [_] => e.add 1 branchBytes
  | chunk => e.add 1 (arrowBytes * chunk.length + branchBytes)

mutual

/-- The states of a tree. Each node is a branch to its chunks, and to the end for each text that ends there. -/
def build : TextTree → Extent → Extent
  | .node closed last, e =>
    let e := addChunk last (buildChunk last (buildChunks closed e))
    e.add 1 (branchBytes * closed.length)

/-- The states of the chunks of a node, and of the nodes behind them. -/
def buildChunks : List (List (UInt8 × TextTree)) → Extent → Extent
  | [], e => e
  | chunk :: chunks, e => buildChunks chunks (addChunk chunk (buildChunk chunk e))

/-- The states of the nodes behind a chunk; a leaf has none. -/
def buildChunk : List (UInt8 × TextTree) → Extent → Extent
  | [], e => e
  | (_, t) :: rest, e => buildChunk rest (if t.isLeaf then e else t.build e)

end

end TextTree

/-- The automaton of a choice between texts behind a part that has been built. -/
def buildTexts (backward : Bool) (texts : List (List UInt8)) (e : Extent) : Extent :=
  let texts := if backward then texts.map List.reverse else texts
  (texts.foldl (fun t bytes => TextTree.insert bytes t) (.node [] [])).build (e.add 1 0)

namespace Normal

/-- The bytes of a text. -/
def bytes? : Normal → Option (List UInt8)
  | .literal bs => some bs
  | _ => none

/-- Repeats a part, given how to build it and whether it always takes a byte. -/
def buildRepeated (build : Extent → Extent) (takesBytes : Bool) (min : Nat) (max : Option Nat)
    (e : Extent) : Extent :=
  match max with
  | none =>
    if 0 < min then
      let inner := (Extent.times build (min - 1) e).follow build
      { inner.add 1 (inner.link + branchBytes) with endsInBranch := true }
    else if takesBytes then
      let inner := build (e.add 1 branchBytes)
      { inner.add 0 inner.link with endsInBranch := true }
    else
      let inner := build e
      inner.add 3 (inner.link + 4 * branchBytes)
  | some max =>
    if min = max then Extent.times build min e
    else if max = 1 then
      let inner := build (e.add 1 (2 * branchBytes))
      inner.add 1 inner.link
    else
      let front := if min = 0 then e.add 1 0 else Extent.times build min e
      let last := Extent.options build (max - min) { front with states := front.states + 1 }
      last.add 0 last.link

mutual

/-- The automaton of an expression behind a part that has been built. -/
def build (backward : Bool) : Normal → Extent → Extent
  | .empty, e | .anchor _, e => e.add 1 0
  | .literal bs, e => e.add bs.length 0
  | .oneOf rs, e => buildSet backward rs e
  | .group r, e =>
    if backward then build backward r e
    else
      let inner := build backward r (e.add 1 0)
      inner.add 1 inner.link
  | .repeated _ min max r, e =>
    buildRepeated (build backward r) (r.minBytes?.any (0 < ·)) min max e
  | .seq rs, e => if backward then buildLast backward rs e else buildAll backward rs e
  | .alt rs, e =>
    match rs.mapM bytes? with
    | some texts => buildTexts backward texts e
    | none => buildBranches backward 0 rs e

/-- Builds the parts of a sequence. -/
def buildAll (backward : Bool) : List Normal → Extent → Extent
  | [], e => e
  | r :: rs, e => buildAll backward rs (e.follow (build backward r))

/-- Builds the parts of a sequence, the last one first. -/
def buildLast (backward : Bool) : List Normal → Extent → Extent
  | [], e => e
  | r :: rs, e => (buildLast backward rs e).follow (build backward r)

/-- Builds the branches of a choice; the branch that leads to them and the state behind them come after the
second one. -/
def buildBranches (backward : Bool) (met : Nat) : List Normal → Extent → Extent
  | [], e => e
  | r :: rs, e =>
    let inner := build backward r e
    buildBranches backward (met + 1) rs
      (inner.add (if met = 1 then 2 else 0) (inner.link + branchBytes))

end

/-- The ends of each part of a sequence: whether an anchor stands there, and whether the part matches nothing
but the empty text. -/
def leads : List (Bool × Bool) → Bool
  | [] => false
  | (anchored, idle) :: rest => anchored || (idle && leads rest)

mutual

/-- Whether every match begins behind an anchor, or ends in front of it. -/
def isAnchored (backward : Bool) (a : Anchor) : Normal → Bool
  | .anchor b => a == b
  | .group r => isAnchored backward a r
  | .repeated _ min _ r => 0 < min && isAnchored backward a r
  | .seq rs =>
    let ends := anchoredParts backward a rs
    leads (if backward then ends.reverse else ends)
  | .alt rs => (anchoredParts backward a rs).all (·.1)
  | _ => false

/-- For each part whether it is anchored, and whether it matches nothing but the empty text. -/
def anchoredParts (backward : Bool) (a : Anchor) : List Normal → List (Bool × Bool)
  | [] => []
  | r :: rs => (isAnchored backward a r, r.matchesEmptyOnly) :: anchoredParts backward a rs

end

/-- What the automaton of a whole expression takes. In front of one that is not anchored, any bytes are passed
over; going forward, the match as a whole counts as a group. -/
def automatonBytes (backward : Bool) (r : Normal) : Nat :=
  let anchored := r.isAnchored backward (if backward then .textEnd else .textStart)
  let start : Extent :=
    if anchored then ⟨1, 0, false⟩ else ⟨3, arrowBytes + 2 * branchBytes, false⟩
  let whole := build backward (if backward then r else .group r) start
  (whole.add 1 whole.link).bytes

end Normal

namespace Normal

/-- Whether an expression is a choice between so many texts that they are looked up together. Then no
automaton is needed. -/
def isDictionary : Normal → Bool
  | .alt rs => 3000 ≤ rs.length && (rs.mapM bytes?).isSome
  | _ => false

end Normal

/-- A bound on the number of intervals of a set. -/
def intervalBound : CharSet → Nat
  | .ranges rs => rs.length
  | .categories cats => if cats = [.nd] then 80 else 2000
  | .union a b | .inter a b => intervalBound a + intervalBound b
  | .compl a => 1 + intervalBound a
  | .fold (.ranges rs) => rs.length + 3 * (rs.map fun (lo, hi) => hi + 1 - lo).sum
  | .fold a => intervalBound a + 4000
  | .foldAscii a => intervalBound a + 52

/-- Whether a set is known to hold ASCII characters only. -/
def isAsciiSet : CharSet → Bool
  | .ranges rs => rs.all fun r => r.2 < 0x80
  | .union a b => isAsciiSet a && isAsciiSet b
  | .inter a b => isAsciiSet a || isAsciiSet b
  | .foldAscii a => isAsciiSet a
  | _ => false

/-- A bound on what the automata of a set take. -/
def setBound (s : CharSet) : Nat :=
  if isAsciiSet s then 96 + arrowBytes * intervalBound s else 4000 + 1000 * intervalBound s

/-- A bound on what the automata of an expression take. -/
def bound : Regex → Nat
  | .empty | .anchor _ => 48
  | .oneOf s => setBound s
  | .group _ r => 80 + r.bound
  | .seq a b => a.bound + b.bound
  | .alt a b => 80 + a.bound + b.bound
  | .repeated _ min max r => 160 + max.getD (min + 1) * (64 + r.bound)

/-- Whether both automata of an expression stay within what they may take, if it needs any. -/
def fits (r : Regex) : Bool :=
  if r.bound + 400 ≤ maxBytes then true
  else
    let normal := Normal.ofRegex r
    normal.isDictionary ||
      (normal.automatonBytes false ≤ maxBytes && normal.automatonBytes true ≤ maxBytes)

end FieldRules.Regex

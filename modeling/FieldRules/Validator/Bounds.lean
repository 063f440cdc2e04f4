import FieldRules.Decimal.Printer
import FieldRules.Report.Cause
import FieldRules.Rule.Printer
import FieldRules.Validator.Defect

/-!
# Bounds

A `Bounds` limits a quantity from below and above, either side open and each end included or not. It is
read from the range of a rule and written back as one.
-/

namespace FieldRules

/-- Quantities that can be bounded: compared and shown. -/
class Quantity (α : Type) where
  lt : α → α → Bool
  le : α → α → Bool
  eq : α → α → Bool
  text : α → String

instance : Quantity Int where
  lt a b := decide (a < b)
  le a b := decide (a ≤ b)
  eq a b := decide (a = b)
  text n := String.ofList (Text.integer n)

instance : Quantity Nat where
  lt a b := decide (a < b)
  le a b := decide (a ≤ b)
  eq a b := decide (a = b)
  text n := String.ofList (Text.digits n)

instance : Quantity Float where
  lt a b := decide (a < b)
  le a b := decide (a ≤ b)
  eq a b := a == b
  text := Decimal.plain

/-- Limits of a quantity. -/
structure Bounds (α : Type) where
  min : Option α := none
  max : Option α := none
  exclusiveMin : Bool := false
  exclusiveMax : Bool := false
  deriving Repr

namespace Bounds

variable {α : Type} [Quantity α]

/-- Reads an end of a range. -/
def readEnd (read : String → Except Defect α) : Option String → Except Defect (Option α)
  | none => .ok none
  | some text => (read text).map some

/-- Reads a range, the lower end first; the lower end must not lie above the upper one. -/
def ofRange? (read : String → Except Defect α) : Option Range → Except Defect (Bounds α)
  | none => .ok {}
  | some range => do
    let min ← readEnd read range.min
    let max ← readEnd read range.max
    match min, max with
    | some lo, some hi =>
      if Quantity.lt hi lo then throw (.minAboveMax (Quantity.text lo) (Quantity.text hi))
    | _, _ => pure ()
    return { min, max, exclusiveMin := range.exclusiveMin, exclusiveMax := range.exclusiveMax }

/-- Whether a quantity respects the lower end. -/
def above (b : Bounds α) (x : α) : Bool :=
  match b.min with
  | none => true
  | some lo => if b.exclusiveMin then Quantity.lt lo x else Quantity.le lo x

/-- Whether a quantity respects the upper end. -/
def below (b : Bounds α) (x : α) : Bool :=
  match b.max with
  | none => true
  | some hi => if b.exclusiveMax then Quantity.lt x hi else Quantity.le x hi

/-- Whether a quantity lies within the bounds. -/
def contains (b : Bounds α) (x : α) : Bool :=
  b.above x && b.below x

/-- Why a quantity, named by `target`, does not lie within the bounds. -/
def check (b : Bounds α) (target : String) (x : α) : Option Cause :=
  if b.contains x then none
  else some (.outOfRange {
    target
    min := b.min.map Quantity.text
    max := b.max.map Quantity.text
    exclusiveMin := b.exclusiveMin
    exclusiveMax := b.exclusiveMax
    current := Quantity.text x })

/-- Whether nothing is limited and both brackets include their ends. -/
def isTrivial (b : Bounds α) : Bool :=
  b.min.isNone && b.max.isNone && !b.exclusiveMin && !b.exclusiveMax

/-- The range that the bounds are written as: none, one value, or two ends. -/
def range? (b : Bounds α) : Option Range :=
  if b.isTrivial then none
  else
    let span := Range.span (b.min.map Quantity.text) (b.max.map Quantity.text) b.exclusiveMin b.exclusiveMax
    match b.min, b.max with
    | some lo, some hi =>
      if Quantity.eq lo hi && !b.exclusiveMin && !b.exclusiveMax then some (.exact (Quantity.text lo))
      else some span
    | _, _ => some span

/-- The bounds as rule text. -/
def text (b : Bounds α) : String :=
  String.ofList ((b.range?.map Range.text).getD [])

end Bounds

/-- Reads a length: a natural number of 64 bits. -/
def readLength (text : String) : Except Defect Nat :=
  match Text.readWord? 64 text.toList with
  | some n => .ok n
  | none => .error (.lengthNotNatural text)

/-- Limits of a length. -/
def Bounds.ofLengths? (range : Option Range) : Except Defect (Bounds Nat) :=
  Bounds.ofRange? readLength range

/-- The parts of a rule that a family may have no use for. -/
inductive Section
  | params
  | range
  | values
  | pattern
  deriving DecidableEq, Repr

namespace Section

/-- Whether a rule has the part. -/
def isIn (r : Rule) : Section → Bool
  | params => !r.params.isEmpty
  | range => r.range.isSome
  | values => !r.values.isEmpty
  | pattern => r.pattern.isSome

/-- The part in messages. -/
def describe : Section → String
  | params => "params"
  | range => "a range"
  | values => "values"
  | pattern => "a pattern"

/-- Refuses a rule that has one of the parts. -/
def refuse (r : Rule) : List Section → Except Defect Unit
  | [] => .ok ()
  | s :: rest => if s.isIn r then .error (.partNotTaken r.name s.describe) else refuse r rest

end Section

/-- A list of values as rule text. -/
def listedText (texts : List String) : String :=
  String.ofList (groupText texts)

/-- A step as rule text. -/
def stepText (text : String) : String :=
  listedText ["%" ++ text]

end FieldRules

import FieldRules.Report.Violation
import FieldRules.Validator.Basic

/-!
# Validating values

A validator walks a slot: a place that holds a value or is vacant, as a missing field is. A vacant slot
reads as null. The walk gives a report and what the slot holds afterwards; only a filling walk changes
anything, and only by putting defaults into empty slots of optional rules. `Validator.validate` walks
without filling, `Validator.fill` with it.

Fields of a struct are walked one after the other, each seeing what the ones before it have filled in. Keys
of maps and texts made by codecs are never filled.
-/

namespace FieldRules

/-- A place for a value. -/
abbrev Slot := Option Value

/-- What a slot reads as. -/
def Slot.read (s : Slot) : Value :=
  s.getD .null

namespace Walk

/-- The outcome of a check that changes nothing. -/
def keep (s : Slot) (cause : Option Cause) : Report × Slot :=
  (Report.ofCause? cause [], s)

/-- The outcome of walking an optional part. -/
def optional (walk : Option (Value → Report × Value)) (v : Value) : Report × Value :=
  match walk with
  | some walk => walk v
  | none => ([], v)

/-- Walks the items of a list, counting from a place on. -/
def items (walk : Value → Report × Value) : Nat → List Value → Report × List Value
  | _, [] => ([], [])
  | i, v :: vs =>
    let (r, v) := walk v
    let (rs, vs) := items walk (i + 1) vs
    (r.under (.index i) ++ rs, v :: vs)

/-- Walks the entries of a map; both parts of an entry are reported under the text of its key. -/
def entries (key : Value → Report) (item : Value → Report × Value) :
    List (Value × Value) → Report × List (Value × Value)
  | [] => ([], [])
  | (k, v) :: es =>
    let (r, v) := item v
    let (rs, es) := entries key item es
    (((key k) ++ r).under (.key k.toString) ++ rs, (k, v) :: es)

/-- Walks the fields of a struct as the entries of a map. -/
def named (key : Value → Report) (item : Value → Report × Value) :
    List (String × Value) → Report × List (String × Value)
  | [] => ([], [])
  | (n, v) :: fs =>
    let (r, v) := item v
    let (rs, fs) := named key item fs
    (((key (.string n)) ++ r).under (.key n) ++ rs, (n, v) :: fs)

/-- Changes the struct that is reached through embedded fields. One that is not nested has its fields in the
struct around it. -/
def within {α : Type} (f : List (String × Value) → α × List (String × Value)) :
    List String → List (String × Value) → α × List (String × Value)
  | [], fields => f fields
  | name :: access, fields => match Fields.get? fields name with
    | some (.struct inner) =>
      let (a, inner) := within f access inner
      (a, Fields.set fields name (.struct inner))
    | _ => within f access fields

/-- Walks one field of a struct; a vacant one is added when the walk leaves something in it. -/
def field (walk : Slot → Report × Slot) (name : String) (fields : List (String × Value)) :
    Report × List (String × Value) :=
  match walk (Fields.get? fields name) with
  | (r, some v) => (r, Fields.set fields name v)
  | (r, none) => (r, fields)

end Walk

mutual

/-- Walks a slot. -/
def Validator.walk (fills : Bool) : Validator → Slot → Report × Slot
  | .integer c, s => Walk.keep s (c.check s.read)
  | .float c, s => Walk.keep s (c.check s.read)
  | .text c, s => Walk.keep s (c.check s.read)
  | .format f, s => Walk.keep s (f.check s.read)
  | .slice item bounds length?, s => match s with
    | some (.list vs) =>
      let (r, vs') := Walk.items (Walk.optional (Validator.walkOption fills item)) 0 vs
      (Report.ofCause? (bounds.check "slice length" vs.length) [] ++ r, some (.list vs'))
    | s => Walk.keep s (some (.unsupported (Validator.toText (.slice item bounds length?)) s.read.kindName))
  | .map key item bounds, s =>
    let onKey (k : Value) : Report := (Walk.optional (Validator.walkOption false key) k).1
    let onItem := Walk.optional (Validator.walkOption fills item)
    match s with
    | some (.map es) =>
      let (r, es') := Walk.entries onKey onItem es
      (Report.ofCause? (bounds.check "map length" es.length) [] ++ r, some (.map es'))
    | some (.struct fs) =>
      let (r, fs') := Walk.named onKey onItem fs
      (Report.ofCause? (bounds.check "map length" fs.length) [] ++ r, some (.struct fs'))
    | s => Walk.keep s (some (.unsupported (Validator.toText (.map key item bounds)) s.read.kindName))
  | .struct checks, s => match s with
    | some (.struct fs) =>
      let (r, fs') := FieldCheck.walkAll fills checks fs
      (r, some (.struct fs'))
    | s => Walk.keep s (some (.unsupported "@struct" s.read.kindName))
  | .loader l, s => l.walk fills s

/-- Walks a slot through a loader. -/
def Loader.walk (fills : Bool) : Loader → Slot → Report × Slot
  | ⟨schema, inner, onEmpty, message?, codec?⟩, s =>
    let finish (r : Report) : Report :=
      match message? with
      | some message => r.withMessage message
      | none => r
    if Loader.isEmpty ⟨schema, inner, onEmpty, message?, codec?⟩ s.read then
      match onEmpty with
      | .refuse => (finish (Report.single .missing), s)
      | .pass => ([], s)
      | .fill _ value => ([], if fills then some value else s)
    else match inner with
      | none => ([], s)
      | some inner => match codec? with
        | some codec => match codec.marshal s.read with
          | .ok text => (finish (inner.walk false (some (.string text))).1, s)
          | .error reason => (finish (Report.single (.badText reason)), s)
        | none =>
          let (r, s) := inner.walk fills s
          (finish r, s)

/-- Walks a value, if there is a validator for it. -/
def Validator.walkOption (fills : Bool) : Option Validator → Option (Value → Report × Value)
  | none => none
  | some v => some fun x =>
    let (r, s) := v.walk fills (some x)
    (r, s.getD x)

/-- Walks the fields of a struct one after the other. -/
def FieldCheck.walkAll (fills : Bool) :
    List FieldCheck → List (String × Value) → Report × List (String × Value)
  | [], fields => ([], fields)
  | ⟨access, name, label, validator⟩ :: checks, fields =>
    let (r, fields) := Walk.within (Walk.field (validator.walk fills) name) access fields
    let (rs, fields) := FieldCheck.walkAll fills checks fields
    (r.under (.field label) ++ rs, fields)

end

namespace Validator

/-- The violations of a value; defaults are not filled in. -/
def validate (v : Validator) (x : Value) : Report :=
  (v.walk false (some x)).1

/-- The violations of a value, and the value with defaults filled in. -/
def fill (v : Validator) (x : Value) : Report × Value :=
  let (r, s) := v.walk true (some x)
  (r, s.getD x)

/-- Whether a value passes. -/
def isValid (v : Validator) (x : Value) : Bool :=
  (v.validate x).passes

end Validator

end FieldRules

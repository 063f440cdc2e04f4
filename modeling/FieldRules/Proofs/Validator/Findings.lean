import FieldRules.Proofs.Validator.Parts

/-!
# Where violations are found

A report says under which names a violation was found, and names may be given twice. `Validator.findings` lists the
violations together with the fields around the part of the value in which each one was found, by where the checks of
these fields look. Without them it is the report (`Validator.walk_fst_eq_findings`).
-/

namespace FieldRules

/-- A violation, and the fields around the part of the value in which it was found, from the outside in: the embedded
fields to pass through, and the name. -/
structure Finding where
  violation : Violation
  fields : List (List String × String) := []
  deriving DecidableEq, Repr

namespace Finding

/-- An optional cause, found at the outermost value. -/
def ofCause? (cause? : Option Cause) : List Finding :=
  (Report.ofCause? cause? []).map fun w => { violation := w }

/-- What was found in a part, seen from one step further out. -/
def under (segment : Segment) (f : Finding) : Finding :=
  { f with violation := f.violation.under segment }

/-- What was found by the check of a field. -/
def inField (spot : List String × String) (label : String) (f : Finding) : Finding :=
  { violation := f.violation.under (.field label), fields := spot :: f.fields }

/-- What was found below a loader with a message. -/
def said (message? : Option String) (f : Finding) : Finding :=
  { f with violation := f.violation.said message? }

/-- The report of what was found. -/
def report (fs : List Finding) : Report :=
  fs.map (·.violation)

private theorem report_ofCause? (cause? : Option Cause) : report (ofCause? cause?) = Report.ofCause? cause? [] := by
  cases cause? <;> rfl

theorem report_append (fs gs : List Finding) : report (fs ++ gs) = report fs ++ report gs :=
  List.map_append

theorem report_under (segment : Segment) (fs : List Finding) :
    report (fs.map (under segment)) = (report fs).under segment := by
  rw [report, List.map_map, report, Report.under, List.map_map]
  rfl

theorem report_inField (spot : List String × String) (label : String) (fs : List Finding) :
    report (fs.map (inField spot label)) = (report fs).under (.field label) := by
  rw [report, List.map_map, report, Report.under, List.map_map]
  rfl

theorem report_said (message? : Option String) (fs : List Finding) :
    report (fs.map (said message?)) = (report fs).map (Violation.said message?) := by
  rw [report, List.map_map, report, List.map_map]
  rfl

private theorem report_flatMap {α : Type} (as : List α) (find : α → List Finding) :
    report (as.flatMap find) = as.flatMap fun a => report (find a) :=
  List.map_flatMap

theorem report_eq_nil {fs : List Finding} : report fs = [] ↔ fs = [] :=
  List.map_eq_nil_iff

end Finding

mutual

/-- What a walk finds in a slot. -/
def Validator.findings (fills : Bool) : Validator → Slot → List Finding
  | .integer c, slot => Finding.ofCause? (c.check slot.read)
  | .float c, slot => Finding.ofCause? (c.check slot.read)
  | .text c, slot => Finding.ofCause? (c.check slot.read)
  | .format f, slot => Finding.ofCause? (f.check slot.read)
  | .slice item bounds length?, slot => match slot.read with
    | .list vs => Finding.ofCause? (bounds.check "slice length" vs.length) ++ vs.zipIdx.flatMap fun e =>
        (Validator.findingsOption fills item (some e.1)).map (.under (.index e.2))
    | x => Finding.ofCause? (some (.unsupported (Validator.slice item bounds length?).toText x.kindName))
  | .map key item bounds, slot => match slot.read.entries? with
    | some es => Finding.ofCause? (bounds.check "map length" es.length) ++ es.flatMap fun e =>
        (Validator.findingsOption false key (some e.1) ++ Validator.findingsOption fills item (some e.2)).map
          (.under (.key e.1.toString))
    | none => Finding.ofCause? (some (.unsupported (Validator.map key item bounds).toText slot.read.kindName))
  | .struct checks, slot => match slot.read with
    | .struct fs => FieldCheck.findings fills checks fs
    | x => Finding.ofCause? (some (.unsupported "@struct" x.kindName))
  | .loader l, slot => l.findings fills slot

/-- What a walk finds in a slot through a loader. -/
def Loader.findings (fills : Bool) : Loader → Slot → List Finding
  | ⟨schema, inner, onEmpty, message?, codec?⟩, slot =>
    (if Loader.isEmpty ⟨schema, inner, onEmpty, message?, codec?⟩ slot.read then
        Finding.ofCause? (if onEmpty.isOptional then none else some .missing)
      else match inner with
        | none => []
        | some v => match codec? with
          | some codec => match codec.marshal slot.read with
            | .ok text => v.findings false (some (.string text))
            | .error reason => Finding.ofCause? (some (.badText reason))
          | none => v.findings fills slot).map (.said message?)

/-- What a walk finds if there is a validator. -/
def Validator.findingsOption (fills : Bool) : Option Validator → Slot → List Finding
  | none, _ => []
  | some v, slot => v.findings fills slot

/-- What the checks of fields find, each seeing what the ones before it leave. -/
def FieldCheck.findings (fills : Bool) : List FieldCheck → Fields Value → List Finding
  | [], _ => []
  | ⟨access, name, label, validator⟩ :: checks, fs =>
    (validator.findings fills (FieldCheck.slot ⟨access, name, label, validator⟩ fs)).map
        (.inField (access, name) label) ++
      FieldCheck.findings fills checks (FieldCheck.leave fills ⟨access, name, label, validator⟩ fs)

end

namespace Loader

variable {l : Loader} {slot : Slot}

theorem findings_of_empty (fills : Bool) (empty : l.isEmpty slot.read = true) :
    l.findings fills slot =
      (Finding.ofCause? (if l.onEmpty.isOptional then none else some .missing)).map (.said l.message?) := by
  cases l
  rw [Loader.findings.eq_def]
  simp only [empty, if_true]

/-- Without a codec, a loader finds in a value that is not empty what its check finds. -/
theorem findings_of_nonempty (hcodec : l.codec? = none) (fills : Bool) (nonempty : l.isEmpty slot.read = false) :
    l.findings fills slot = (Validator.findingsOption fills l.inner slot).map (.said l.message?) := by
  obtain ⟨schema, inner, onEmpty, message?, codec?⟩ := l
  obtain rfl : codec? = none := hcodec
  rw [Loader.findings.eq_def]
  simp only [nonempty, Bool.false_eq_true, if_false]
  cases inner <;> simp only [Validator.findingsOption]

/-- With a codec, the check looks at the text of a value that is not empty. -/
theorem findings_of_codec {codec : Codec} (hcodec : l.codec? = some codec) (fills : Bool)
    (nonempty : l.isEmpty slot.read = false) :
    l.findings fills slot = (match l.inner, codec.marshal slot.read with
      | none, _ => []
      | some v, .ok text => v.findings false (some (.string text))
      | some _, .error reason => Finding.ofCause? (some (.badText reason))).map (.said l.message?) := by
  obtain ⟨schema, inner, onEmpty, message?, codec?⟩ := l
  obtain rfl : codec? = some codec := hcodec
  rw [Loader.findings.eq_def]
  simp only [nonempty, Bool.false_eq_true, if_false]
  cases inner with
  | none => rfl
  | some v => cases codec.marshal slot.read <;> rfl

end Loader

theorem FieldCheck.findings_cons (fills : Bool) (c : FieldCheck) (checks : List FieldCheck) (fs : Fields Value) :
    FieldCheck.findings fills (c :: checks) fs =
      (c.validator.findings fills (c.slot fs)).map (.inField (c.access, c.name) c.label) ++
        FieldCheck.findings fills checks (c.leave fills fs) := by
  cases c
  rw [FieldCheck.findings]

mutual

/-- A walk reports what it finds. -/
theorem Validator.walk_fst_eq_findings (fills : Bool) : (v : Validator) → (slot : Slot) →
    (v.walk fills slot).1 = Finding.report (v.findings fills slot)
  | .integer _, _ | .float _, _ | .text _, _ | .format _, _ => by
    rw [Validator.walk, Validator.findings, Finding.report_ofCause?, Walk.keep]
  | .slice item bounds length?, slot => by
    have hitem := Validator.walkOption_fst_eq_findings fills item
    rw [Validator.findings]
    split
    next vs hread =>
      obtain rfl := Slot.eq_some_of_read hread nofun
      simp only [Validator.walk_slice_fst, Finding.report_append, Finding.report_ofCause?, Finding.report_flatMap,
        Finding.report_under, hitem]
    next hread =>
      rw [Validator.walk_slice_of_not_list item bounds length? fills hread]
      rfl
  | .map key item bounds, slot => by
    have hkey := Validator.walkOption_fst_eq_findings false key
    have hitem := Validator.walkOption_fst_eq_findings fills item
    rw [Validator.findings]
    split
    next es hentries =>
      obtain ⟨x, rfl, hx⟩ : ∃ x, slot = some x ∧ x.entries? = some es := by
        cases slot with
        | none => cases hentries
        | some x => exact ⟨x, rfl, hentries⟩
      rw [Validator.walk_map_fst key item bounds fills hx]
      simp only [Finding.report_append, Finding.report_ofCause?, Finding.report_flatMap, Finding.report_under, hkey,
        hitem]
    next hentries =>
      rw [Validator.walk_map_of_no_entries key item bounds fills hentries]
      rfl
  | .struct checks, slot => by
    rw [Validator.findings]
    split
    next fs hread =>
      obtain rfl := Slot.eq_some_of_read hread nofun
      simp only [Validator.walk]
      exact FieldCheck.walkAll_fst_eq_findings fills checks fs
    next hread =>
      rw [Validator.walk_struct_of_not_struct checks fills hread]
      rfl
  | .loader l, slot => by
    rw [Validator.walk, Validator.findings]
    exact Loader.walk_fst_eq_findings fills l slot

private theorem Loader.walk_fst_eq_findings (fills : Bool) : (l : Loader) → (slot : Slot) →
    (l.walk fills slot).1 = Finding.report (l.findings fills slot)
  | ⟨schema, inner, onEmpty, message?, codec?⟩, slot => by
    cases hisEmpty : Loader.isEmpty ⟨schema, inner, onEmpty, message?, codec?⟩ slot.read with
    | true =>
      rw [Loader.walk_of_empty fills hisEmpty, Loader.findings_of_empty fills hisEmpty, Finding.report_said]
      cases onEmpty <;> rfl
    | false => cases codec? with
      | none =>
        rw [Loader.walk_of_nonempty rfl fills hisEmpty, Loader.findings_of_nonempty rfl fills hisEmpty,
          Finding.report_said]
        cases inner with
        | none => simp only [Validator.findingsOption]; rfl
        | some v => simp only [Validator.findingsOption, Validator.walk_fst_eq_findings fills v slot]
      | some codec =>
        rw [Loader.findings_of_codec rfl fills hisEmpty, Finding.report_said]
        cases inner with
        | none => rw [Loader.walk_of_unchecked rfl fills hisEmpty]; rfl
        | some v =>
          have hfills : (Loader.walk fills ⟨schema, some v, onEmpty, message?, some codec⟩ slot).1 =
              (Loader.walk false ⟨schema, some v, onEmpty, message?, some codec⟩ slot).1 := by
            simp only [Loader.walk, hisEmpty, Bool.false_eq_true, if_false]
          rw [hfills, Loader.walk_fst_of_nonempty hisEmpty rfl]
          cases hmarshal : codec.marshal slot.read with
          | ok text => simp only [hmarshal, Validator.walk_fst_eq_findings false v (some (.string text))]
          | error reason => simp only [hmarshal]; rfl

private theorem Validator.walkOption_fst_eq_findings (fills : Bool) : (v? : Option Validator) → (x : Value) →
    (Walk.optional (Validator.walkOption fills v?) x).1 = Finding.report (Validator.findingsOption fills v? (some x))
  | none, _ => by rw [Validator.findingsOption]; rfl
  | some v, x => by
    rw [Validator.findingsOption]
    exact Validator.walk_fst_eq_findings fills v (some x)

private theorem FieldCheck.walkAll_fst_eq_findings (fills : Bool) : (checks : List FieldCheck) → (fs : Fields Value) →
    (FieldCheck.walkAll fills checks fs).1 = Finding.report (FieldCheck.findings fills checks fs)
  | [], _ => by rw [FieldCheck.findings]; rfl
  | ⟨access, name, label, validator⟩ :: checks, fs => by
    rw [FieldCheck.walkAll_cons_fst, FieldCheck.findings_cons, Finding.report_append, Finding.report_inField,
      Validator.walk_fst_eq_findings fills validator, FieldCheck.walkAll_fst_eq_findings fills checks]

end

/-- What validating finds, and what validating with defaults finds. -/
theorem Validator.validate_eq_findings (v : Validator) (x : Value) :
    v.validate x = Finding.report (v.findings false (some x)) :=
  v.walk_fst_eq_findings false (some x)

theorem Validator.fill_fst_eq_findings (v : Validator) (x : Value) :
    (v.fill x).1 = Finding.report (v.findings true (some x)) :=
  v.walk_fst_eq_findings true (some x)

end FieldRules

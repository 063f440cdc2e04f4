import FieldRules.Proofs.Compiler.Idle
import FieldRules.Proofs.Compiler.Presence
import FieldRules.Proofs.Validator.Findings

/-!
# Comparing what validators find

Two validators that are alike find the same up to what is made of it: messages, the texts of checks, and what a check
finds that only one of them has. `Comparison` says what two lists of findings have to have in common, and what is
asked of it so that validators that are alike compare (`Alike.compare`); the values that are looked at may be
restricted (`Coverage`), as long as the parts of one that is allowed are allowed.
-/

namespace FieldRules

/-- Values that are looked at by the loader of a schema, by the check of one that is no pointer, and by the checks of
fields, filling or not. -/
structure Coverage (keys : TagKeys) where
  value : Bool → Schema → Value → Prop
  part : Bool → Schema → Value → Prop
  fields : Bool → List FieldAt → Fields Value → Prop
  target : ∀ {fills s x}, value fills s x → s.codec? = none → s.deemsEmpty x = false → part fills s.target x
  item : ∀ {fills t vs}, t.kind ∈ [.any, .slice, .array] → part fills t (.list vs) →
    ∀ y ∈ vs, value fills (t.item?.getD .any) y
  key : ∀ {fills t x es}, t.kind ∈ [.any, .map] → part fills t x → x.entries? = some es →
    ∀ e ∈ es, value false (t.key?.getD .any) e.1
  entry : ∀ {fills t x es}, t.kind ∈ [.any, .map] → part fills t x → x.entries? = some es →
    ∀ e ∈ es, value fills (t.item?.getD .any) e.2
  struct : ∀ {fills t fs}, part fills t (.struct fs) → fields fills (t.flatFields keys []) fs
  field : ∀ {fills a as fs}, fields fills (a :: as) fs → value fills a.field.schema (a.slot fs).read
  rest : ∀ {fills a as fs}, fields fills (a :: as) fs → ∀ label v,
    fields fills as (FieldCheck.leave fills ⟨a.access, a.field.name, label, v⟩ fs)

/-- All values. -/
def Coverage.all (keys : TagKeys) : Coverage keys where
  value _ _ _ := True
  part _ _ _ := True
  fields _ _ _ := True
  target _ _ _ := trivial
  item _ _ _ _ := trivial
  key _ _ _ _ _ := trivial
  entry _ _ _ _ _ := trivial
  struct _ := trivial
  field _ := trivial
  rest _ _ _ := trivial

/-- Whether a check of a list or a map is for values like this one. -/
def Validator.takes : Validator → Value → Bool
  | .slice .., .list _ => true
  | .slice .., _ => false
  | .map .., x => x.entries?.isSome
  | _, _ => true

private theorem Validator.takes_slice {item : Option Validator} {bounds : Bounds Nat} {length? : Option Nat}
    {x : Value} (h : ∀ vs, x ≠ .list vs) : (Validator.slice item bounds length?).takes x = false := by
  cases x with
  | list vs => exact absurd rfl (h vs)
  | null | bool | int | uint | float | string | map | struct => rfl

/-- What two lists of findings have in common, when they are those of loaders for a schema with a message, and when
they are those of checks; and why it is had by what validators make of the findings of their parts. -/
structure Comparison (scope scope' : Scope) (M : Option String → Option String → Prop)
    (coverage : Coverage scope.keys) where
  loaders : Schema → Option String → List Finding → List Finding → Prop
  checks : Schema → List Finding → List Finding → Prop
  cause : ∀ t cause?, checks t (Finding.ofCause? cause?) (Finding.ofCause? cause?)
  append : ∀ {t fs gs fs' gs'}, checks t fs gs → checks t fs' gs' → checks t (fs ++ fs') (gs ++ gs')
  item : ∀ {t fs gs} i, loaders (t.item?.getD .any) none fs gs →
    checks t (fs.map (.under (.index i))) (gs.map (.under (.index i)))
  key : ∀ {t fs gs} k, loaders (t.key?.getD .any) none fs gs →
    checks t (fs.map (.under (.key k))) (gs.map (.under (.key k)))
  entry : ∀ {t fs gs} k, loaders (t.item?.getD .any) none fs gs →
    checks t (fs.map (.under (.key k))) (gs.map (.under (.key k)))
  field : ∀ {t a fs gs}, a ∈ t.flatFields scope.keys [] →
    loaders a.field.schema (a.field.tag.message? scope.keys) fs gs →
    checks t (fs.map (.inField a.spot (a.label scope.keys))) (gs.map (.inField a.spot (a.label scope.keys)))
  said : ∀ {s m m' fs gs}, M m m' → checks s.seen.target fs gs → loaders s m (fs.map (.said m)) (gs.map (.said m'))
  /-- What is said of a value that a list or a map was expected for. -/
  unsupported : ∀ {t c c' fills x}, AlikeCheck scope scope' M t c c' → coverage.part fills t x → c.takes x = false →
    checks t (Finding.ofCause? (some (.unsupported c.toText x.kindName)))
      (Finding.ofCause? (some (.unsupported c'.toText x.kindName)))
  /-- What is found by checks each of which may be left out. -/
  settled : ∀ {t c c' inferred fills slot}, AlikeCheck scope scope' M t c c' →
    (inferred = true → t.kind ≠ .any) → coverage.part fills t slot.read →
    checks t (c.findings fills slot) (c'.findings fills slot) →
    checks t (Validator.findingsOption fills (scope.settle inferred c) slot)
      (Validator.findingsOption fills (scope'.settle inferred c') slot)

/-! ### Parts that are left out -/

theorem Validator.findings_eq_nil {v : Validator} {fills : Bool} {slot : Slot} :
    v.findings fills slot = [] ↔ (v.walk fills slot).1 = [] := by
  rw [v.walk_fst_eq_findings, Finding.report_eq_nil]

/-- In a part, as much is found as if it were kept. -/
private theorem Validator.Idle.findings_keep {v : Validator} (h : v.Idle) (scope : Scope) (fills : Bool)
    (slot : Slot) : Validator.findingsOption fills (scope.keep v) slot = v.findings fills slot := by
  unfold Scope.keep
  split
  next hdropped =>
    have hnone : v.findings fills slot = [] := by
      rw [Validator.findings_eq_nil, h (Bool.and_eq_true_iff.1 hdropped).2]
    rw [hnone, Validator.findingsOption]
  next => rw [Validator.findingsOption]

/-- In fields, as much is found as if all their checks were kept. -/
private theorem FieldCheck.findings_retains (scope : Scope) (fills : Bool) {all : List FieldCheck}
    (h : ∀ c ∈ all, c.validator.Idle) (fs : Fields Value) :
    FieldCheck.findings fills (all.filter scope.retains) fs = FieldCheck.findings fills all fs := by
  induction all generalizing fs with
  | nil => rfl
  | cons c all ih =>
    obtain ⟨hc, hall⟩ := List.forall_mem_cons.1 h
    by_cases hkept : scope.retains c = true
    · rw [List.filter_cons_of_pos hkept, findings_cons, findings_cons, ih hall]
    · have hnoop : c.validator.isNoop = true := by
        simp only [Scope.retains, Bool.not_eq_true', Bool.not_eq_false, Bool.and_eq_true] at hkept
        exact hkept.2
      have hidle := hc hnoop fills
      have hleave : c.leave fills fs = fs := Walk.within_snd_of_same (Walk.field_snd_of_same (by rw [hidle]))
      have hnone : c.validator.findings fills (c.slot fs) = [] := by rw [Validator.findings_eq_nil, hidle]
      rw [List.filter_cons_of_neg hkept, ih hall, findings_cons, hleave, hnone]
      rfl

/-! ### Checks of scalars -/

private theorem Validator.findings_of_isLeaf {c : Validator} (h : c.isLeaf = true) (slot : Slot) :
    ∃ cause?, ∀ fills, c.findings fills slot = Finding.ofCause? cause? := by
  cases c with
  | integer c => exact ⟨c.check slot.read, fun _ => by rw [Validator.findings]⟩
  | float c => exact ⟨c.check slot.read, fun _ => by rw [Validator.findings]⟩
  | text c => exact ⟨c.check slot.read, fun _ => by rw [Validator.findings]⟩
  | format f => exact ⟨f.check slot.read, fun _ => by rw [Validator.findings]⟩
  | slice | map | struct | loader => cases h

variable {scope scope' : Scope} {M : Option String → Option String → Prop}

/-- Texts have one kind of check only. -/
private theorem AlikeCheck.leaf_of_string {t : Schema} (ht : t.kind = .string) {c c' : Validator} :
    AlikeCheck scope scope' M t c c' → c' = c ∧ c.isLeaf = true
  | .leaf _ hleaf => ⟨rfl, hleaf⟩
  | .slice kind _ _ | .map _ kind _ _ | .struct kind _ => by simp [ht] at kind

/-- The check of a scalar is never left out. -/
private theorem Scope.settle_of_isLeaf {c : Validator} (h : c.isLeaf = true) (inferred : Bool) :
    scope.settle inferred c = some c := by
  have hvacuous : c.isVacuous = false := by cases c <;> first | rfl | cases h
  simp [Scope.settle, hvacuous]

/-! ### Validators that are alike -/

namespace Comparison

variable {coverage : Coverage scope.keys}

private theorem flatMap (C : Comparison scope scope' M coverage) {t : Schema} {α : Type} {as : List α}
    {find find' : α → List Finding} (h : ∀ a ∈ as, C.checks t (find a) (find' a)) :
    C.checks t (as.flatMap find) (as.flatMap find') := by
  induction as with
  | nil => exact C.cause t none
  | cons a as ih =>
    obtain ⟨ha, has⟩ := List.forall_mem_cons.1 h
    rw [List.flatMap_cons, List.flatMap_cons]
    exact C.append ha (ih has)

/-- Loaders compare when their checks do. -/
private theorem loader (C : Comparison scope scope' M coverage) {s s' : Schema} (hs : s.Matches scope.keys M s')
    {m m' : Option String} (hm : M m m') {onEmpty : EmptyPolicy} {inner inner' : Option Validator} {fills : Bool}
    {slot : Slot}
    (hplain : s.codec? = none → s.deemsEmpty slot.read = false →
      C.checks s.seen.target (Validator.findingsOption fills inner slot) (Validator.findingsOption fills inner' slot))
    (hcodec : s.codec?.isSome = true → inner = inner' ∧ ∀ c ∈ inner, c.isLeaf = true) :
    C.loaders s m ((Validator.loader ⟨s, inner, onEmpty, m, s.codec?⟩).findings fills slot)
      ((Validator.loader ⟨s', inner', onEmpty, m', s'.codec?⟩).findings fills slot) := by
  rw [Validator.findings, Validator.findings]
  have hisEmpty : Loader.isEmpty ⟨s, inner, onEmpty, m, s.codec?⟩ slot.read = s.deemsEmpty slot.read := rfl
  have hisEmpty' : Loader.isEmpty ⟨s', inner', onEmpty, m', s'.codec?⟩ slot.read = s.deemsEmpty slot.read :=
    (hs.deemsEmpty _).symm
  cases hempty : s.deemsEmpty slot.read with
  | true =>
    rw [Loader.findings_of_empty fills (hisEmpty.trans hempty),
      Loader.findings_of_empty fills (hisEmpty'.trans hempty)]
    exact C.said hm (C.cause _ _)
  | false =>
    rw [hempty] at hisEmpty hisEmpty'
    cases hcodec? : s.codec? with
    | none =>
      rw [Loader.findings_of_nonempty rfl fills (hcodec? ▸ hisEmpty),
        Loader.findings_of_nonempty (hs.codec?.symm.trans hcodec?) fills hisEmpty']
      exact C.said hm (hplain hcodec? hempty)
    | some codec =>
      rw [Loader.findings_of_codec rfl fills (hcodec? ▸ hisEmpty),
        Loader.findings_of_codec (hs.codec?.symm.trans hcodec?) fills hisEmpty']
      obtain ⟨rfl, hleaf⟩ := hcodec (by rw [hcodec?]; rfl)
      refine C.said hm ?_
      cases inner with
      | none => exact C.cause _ none
      | some c => cases codec.marshal slot.read with
        | error reason => exact C.cause _ _
        | ok text =>
          obtain ⟨cause?, hcause⟩ := Validator.findings_of_isLeaf (hleaf c rfl) (some (.string text))
          simp only [hcause]
          exact C.cause _ _

end Comparison

mutual

/-- What validators that are alike find compares. -/
theorem Alike.compare {coverage : Coverage scope.keys} (C : Comparison scope scope' M coverage) {s : Schema}
    {m : Option String} {w v : Validator} : Alike scope scope' M s m w v → ∀ {fills : Bool} {slot : Slot},
    coverage.value fills s slot.read → C.loaders s m (w.findings fills slot) (v.findings fills slot)
  | .unchecked schemas messages _, fills, slot, hx => by
    refine C.loader schemas messages (fun _ _ => ?_) fun _ => ⟨rfl, nofun⟩
    rw [Validator.findingsOption]
    exact C.cause _ none
  | @Alike.checked _ _ _ s _ _ _ _ _ _ _ schemas messages _ implied checks, fills, slot, hx => by
    refine C.loader schemas messages (fun hcodec hnonempty => ?_) fun hcodec => ?_
    · have hpart : coverage.part fills s.seen.target slot.read :=
        (Schema.seen_of_plain hcodec).symm ▸ coverage.target hx hcodec hnonempty
      exact C.settled checks implied hpart (checks.compare C hpart)
    · have hseen : s.seen.target.kind = .string := by simp [Schema.seen, hcodec]; rfl
      obtain ⟨rfl, hleaf⟩ := checks.leaf_of_string hseen
      rw [Scope.settle_of_isLeaf hleaf, Scope.settle_of_isLeaf hleaf]
      exact ⟨rfl, fun c hc => Option.some.inj hc ▸ hleaf⟩

theorem AlikeCheck.compare {coverage : Coverage scope.keys} (C : Comparison scope scope' M coverage) {t : Schema}
    {c c' : Validator} : AlikeCheck scope scope' M t c c' → ∀ {fills : Bool} {slot : Slot},
    coverage.part fills t slot.read → C.checks t (c.findings fills slot) (c'.findings fills slot)
  | .leaf _ leaf, fills, slot, _ => by
    obtain ⟨cause?, hcause⟩ := Validator.findings_of_isLeaf leaf slot
    rw [hcause]
    exact C.cause t cause?
  | .slice kind length items, fills, slot, hx => by
    have hunsupported := fun h => C.unsupported (AlikeCheck.slice kind length items) hx h
    have hitem := items.idle.1.findings_keep scope fills
    have hitem' := items.idle.2.findings_keep scope' fills
    rw [Validator.findings, Validator.findings]
    split
    next vs hread =>
      rw [hread] at hx
      refine C.append (C.cause t _) (C.flatMap fun e he => ?_)
      rw [hitem, hitem']
      exact C.item e.2 (items.compare C (coverage.item kind hx e.1 (List.fst_mem_of_mem_zipIdx he)))
    next hread => exact hunsupported (Validator.takes_slice hread)
  | .map bounds kind keys_alike items, fills, slot, hx => by
    have hunsupported := fun h => C.unsupported (AlikeCheck.map bounds kind keys_alike items) hx h
    have hkey := keys_alike.idle.1.findings_keep scope false
    have hkey' := keys_alike.idle.2.findings_keep scope' false
    have hitem := items.idle.1.findings_keep scope fills
    have hitem' := items.idle.2.findings_keep scope' fills
    rw [Validator.findings, Validator.findings]
    split
    next es hentries =>
      refine C.append (C.cause t _) (C.flatMap fun e he => ?_)
      rw [hkey, hkey', hitem, hitem', List.map_append, List.map_append]
      refine C.append (C.key _ (keys_alike.compare C ?_)) (C.entry _ (items.compare C ?_))
      · exact coverage.key kind hx hentries e he
      · exact coverage.entry kind hx hentries e he
    next hentries => exact hunsupported (by rw [Validator.takes, hentries]; rfl)
  | .struct kind fields, fills, slot, hx => by
    rw [Validator.findings, Validator.findings]
    split
    next fs hread =>
      rw [hread] at hx
      rw [FieldCheck.findings_retains scope fills fields.idle.1,
        FieldCheck.findings_retains scope' fills fields.idle.2]
      exact fields.compare C (fun a ha => ha) (coverage.struct hx)
    next => exact C.cause t _

private theorem AlikeFields.compare {coverage : Coverage scope.keys} (C : Comparison scope scope' M coverage)
    {t : Schema} {as : List FieldAt} {all all' : List FieldCheck} :
    AlikeFields scope scope' M as all all' →
    (∀ a ∈ as, a ∈ t.flatFields scope.keys []) → ∀ {fills : Bool} {fs : Fields Value}, coverage.fields fills as fs →
    C.checks t (FieldCheck.findings fills all fs) (FieldCheck.findings fills all' fs)
  | .nil, _, _, _, _ => by
    rw [FieldCheck.findings]
    exact C.cause t none
  | .cons field rest, has, fills, fs, hfs => by
    obtain ⟨ha, has⟩ := List.forall_mem_cons.1 has
    rw [FieldCheck.findings_cons, FieldCheck.findings_cons, FieldCheck.leave_congr (field.walk_snd fills)]
    exact C.append (C.field ha (field.compare C (coverage.field hfs))) (rest.compare C has (coverage.rest hfs _ _))

end

end FieldRules

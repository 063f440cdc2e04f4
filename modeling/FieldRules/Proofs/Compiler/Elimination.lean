import FieldRules.Proofs.Compiler.Comparison
import FieldRules.Proofs.Schema.Conformance

/-!
# What is left out is not missed

A factory leaves out parts of lists and maps and fields of structs that do nothing, and inferred checks that accept
everything. If it left out nothing, the outcome would be the same for all values in the shape of the schema
(`Factory.compile_of_compileInFull`). Only the rule text in the report of a value of a kind that a rule has no meaning
for shows what is in the check, so it can differ; this takes a rule for lists or maps where the schema is `any`.
-/

namespace FieldRules

variable {scope scope' : Scope} {M : Option String → Option String → Prop} {keys : TagKeys}

/-! ### Accepting -/

/-- Where the first compiler leaves out nothing, nothing is found by the second validator if nothing is by the
first. -/
def Comparison.quiet (hfull : scope.simplifies = false) : Comparison scope scope' M (Coverage.all scope.keys) where
  loaders _ _ fs gs := fs = [] → gs = []
  checks _ fs gs := fs = [] → gs = []
  cause _ _ h := h
  append hfirst hsecond happend := by
    obtain ⟨hfs, hfs'⟩ := List.append_eq_nil_iff.1 happend
    rw [hfirst hfs, hsecond hfs', List.append_nil]
  item _ h hmap := by rw [h (List.map_eq_nil_iff.1 hmap), List.map_nil]
  key _ h hmap := by rw [h (List.map_eq_nil_iff.1 hmap), List.map_nil]
  entry _ h hmap := by rw [h (List.map_eq_nil_iff.1 hmap), List.map_nil]
  field _ h hmap := by rw [h (List.map_eq_nil_iff.1 hmap), List.map_nil]
  said _ h hmap := by rw [h (List.map_eq_nil_iff.1 hmap), List.map_nil]
  unsupported _ _ _ h := nomatch h
  settled := by
    intro t c c' inferred fills slot _ _ _ h hsettled
    have hkept : scope.settle inferred c = some c := by simp [Scope.settle, hfull]
    rw [hkept, Validator.findingsOption] at hsettled
    cases hkept' : scope'.settle inferred c' with
    | none => rw [Validator.findingsOption]
    | some d => rw [Validator.findingsOption, Scope.settle_eq_some hkept', h hsettled]

/-- A compiler that leaves out nothing precedes each one with the same creators. -/
private theorem Scope.precedes_of_full (hfull : scope.simplifies = false)
    (hregistry : scope'.registry = scope.registry) (hkeys : scope'.keys = scope.keys)
    (hdirect : scope.registry.Direct) (hM : M none none) :
    scope.Precedes scope' M where
  registry := hregistry
  keys := hkeys
  direct := hdirect
  no_message := hM
  backed t inferred c c' hc d' hd' := by
    obtain rfl := Scope.settle_eq_some hd'
    refine ⟨c, by simp [Scope.settle, hfull], fun x hx => ?_⟩
    rw [Validator.validate, ← Validator.findings_eq_nil] at hx ⊢
    exact hc.compare (.quiet hfull) trivial hx

/-! ### Values in the shape of a schema -/

/-- Whether a schema has no test for zero of its own in it, and, where this is asked for, no `any`, and, for a walk
that fills, different names in each struct. -/
structure Schema.Ordinary (keys : TagKeys) (strict fills : Bool) (s : Schema) : Prop where
  tests : ∀ t ∈ s.types, t.zeroTest? = none
  strict : strict = true → ∀ t ∈ s.types, t.kind ≠ .any
  apart : fills = true → s.TypesApart keys

namespace Schema.Ordinary

variable {strict fills : Bool} {s t u : Schema}

private theorem of_mem (h : s.Ordinary keys strict fills) (ht : t ∈ s.types) : t.Ordinary keys strict fills where
  tests u hu := h.tests u (s.mem_types_trans t ht u hu)
  strict hstrict u hu := h.strict hstrict u (s.mem_types_trans t ht u hu)
  apart hfills u hu := h.apart hfills u (s.mem_types_trans t ht u hu)

/-- A walk of keys does not fill. -/
private theorem unfilled (h : s.Ordinary keys strict fills) : s.Ordinary keys strict false :=
  ⟨h.tests, h.strict, nofun⟩

/-- Where nothing is known of a part, the whole is `any`. -/
theorem any (h : t.Ordinary keys strict fills) (hkind : t.kind = .any) : Schema.any.Ordinary keys strict fills where
  tests := List.forall_mem_singleton.2 rfl
  strict hstrict := absurd hkind (h.strict hstrict t t.mem_types_self)
  apart _ := (hereditary_typesApart keys).any

end Schema.Ordinary

/-- A part, if nothing else is known of it as one of `any`, is in the shape of its schema. -/
private theorem Schema.Ordinary.part {strict fills : Bool} {t : Schema} (ht : t.Ordinary keys strict fills)
    {u? : Option Schema} {y : Value} (hu : ∀ u, u? = some u → u.Admits keys y ∧ u ∈ t.types)
    (hany : u? = none → t.kind = .any) :
    (u?.getD .any).Admits keys y ∧ (u?.getD .any).Ordinary keys strict fills := by
  cases u? with
  | none => exact ⟨Schema.admits_any y, ht.any (hany rfl)⟩
  | some u => exact ⟨(hu u rfl).1, ht.of_mem (hu u rfl).2⟩

/-- The fields of a struct whose names are pairwise different are found in different places. -/
private theorem Schema.NamesApart.pairwise_flatFields {t : Schema} (h : t.NamesApart keys) :
    (t.flatFields keys []).Pairwise fun a b => SpotsApart a.spot b.spot :=
  List.pairwise_map.1 (h.pairwise_spots.sublist (t.flatFields_spots []))

/-- The walk of a field leaves the fields alone that are found in different places, and all fields if it does not
fill. -/
private theorem FieldAt.slot_leave {fills : Bool} {a b : FieldAt} (h : fills = true → SpotsApart a.spot b.spot)
    (label : String) (v : Validator) (fs : Fields Value) :
    b.slot (FieldCheck.leave fills ⟨a.access, a.field.name, label, v⟩ fs) = b.slot fs := by
  cases fills with
  | false => rw [FieldCheck.leave_false (Validator.walk_false_snd v)]
  | true =>
    let c : FieldCheck := ⟨a.access, a.field.name, label, v⟩
    let d : FieldCheck := ⟨b.access, b.field.name, label, v⟩
    have hapart : c.Apart d := h rfl
    exact FieldCheck.slot_leave hapart true fs

/-- Values in the shape of a schema. -/
def Coverage.admitted (keys : TagKeys) (strict : Bool) : Coverage keys where
  value fills s x := s.Admits keys x ∧ s.Ordinary keys strict fills
  part fills t x := t.Holds keys x ∧ t.Ordinary keys strict fills
  fields fills as fs := (fills = true → as.Pairwise fun a b => SpotsApart a.spot b.spot) ∧
    ∀ a ∈ as, a.field.schema.Admits keys (a.slot fs).read ∧ a.field.schema.Ordinary keys strict fills
  target := by
    rintro fills s x ⟨hx, hs⟩ hcodec hnonempty
    refine ⟨hx.holds ?_ hcodec, hs.of_mem s.mem_types_target⟩
    rintro rfl
    exact absurd (s.deemsEmpty_null (hs.tests s s.mem_types_self)) (by simp [hnonempty])
  item := by
    rintro fills t vs hkind ⟨hx, ht⟩ y hy
    exact ht.part (fun u hu => ⟨hx.items hu y hy, t.mem_types_item hu⟩) (t.kind_of_item_eq_none hkind)
  key := by
    rintro fills t x es hkind ⟨hx, ht⟩ hes e he
    refine ht.unfilled.part (fun u hu => ⟨(hx.entries hkind hes).1 u hu e he, t.mem_types_key hu⟩) fun h => ?_
    exact t.kind_of_key_eq_none hkind (.inl h)
  entry := by
    rintro fills t x es hkind ⟨hx, ht⟩ hes e he
    refine ht.part (fun u hu => ⟨(hx.entries hkind hes).2 u hu e he, t.mem_types_item hu⟩) fun h => ?_
    exact t.kind_of_key_eq_none hkind (.inr h)
  struct := by
    rintro fills t fs ⟨hx, ht⟩
    refine ⟨fun hfills => (ht.apart hfills t t.mem_types_self).pairwise_flatFields, fun a ha => ?_⟩
    exact ⟨hx.fields a ha, ht.of_mem (t.mem_types_of_flatFields [] a ha)⟩
  field h := h.2 _ (List.mem_cons_self ..)
  rest := by
    rintro fills a as fs ⟨hapart, has⟩ label v
    refine ⟨fun hfills => (List.pairwise_cons.1 (hapart hfills)).2, fun b hb => ?_⟩
    rw [FieldAt.slot_leave fun hfills => (List.pairwise_cons.1 (hapart hfills)).1 b hb]
    exact has b (List.mem_cons_of_mem _ hb)

/-- A check of lists that accepts everything accepts the lengths that the schema allows. -/
private theorem Bounds.check_of_isVacuous {item : Option Validator} {bounds : Bounds Nat} {length? : Option Nat}
    (hvacuous : (Validator.slice item bounds length?).isVacuous = true)
    (hlength : checkLength bounds length? = .ok ()) {n : Nat} (hn : ∀ max, length? = some max → n ≤ max) :
    bounds.check "slice length" n = none := by
  simp only [Validator.isVacuous, Bool.and_eq_true, Bool.or_eq_true, Option.isNone_iff_eq_none,
    beq_iff_eq] at hvacuous
  obtain ⟨⟨-, hmin⟩, hmax⟩ := hvacuous
  have habove : bounds.above n = true := by simp only [Bounds.above, hmin]
  have hbelow : bounds.below n = true := by
    unfold Bounds.below
    split
    next => rfl
    next max hsome =>
      rcases hmax with hnone | hmax
      · cases hnone.symm.trans hsome
      · rw [hsome] at hmax
        rw [← hmax] at hlength
        rw [(checkLength_eq_ok hlength).2, if_neg Bool.false_ne_true]
        exact decide_eq_true (hn max hmax.symm)
  rw [Bounds.check, Bounds.contains, habove, hbelow]
  rfl

/-- A check that accepts everything finds nothing in a value in the shape of its schema, unless that is `any`. -/
private theorem AlikeCheck.findings_of_isVacuous {t : Schema} {c c' : Validator}
    (h : AlikeCheck scope scope' M t c c') (hany : t.kind ≠ .any) (hvacuous : c'.isVacuous = true) {slot : Slot}
    (hx : t.Holds keys slot.read) (fills : Bool) : c'.findings fills slot = [] := by
  cases h with
  | leaf _ leaf => cases c <;> first | cases hvacuous | cases leaf
  | @slice _ _ item' bounds kind length _ =>
    obtain ⟨vs, hread, hlength⟩ := hx.list_of_kind ((List.mem_cons.1 kind).resolve_left hany)
    obtain rfl := Slot.eq_some_of_read hread (by simp)
    have hbounds := Bounds.check_of_isVacuous hvacuous length hlength
    have hitem : scope'.keep item' = none := by
      simp only [Validator.isVacuous, Bool.and_eq_true] at hvacuous
      exact Option.isNone_iff_eq_none.1 hvacuous.1.1
    rw [Validator.findings_eq_nil, Validator.walk_slice_fst, hbounds, hitem]
    simp [Walk.optional_none, Report.ofCause?, Report.under]
  | map bounds kind _ _ =>
    obtain ⟨es, hentries⟩ := hx.entries_of_kind (List.mem_singleton.1 ((List.mem_cons.1 kind).resolve_left hany))
    simp only [Validator.isVacuous, Bool.and_eq_true, Option.isNone_iff_eq_none] at hvacuous
    obtain ⟨⟨hkey, hitem⟩, hbounds⟩ := hvacuous
    rw [hkey, hitem, Bounds.eq_empty_of_isTrivial hbounds, Validator.findings]
    simp only [hentries, Validator.findingsOption, List.append_nil, List.map_nil]
    simp [Bounds.check, Bounds.contains, Bounds.above, Bounds.below, Finding.ofCause?, Report.ofCause?]
  | struct kind _ =>
    obtain ⟨fs, hread⟩ := hx.struct_of_kind (List.mem_singleton.1 ((List.mem_cons.1 kind).resolve_left hany))
    rw [List.isEmpty_iff.1 hvacuous, Validator.findings, hread]
    rfl

/-- A check is for the values in the shape of its schema, unless that is `any`. -/
private theorem AlikeCheck.takes_of_holds {t : Schema} {c c' : Validator} (h : AlikeCheck scope scope' M t c c')
    (hany : t.kind ≠ .any) {x : Value} (hx : t.Holds keys x) : c.takes x = true := by
  cases h with
  | leaf _ leaf => cases c <;> first | rfl | cases leaf
  | slice kind _ _ =>
    obtain ⟨vs, rfl, -⟩ := hx.list_of_kind ((List.mem_cons.1 kind).resolve_left hany)
    rfl
  | map _ kind _ _ =>
    obtain ⟨es, hentries⟩ := hx.entries_of_kind (List.mem_singleton.1 ((List.mem_cons.1 kind).resolve_left hany))
    rw [Validator.takes, hentries, Option.isSome_some]
  | struct => rfl

/-! ### Reports up to rule texts -/

/-- A cause without the rule text that is shown for a value of a kind that the rule has no meaning for. -/
def Cause.unruled : Cause → Cause
  | .unsupported _ kind => .unsupported "" kind
  | cause => cause

/-- A violation without the rule text that is shown for a value of a kind that the rule has no meaning for. -/
def Violation.unruled (w : Violation) : Violation :=
  { w with cause := w.cause.unruled }

/-- A view of violations that commutes with what is done to the reports of parts. -/
structure Violation.View (view : Violation → Violation) : Prop where
  under : ∀ segment w, view (w.under segment) = (view w).under segment
  said : ∀ message? w, view (w.said message?) = (view w).said message?

private theorem Violation.View.map {view step : Violation → Violation} (hstep : ∀ w, view (step w) = step (view w))
    {r r' : Report} (h : r.map view = r'.map view) : (r.map step).map view = (r'.map step).map view := by
  have hcomm (r : Report) : (r.map step).map view = (r.map view).map step := by
    rw [List.map_map, List.map_map]
    exact List.map_congr_left fun w _ => hstep w
  rw [hcomm, hcomm, h]

/-- Where the first compiler leaves out nothing, values in the shape of the schema have the same reports, seen without
the texts of rules, or exactly the same ones if there is no `any`. -/
def Comparison.admitted (hfull : scope.simplifies = false) {strict : Bool} {view : Violation → Violation}
    (hview : Violation.View view) (hloose : strict = false → ∀ text text' kind,
      view { cause := .unsupported text kind } = view { cause := .unsupported text' kind }) :
    Comparison scope scope' Eq (Coverage.admitted scope.keys strict) where
  loaders _ _ fs gs := (Finding.report fs).map view = (Finding.report gs).map view
  checks _ fs gs := (Finding.report fs).map view = (Finding.report gs).map view
  cause _ _ := rfl
  append h h' := by rw [Finding.report_append, Finding.report_append, List.map_append, List.map_append, h, h']
  item i h := by
    rw [Finding.report_under, Finding.report_under]
    exact Violation.View.map (hview.under (.index i)) h
  key k h := by
    rw [Finding.report_under, Finding.report_under]
    exact Violation.View.map (hview.under (.key k)) h
  entry k h := by
    rw [Finding.report_under, Finding.report_under]
    exact Violation.View.map (hview.under (.key k)) h
  field _ h := by
    rw [Finding.report_inField, Finding.report_inField]
    exact Violation.View.map (hview.under (.field _)) h
  said {_ m m' _ _} hm h := by
    obtain rfl : m = m' := hm
    rw [Finding.report_said, Finding.report_said]
    exact Violation.View.map (hview.said m) h
  unsupported := by
    rintro t c c' fills x hc ⟨hx, ht⟩ htakes
    cases strict with
    | false =>
      have hsame := hloose rfl c.toText c'.toText x.kindName
      exact congrArg (fun w => [w]) hsame
    | true => cases (hc.takes_of_holds (ht.strict rfl t t.mem_types_self) hx).symm.trans htakes
  settled := by
    rintro t c c' inferred fills slot hc hany ⟨hx, -⟩ h
    have hkept : scope.settle inferred c = some c := by simp [Scope.settle, hfull]
    rw [hkept, Validator.findingsOption]
    cases hkept' : scope'.settle inferred c' with
    | none =>
      obtain ⟨-, hinferred, hvacuous⟩ := Scope.settle_eq_none.1 hkept'
      rw [h, hc.findings_of_isVacuous (hany hinferred) hvacuous hx, Validator.findingsOption]
    | some d => rw [Validator.findingsOption, Scope.settle_eq_some hkept', h]

private theorem Violation.View.id : Violation.View id :=
  ⟨fun _ _ => rfl, fun _ _ => rfl⟩

private theorem Violation.View.unruled : Violation.View Violation.unruled :=
  ⟨fun _ _ => rfl, fun _ _ => rfl⟩

/-- What two validators that are alike report of a value in the shape of the schema, when the first one was made
without leaving anything out. -/
theorem Alike.report_eq (hfull : scope.simplifies = false) {s : Schema} {m : Option String} {w v : Validator}
    (h : Alike scope scope' Eq s m w v) (htests : ∀ t ∈ s.types, t.zeroTest? = none) {slot : Slot}
    (hx : s.Admits scope.keys slot.read) {fills : Bool} (hnames : fills = true → s.TypesApart scope.keys) :
    (w.walk fills slot).1.map Violation.unruled = (v.walk fills slot).1.map Violation.unruled ∧
      ((∀ t ∈ s.types, t.kind ≠ .any) → (w.walk fills slot).1 = (v.walk fills slot).1) := by
  rw [w.walk_fst_eq_findings, v.walk_fst_eq_findings]
  constructor
  · exact h.compare (@Comparison.admitted _ _ hfull false _ .unruled fun _ _ _ _ => rfl) ⟨hx, htests, nofun, hnames⟩
  · intro hany
    have hsame : (Finding.report (w.findings fills slot)).map id = (Finding.report (v.findings fills slot)).map id :=
      h.compare (@Comparison.admitted _ _ hfull true _ .id nofun) ⟨hx, htests, fun _ => hany, hnames⟩
    rwa [List.map_id, List.map_id] at hsame

namespace Factory

/-- What a factory without a cache would make of a rule text if it left nothing out. -/
def compileInFull (f : Factory) (rule : String) (s : Schema) (mods : List Modifier) : Compiled Validator :=
  (readRule rule : Compiled (Option Rule)) >>= fun rule? =>
    s.compile (.plain { f.scope with simplifies := false }) rule? mods

private theorem exists_of_compileInFull {f : Factory} {rule : String} {s : Schema} {mods : List Modifier}
    {test : Validator → Validator → Bool}
    (h : ((f.compileInFull rule s mods).toOption.any fun w =>
      (f.compile rule s mods).1.toOption.any fun v => test w v) = true) :
    ∃ w v, f.compileInFull rule s mods = .ok w ∧ (f.compile rule s mods).1 = .ok v ∧ test w v = true := by
  obtain ⟨w, hw, h⟩ := exists_of_toOption_any h
  obtain ⟨v, hv, h⟩ := exists_of_toOption_any h
  exact ⟨w, v, hw, hv, h⟩

/-- What is left out is not missed. When a rule text compiles for a schema without tests for zero of its own and
nothing is left out, it compiles, and the two validators leave the same values behind. On values in the shape of the
schema they report the same, but for the rule text that is shown for a value of a kind that a rule has no meaning for,
and also when they fill in defaults, if the names are pairwise different in each struct. Without `any` in the schema
the reports are exactly the same. -/
theorem compile_of_compileInFull {f : Factory} (hcache : f.config.cache = false) (hdirect : f.registry.Direct)
    {rule : String} {s : Schema} (htests : ∀ t ∈ s.types, t.zeroTest? = none) {mods : List Modifier} {w : Validator}
    (hw : f.compileInFull rule s mods = .ok w) :
    ∃ v, (f.compile rule s mods).1 = .ok v ∧ ∀ x, (v.fill x).2 = (w.fill x).2 ∧
      (s.Admits f.config.tagKeys x →
        ((v.validate x).map Violation.unruled = (w.validate x).map Violation.unruled ∧
          (s.TypesApart f.config.tagKeys →
            (v.fill x).1.map Violation.unruled = (w.fill x).1.map Violation.unruled)) ∧
        ((∀ t ∈ s.types, t.kind ≠ .any) →
          v.validate x = w.validate x ∧ (s.TypesApart f.config.tagKeys → (v.fill x).1 = (w.fill x).1))) := by
  let full : Scope := { f.scope with simplifies := false }
  obtain ⟨rule?, hread, hw⟩ := bind_eq_ok.1 hw
  have hrule : ∀ r ∈ rule?, r.WellFormed := wellFormed_of_readRule hread
  have hscopes : full.Precedes f.scope Eq := Scope.precedes_of_full rfl rfl rfl hdirect rfl
  have hself : s.Matches full.keys Eq s := .refl (fun _ => rfl) s
  obtain ⟨v, hv, halike⟩ := Schema.compile_alike hscopes hself hrule (fun _ => rfl) rfl w hw
  refine ⟨v, (compile_eq_ok_iff hcache).2 ⟨rule?, hread, hv⟩, fun x => ⟨?_, fun hx => ?_⟩⟩
  · simp only [Validator.fill, halike.walk_snd]
  · obtain ⟨hloose, hstrict⟩ := @Alike.report_eq _ _ rfl _ _ _ _ halike htests (some x) hx false fun h =>
      absurd h Bool.false_ne_true
    have hfill := fun hnames => @Alike.report_eq _ _ rfl _ _ _ _ halike htests (some x) hx true fun _ => hnames
    refine ⟨⟨hloose.symm, fun hnames => (hfill hnames).1.symm⟩, fun hany => ⟨(hstrict hany).symm, fun hnames => ?_⟩⟩
    exact ((hfill hnames).2 hany).symm

/-- A struct with lists of lists and an array that nothing is asked of, and a default. -/
theorem compile_of_compileInFull_nested :
    let number := (Field.plain "number" (.int 64)).withRule "@int64[1,]"
    let tags := Field.plain "tags" (.slice (.slice .string))
    let codes := Field.plain "codes" (.array (.int 64) 2)
    let note := (Field.plain "note" .string).withTag (Tag.empty.withEntry "default" "none")
    let s := Schema.struct "order" [number, tags, codes, note]
    let f := builtin { cache := false }
    let x := Value.struct [("number", .int (-5)), ("tags", .list [.list [.string "a"], .null]),
      ("codes", .list [.int 7])]
    (∀ t ∈ s.types, t.zeroTest? = none) ∧ (∀ t ∈ s.types, t.kind ≠ .any) ∧ s.TypesApart {} ∧ s.Admits {} x ∧
      ∃ w v, f.compileInFull "" s [] = .ok w ∧ (f.compile "" s []).1 = .ok v ∧
        v.validate x = w.validate x ∧ (v.fill x).1 = (w.fill x).1 ∧ (v.fill x).2 = (w.fill x).2 ∧
        w.nodes.length = 13 ∧ v.nodes.length = 5 ∧ (v.validate x).length = 1 := by
  intro number tags codes note s f x
  have htests : ∀ t ∈ s.types, t.zeroTest? = none := by
    have hnone : ∀ t ∈ s.types, t.zeroTest?.isNone = true := by decide +kernel
    exact fun t ht => Option.isNone_iff_eq_none.1 (hnone t ht)
  have hany : ∀ t ∈ s.types, t.kind ≠ .any := by decide +kernel
  have hnames : s.TypesApart {} := by decide +kernel
  have hfields : s.flatFields {} [] = [⟨[], number⟩, ⟨[], tags⟩, ⟨[], codes⟩, ⟨[], note⟩] := by
    show Field.flatFields {} [] [number, tags, codes, note] = _
    rw [Field.flatFields_cons_checked (by decide +kernel), Field.flatFields_cons_checked (by decide +kernel),
      Field.flatFields_cons_checked (by decide +kernel), Field.flatFields_cons_checked (by decide +kernel)]
    rfl
  have hx : s.Admits {} x := by
    refine .held (.struct rfl ?_)
    have htarget : s.target = s := rfl
    rw [htarget, hfields]
    simp only [List.forall_mem_cons]
    refine ⟨.held (.scalar _ rfl), .held (.list (by decide) nofun ?_), .held (.list (by decide) ?_ ?_), .null _,
      List.forall_mem_nil _⟩
    · rintro _ ⟨⟩
      simp only [List.forall_mem_cons]
      refine ⟨.held (.list (by decide) nofun ?_), .null _, List.forall_mem_nil _⟩
      rintro _ ⟨⟩ y hy
      exact .held (.scalar _ rfl)
    · rintro _ ⟨⟩
      decide
    · rintro _ ⟨⟩ y hy
      exact .held (.scalar _ rfl)
  obtain ⟨w, v, hw, hv, hruns⟩ := @exists_of_compileInFull f "" s [] (fun w v =>
    decide (w.nodes.length = 13 ∧ v.nodes.length = 5 ∧ (v.validate x).length = 1)) (by decide +kernel)
  obtain ⟨v', hv', hsame⟩ := compile_of_compileInFull rfl Registry.direct_builtin htests hw
  obtain rfl := Except.ok.inj (hv.symm.trans hv')
  obtain ⟨hfill, hreports⟩ := hsame x
  obtain ⟨hvalidate, hfilled⟩ := (hreports hx).2 hany
  exact ⟨htests, hany, hnames, hx, w, v, hw, hv, hvalidate, hfilled hnames, hfill, of_decide_eq_true hruns⟩

/-- Three reports that differ. A text is reported with another rule text where a rule for lists checks it as `any`;
what is a text for a codec is refused behind a pointer only by a check that is left out; and where a name is given
twice, the check of a list sees the text that was filled in for the other field, unless it is left out. -/
theorem compileInFull_differs :
    let f := builtin { cache := false }
    let id := Schema.pointer ((Schema.struct "Id" []).withCodec .upper)
    let text := (Field.plain "a" .string).withTag (Tag.empty.withEntry "default" "x")
    let t := Schema.struct "T" [text, .plain "a" (.slice (.int 64))]
    let x := Value.string "text"
    let y := Value.struct [("debug", .bool true)]
    (∃ w v, f.compileInFull "@slice" .any [] = .ok w ∧ (f.compile "@slice" .any []).1 = .ok v ∧
      Schema.Admits {} .any x ∧ w.validate x = [⟨[], .unsupported "@slice<>" "string", none⟩] ∧
      v.validate x = [⟨[], .unsupported "@slice" "string", none⟩]) ∧
    (∃ w v, f.compileInFull "" id [] = .ok w ∧ (f.compile "" id []).1 = .ok v ∧
      w.validate x = [⟨[], .unsupported "@struct" "string", none⟩] ∧ v.validate x = []) ∧
    ∃ w v, f.compileInFull "" t [] = .ok w ∧ (f.compile "" t []).1 = .ok v ∧ t.Admits {} y ∧
      (w.fill y).1 = [⟨[.field "a"], .unsupported "@slice<>" "string", none⟩] ∧ (v.fill y).1 = [] := by
  intro f id text t x y
  refine ⟨?_, ?_, ?_⟩
  · obtain ⟨w, v, hw, hv, hruns⟩ := @exists_of_compileInFull f "@slice" .any []
      (fun w v => decide (w.validate x = [⟨[], .unsupported "@slice<>" "string", none⟩] ∧
        v.validate x = [⟨[], .unsupported "@slice" "string", none⟩])) (by decide +kernel)
    exact ⟨w, v, hw, hv, Schema.admits_any x, of_decide_eq_true hruns⟩
  · obtain ⟨w, v, hw, hv, hruns⟩ := @exists_of_compileInFull f "" id []
      (fun w v => decide (w.validate x = [⟨[], .unsupported "@struct" "string", none⟩] ∧
        v.validate x = [])) (by decide +kernel)
    exact ⟨w, v, hw, hv, of_decide_eq_true hruns⟩
  · obtain ⟨w, v, hw, hv, hruns⟩ := @exists_of_compileInFull f "" t []
      (fun w v => decide ((w.fill y).1 = [⟨[.field "a"], .unsupported "@slice<>" "string", none⟩] ∧
        (v.fill y).1 = [])) (by decide +kernel)
    refine ⟨w, v, hw, hv, ?_, of_decide_eq_true hruns⟩
    have hfields : t.flatFields {} [] = [⟨[], text⟩, ⟨[], .plain "a" (.slice (.int 64))⟩] := by
      show Field.flatFields {} [] [text, .plain "a" (.slice (.int 64))] = _
      rw [Field.flatFields_cons_checked (by decide +kernel), Field.flatFields_cons_checked (by decide +kernel)]
      rfl
    refine .held (.struct rfl fun a ha => ?_)
    rw [show t.target = t from rfl, hfields] at ha
    rcases List.mem_cons.1 ha with rfl | ha
    · exact .null _
    · obtain rfl := List.mem_singleton.1 ha
      exact .null _

end Factory

end FieldRules

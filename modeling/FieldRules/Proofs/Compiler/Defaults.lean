import FieldRules.Proofs.Compiler.Messages
import FieldRules.Proofs.Compiler.Settling
import FieldRules.Proofs.Schema.Conformance
import FieldRules.Proofs.Schema.Reading

/-!
# Accepted defaults

A default that is accepted is what its text stands for, and every check that is kept accepts it. So it is in the shape
of the schema as far as checks look (`Schema.Fits`): a list where a check for lists is kept, and so on for its items,
for the entries of maps and for fields (`Factory.default_fits`). Where nothing is checked, nothing is known of it,
since a document may hold anything.
-/

namespace FieldRules

/-! ### Shapes as far as checks look -/

mutual

/-- Whether a value is in the shape of a schema as far as a loader for it looks: empty values and, with a codec, all
values are, and where nothing is checked. -/
inductive Schema.Fits (keys : TagKeys) : Schema → Validator → Value → Prop
  | empty {l : Loader} {x : Value} (empty : l.schema.deemsEmpty x = true) : Schema.Fits keys l.schema (.loader l) x
  | encoded {l : Loader} (x : Value) (codec : l.schema.codec?.isSome = true) :
      Schema.Fits keys l.schema (.loader l) x
  | unchecked {l : Loader} (x : Value) (check : l.inner = none) : Schema.Fits keys l.schema (.loader l) x
  | checked {l : Loader} {c : Validator} {x : Value} (check : l.inner = some c)
      (fits : Schema.FitsCheck keys l.schema.target c x) : Schema.Fits keys l.schema (.loader l) x

/-- Whether a value is in the shape of a schema that is no pointer, as far as a check for it looks. -/
inductive Schema.FitsCheck (keys : TagKeys) : Schema → Validator → Value → Prop
  | scalar {t : Schema} {c : Validator} {x : Value} (kind : t.kind ∈ [.any, .int, .uint, .float, .string])
      (leaf : c.isLeaf = true) (accepted : c.validate x = []) : Schema.FitsCheck keys t c x
  | list {t : Schema} {item? : Option Validator} {bounds : Bounds Nat} {vs : List Value}
      (kind : t.kind ∈ [.any, .slice, .array]) (length : ∀ n, t.length? = some n → vs.length ≤ n)
      (items : ∀ v ∈ item?, ∀ y ∈ vs, Schema.Fits keys (t.item?.getD .any) v y) :
      Schema.FitsCheck keys t (.slice item? bounds t.length?) (.list vs)
  | map {t : Schema} {key? item? : Option Validator} (bounds : Bounds Nat) {x : Value} {es : List (Value × Value)}
      (kind : t.kind ∈ [.any, .map]) (entries : x.entries? = some es)
      (keys_fit : ∀ v ∈ key?, ∀ e ∈ es, Schema.Fits keys (t.key?.getD .any) v e.1)
      (items_fit : ∀ v ∈ item?, ∀ e ∈ es, Schema.Fits keys (t.item?.getD .any) v e.2) :
      Schema.FitsCheck keys t (.map key? item? bounds) x
  | struct {t : Schema} {checks : List FieldCheck} {fs : Fields Value} (kind : t.kind ∈ [.any, .struct])
      (fields : Schema.FitsFields keys fs (t.flatFields keys []) checks) :
      Schema.FitsCheck keys t (.struct checks) (.struct fs)

/-- Whether what a struct holds is in the shape of its fields, as far as their checks look; some have none. -/
inductive Schema.FitsFields (keys : TagKeys) : Fields Value → List FieldAt → List FieldCheck → Prop
  | nil (fs : Fields Value) : Schema.FitsFields keys fs [] []
  | unchecked {fs : Fields Value} (a : FieldAt) {as : List FieldAt} {checks : List FieldCheck}
      (rest : Schema.FitsFields keys fs as checks) : Schema.FitsFields keys fs (a :: as) checks
  | checked {fs : Fields Value} {a : FieldAt} {as : List FieldAt} {c : FieldCheck} {checks : List FieldCheck}
      (spot : c.spot = a.spot) (value : Schema.Fits keys a.field.schema c.validator (a.slot fs).read)
      (rest : Schema.FitsFields keys fs as checks) : Schema.FitsFields keys fs (a :: as) (c :: checks)

end

/-- A list that a rule for lists accepts is no longer than an array. -/
private theorem Bounds.length_le_of_check {bounds : Bounds Nat} {length? : Option Nat}
    (hlength : checkLength bounds length? = .ok ()) {target : String} {n : Nat} (h : bounds.check target n = none) :
    ∀ max, length? = some max → n ≤ max := by
  rintro max rfl
  obtain ⟨hmax, hinclusive⟩ := checkLength_eq_ok hlength
  have hcontains : bounds.contains n = true := by
    unfold Bounds.check at h
    split at h
    next hcontains => exact hcontains
    next => cases h
  have hbelow := (Bool.and_eq_true_iff.1 hcontains).2
  rw [Bounds.below, hmax, hinclusive] at hbelow
  exact of_decide_eq_true hbelow

private theorem Finding.ofCause?_eq_nil {cause? : Option Cause} : Finding.ofCause? cause? = [] ↔ cause? = none := by
  cases cause? <;> simp [Finding.ofCause?, Report.ofCause?]

/-- The check of a scalar looks at what the slot reads as. -/
private theorem Validator.findings_read_of_isLeaf {c : Validator} (h : c.isLeaf = true) (fills : Bool) (slot : Slot) :
    c.findings fills slot = c.findings fills (some slot.read) := by
  cases c with
  | integer | float | text | format => rw [Validator.findings, Validator.findings]; rfl
  | slice | map | struct | loader => cases h

private theorem Scope.keep_eq_some {scope : Scope} {v w : Validator} (h : scope.keep v = some w) : w = v := by
  unfold Scope.keep at h
  split at h
  · cases h
  · exact (Option.some.inj h).symm

/-- A value in which a loader finds nothing is in the shape of its schema as far as it looks, if this holds of the
check. -/
private theorem Loader.fits_of_findings {keys : TagKeys} {l : Loader} (hcodec : l.codec? = l.schema.codec?)
    {slot : Slot}
    (hcheck : ∀ c ∈ l.inner, l.schema.codec? = none → c.findings false slot = [] →
      Schema.FitsCheck keys l.schema.target c slot.read) (h : l.findings false slot = []) :
    Schema.Fits keys l.schema (.loader l) slot.read := by
  cases hplain : l.schema.codec? with
  | some codec => exact .encoded _ (by rw [hplain]; rfl)
  | none =>
    cases hempty : l.isEmpty slot.read with
    | true => exact .empty hempty
    | false =>
      rw [Loader.findings_of_nonempty (hcodec.trans hplain) false hempty, List.map_eq_nil_iff] at h
      cases hinner : l.inner with
      | none => exact .unchecked _ hinner
      | some c =>
        rw [hinner, Validator.findingsOption] at h
        exact .checked hinner (hcheck c hinner hplain h)

variable {scope scope' : Scope} {M : Option String → Option String → Prop}

mutual

/-- A value in which nothing is found is in the shape of the schema as far as the loader looks. -/
private theorem Alike.fits {s : Schema} {m : Option String} {w v : Validator} : Alike scope scope' M s m w v →
    ∀ {slot : Slot}, w.findings false slot = [] → s.Fits scope.keys w slot.read
  | @Alike.unchecked _ _ _ s _ m _ onEmpty _ _ _, slot, h => by
    rw [Validator.findings] at h
    exact @Loader.fits_of_findings scope.keys ⟨s, none, onEmpty, m, s.codec?⟩ rfl slot nofun h
  | @Alike.checked _ _ _ s _ m _ onEmpty inferred c _ _ _ _ _ checks, slot, h => by
    rw [Validator.findings] at h
    refine @Loader.fits_of_findings scope.keys ⟨s, scope.settle inferred c, onEmpty, m, s.codec?⟩ rfl slot ?_ h
    intro d hd hcodec hnone
    rw [Scope.settle_eq_some hd] at hnone ⊢
    have hfits := checks.fits hnone
    rwa [Schema.seen_of_plain hcodec] at hfits

/-- A value in which nothing is found is in the shape of the schema as far as the check looks. -/
private theorem AlikeCheck.fits {t : Schema} {c c' : Validator} : AlikeCheck scope scope' M t c c' →
    ∀ {slot : Slot}, c.findings false slot = [] → t.FitsCheck scope.keys c slot.read
  | .leaf kind leaf, slot, h => by
    rw [Validator.findings_read_of_isLeaf leaf, Validator.findings_eq_nil] at h
    exact .scalar kind leaf h
  | .slice kind length items, slot, h => by
    rw [Validator.findings] at h
    split at h
    next vs hread =>
      obtain ⟨hbounds, hitems⟩ := List.append_eq_nil_iff.1 h
      rw [hread]
      refine .list kind (Bounds.length_le_of_check length (Finding.ofCause?_eq_nil.1 hbounds)) ?_
      intro v hv y hy
      obtain ⟨i, hi, rfl⟩ := List.getElem_of_mem hy
      have hitem := List.flatMap_eq_nil_iff.1 hitems (vs[i], i) (List.mk_mem_zipIdx_iff_getElem?.2 (by simp))
      rw [List.map_eq_nil_iff, Option.mem_def.1 hv, Validator.findingsOption, Scope.keep_eq_some hv] at hitem
      exact Scope.keep_eq_some hv ▸ items.fits hitem
    next => exact absurd (Finding.ofCause?_eq_nil.1 h) (Option.some_ne_none _)
  | .map bounds kind keys_alike items, slot, h => by
    rw [Validator.findings] at h
    split at h
    next es hentries =>
      have hparts := List.flatMap_eq_nil_iff.1 (List.append_eq_nil_iff.1 h).2
      simp only [List.map_eq_nil_iff, List.append_eq_nil_iff] at hparts
      refine .map bounds kind hentries ?_ ?_
      · intro v hv e he
        have hkey := (hparts e he).1
        rw [Option.mem_def.1 hv, Validator.findingsOption, Scope.keep_eq_some hv] at hkey
        exact Scope.keep_eq_some hv ▸ keys_alike.fits hkey
      · intro v hv e he
        have hitem := (hparts e he).2
        rw [Option.mem_def.1 hv, Validator.findingsOption, Scope.keep_eq_some hv] at hitem
        exact Scope.keep_eq_some hv ▸ items.fits hitem
    next => exact absurd (Finding.ofCause?_eq_nil.1 h) (Option.some_ne_none _)
  | .struct kind fields, slot, h => by
    rw [Validator.findings] at h
    split at h
    next fs hread =>
      rw [hread]
      exact .struct kind (fields.fits h)
    next => exact absurd (Finding.ofCause?_eq_nil.1 h) (Option.some_ne_none _)

/-- A struct in which nothing is found holds values in the shape of its fields as far as their checks look. -/
private theorem AlikeFields.fits {as : List FieldAt} {all all' : List FieldCheck} :
    AlikeFields scope scope' M as all all' →
    ∀ {fs : Fields Value}, FieldCheck.findings false (all.filter scope.retains) fs = [] →
      Schema.FitsFields scope.keys fs as (all.filter scope.retains)
  | .nil, fs, _ => .nil fs
  | @AlikeFields.cons _ _ _ a v _ _ all _ field rest, fs, h => by
    let c : FieldCheck := ⟨a.access, a.field.name, a.label scope.keys, v⟩
    by_cases hkept : scope.retains c = true
    · rw [List.filter_cons_of_pos hkept] at h ⊢
      rw [FieldCheck.findings_cons, FieldCheck.leave_false (Validator.walk_false_snd c.validator)] at h
      obtain ⟨hfield, hrest⟩ := List.append_eq_nil_iff.1 h
      exact .checked rfl (field.fits (List.map_eq_nil_iff.1 hfield)) (rest.fits hrest)
    · rw [List.filter_cons_of_neg hkept] at h ⊢
      exact .unchecked a (rest.fits h)

end

/-! ### Loaders in a validator -/

private theorem Validator.mem_nodes_of_isLeaf {c : Validator} (h : c.isLeaf = true) (l : Loader) :
    Validator.loader l ∉ c.nodes := by
  cases c <;> first | (simp [Validator.nodes]; done) | cases h

private theorem Validator.mem_nodesOption {v? : Option Validator} {w : Validator} (h : w ∈ Validator.nodesOption v?) :
    ∃ v, v? = some v ∧ w ∈ v.nodes := by
  cases v? with
  | none => cases h
  | some v => exact ⟨v, rfl, h⟩

private theorem Scope.mem_nodes_of_keep {v w : Validator} (h : w ∈ Validator.nodesOption (scope.keep v)) :
    w ∈ v.nodes := by
  obtain ⟨d, hkept, h⟩ := Validator.mem_nodesOption h
  rwa [Scope.keep_eq_some hkept] at h

mutual

/-- The loaders in a validator that is like another one are like loaders themselves. -/
private theorem Alike.of_mem_nodes {s : Schema} {m : Option String} {w v : Validator} : Alike scope scope' M s m w v →
    ∀ l, .loader l ∈ w.nodes → ∃ s' m' v', Alike scope scope' M s' m' (.loader l) v'
  | .unchecked schemas messages optional, l, hl => by
    obtain rfl := Validator.loader.inj (List.mem_singleton.1 hl)
    exact ⟨_, _, _, .unchecked schemas messages optional⟩
  | .checked schemas messages optional implied checks, l, hl => by
    rcases List.mem_cons.1 hl with hl | hl
    · obtain rfl := Validator.loader.inj hl
      exact ⟨_, _, _, .checked schemas messages optional implied checks⟩
    · obtain ⟨d, hsettle, hl⟩ := Validator.mem_nodesOption hl
      rw [Scope.settle_eq_some hsettle] at hl
      exact checks.of_mem_nodes l hl

private theorem AlikeCheck.of_mem_nodes {t : Schema} {c c' : Validator} : AlikeCheck scope scope' M t c c' →
    ∀ l, .loader l ∈ c.nodes → ∃ s' m' v', Alike scope scope' M s' m' (.loader l) v'
  | .leaf _ leaf, l, hl => absurd hl (Validator.mem_nodes_of_isLeaf leaf l)
  | .slice _ _ items, l, hl => by
    rw [Validator.nodes] at hl
    exact items.of_mem_nodes l (Scope.mem_nodes_of_keep ((List.mem_cons.1 hl).resolve_left nofun))
  | .map _ _ keys_alike items, l, hl => by
    rw [Validator.nodes] at hl
    rcases List.mem_append.1 ((List.mem_cons.1 hl).resolve_left nofun) with hl | hl
    · exact keys_alike.of_mem_nodes l (Scope.mem_nodes_of_keep hl)
    · exact items.of_mem_nodes l (Scope.mem_nodes_of_keep hl)
  | .struct _ fields, l, hl => by
    rw [Validator.nodes] at hl
    obtain ⟨c, hc, hl⟩ := FieldCheck.mem_nodes.1 ((List.mem_cons.1 hl).resolve_left nofun)
    exact fields.of_mem_nodes c (List.mem_filter.1 hc).1 l hl

private theorem AlikeFields.of_mem_nodes {as : List FieldAt} {all all' : List FieldCheck} :
    AlikeFields scope scope' M as all all' → ∀ c ∈ all, ∀ l, .loader l ∈ c.validator.nodes →
      ∃ s' m' v', Alike scope scope' M s' m' (.loader l) v'
  | .nil => List.forall_mem_nil _
  | .cons field rest => List.forall_mem_cons.2 ⟨field.of_mem_nodes, rest.of_mem_nodes⟩

end

/-- What the check of a loader accepts is in the shape of its schema as far as the check looks. -/
private theorem Alike.fitsCheck {s : Schema} {m : Option String} {l : Loader} {v : Validator}
    (h : Alike scope scope' M s m (.loader l) v) (hcodec : l.schema.codec? = none) {c : Validator} (hc : c ∈ l.inner)
    {x : Value} (hx : c.validate x = []) : l.schema.target.FitsCheck scope.keys c x := by
  cases h with
  | unchecked => cases hc
  | checked _ _ _ _ checks =>
    rw [Scope.settle_eq_some hc] at hx ⊢
    rw [Validator.validate, ← Validator.findings_eq_nil] at hx
    have hfits := checks.fits hx
    rwa [Schema.seen_of_plain hcodec] at hfits

variable {keys : TagKeys} {P : Schema → Prop}

mutual

/-- Every loader in what compiling can build has a default that is the value of its text and that its check
accepts, if it has any. -/
private theorem Built.materialized_of_mem_nodes {v : Validator} : Built keys P v →
    ∀ l, .loader l ∈ v.nodes → l.onEmpty.Materialized l.schema l.inner
  | .loader _ check default, l, hl => by
    rcases List.mem_cons.1 hl with hl | hl
    · obtain rfl := Validator.loader.inj hl
      exact default
    · obtain ⟨c, hc, hl⟩ := Validator.mem_nodesOption hl
      exact (check c hc).materialized_of_mem_nodes l hl

private theorem BuiltCheck.materialized_of_mem_nodes {s : Schema} {v : Validator} : BuiltCheck keys P s v →
    ∀ l, .loader l ∈ v.nodes → l.onEmpty.Materialized l.schema l.inner
  | .integer .., l, hl | .float .., l, hl | .text .., l, hl | .format .., l, hl =>
    absurd hl (Validator.mem_nodes_of_isLeaf rfl l)
  | .slice _ _ _ item_built, l, hl => by
    rw [Validator.nodes] at hl
    obtain ⟨v, hv, hl⟩ := Validator.mem_nodesOption ((List.mem_cons.1 hl).resolve_left nofun)
    exact (item_built v hv).materialized_of_mem_nodes l hl
  | .map _ _ key_built item_built, l, hl => by
    rw [Validator.nodes] at hl
    rcases List.mem_append.1 ((List.mem_cons.1 hl).resolve_left nofun) with hl | hl
    · obtain ⟨v, hv, hl⟩ := Validator.mem_nodesOption hl
      exact (key_built v hv).materialized_of_mem_nodes l hl
    · obtain ⟨v, hv, hl⟩ := Validator.mem_nodesOption hl
      exact (item_built v hv).materialized_of_mem_nodes l hl
  | .struct _ checks_built, l, hl => by
    rw [Validator.nodes] at hl
    obtain ⟨c, hc, hl⟩ := FieldCheck.mem_nodes.1 ((List.mem_cons.1 hl).resolve_left nofun)
    exact (checks_built c hc).materialized_of_mem_nodes l hl
  | .loader _ built, l, hl => built.materialized_of_mem_nodes l hl

end

/-! ### Defaults -/

/-- Whether neither a schema nor any of its parts has a codec. -/
def Schema.WithoutCodecs (s : Schema) : Prop :=
  ∀ t ∈ s.types, t.codec? = none

instance (s : Schema) : Decidable s.WithoutCodecs :=
  decidable_of_iff (∀ t ∈ s.types, t.codec?.isNone = true) (by simp [Schema.WithoutCodecs])

mutual

private theorem Schema.target_target : (s : Schema) → s.target.target = s.target
  | ⟨shape, alias?, codec?, test⟩ => Shape.target_target shape alias? codec? test

private theorem Shape.target_target : (shape : Shape) → ∀ alias? codec? test,
    (Schema.target ⟨shape, alias?, codec?, test⟩).target = Schema.target ⟨shape, alias?, codec?, test⟩
  | .pointer target => fun _ _ _ => Schema.target_target target
  | .bool | .int _ | .uint _ | .float _ | .string | .slice _ | .array .. | .map .. | .struct _ | .any =>
    fun _ _ _ => rfl

end

/-- Without codecs, a default is what its text stands for. -/
private theorem Schema.reads_of_readDefault {s : Schema} (hcodec : s.WithoutCodecs) {text : String}
    {d seen : Value} (h : readDefault s text = .ok (d, seen)) : s.target.shape.Reads text d := by
  have htarget : s.target.codec? = none := hcodec _ s.mem_types_target
  rw [readDefault, hcodec _ s.mem_types_self] at h
  cases hread : s.target.read text with
  | error e =>
    rw [hread] at h
    cases h
  | ok x =>
    rw [hread] at h
    cases h
    have htwice : s.target.target.codec? = none := by rw [s.target_target, htarget]
    have hreads := reads_of_read htarget htwice hread
    rwa [s.target_target] at hreads

/-- A rule that is written out has its check kept. -/
private theorem Schema.inner_of_rule {s : Schema} {r : Rule} (hr : r.WellFormed) {mods : List Modifier}
    {v : Validator} (h : s.compile (.plain scope) (some r) mods = .ok v) :
    ∃ l c, v = .loader l ∧ l.schema = s ∧ l.inner = some c := by
  obtain ⟨inner, policy, hinner, -, rfl⟩ := compile_eq_ok_iff.1 h
  have hnamed : (s.ruleFor (some r) mods).name ≠ "" := by
    rw [ruleFor, Modifier.name_foldl_apply]
    exact (Rule.wellFormed_iff.1 hr).1.isLiteral.1
  obtain ⟨c, rfl⟩ := Site.exists_of_inner hnamed hinner
  exact ⟨_, c, rfl, rfl, rfl⟩

namespace Factory

/-- What is read of a text for a schema without codecs is what the text stands for. So is every default that a factory
in use accepts, and the check of its rule, if there is one, accepts it. In a validator that was compiled anew, where
no rule stands for another one, the default is in the shape of its schema as far as this check looks, and a rule that
is written out does have a check. -/
theorem default_fits (config : Config) (f : Factory) (hf : f.Reachable config fun _ => True) :
    (∀ (s : Schema) (text : String) (x : Value), s.WithoutCodecs → s.read text = .ok x →
      s.target.shape.Reads text x) ∧
    ∀ (rule : String) (s : Schema) (mods : List Modifier) (v : Validator), (f.compile rule s mods).1 = .ok v →
      (∀ l text d, .loader l ∈ v.nodes → l.schema.WithoutCodecs → l.onEmpty = .fill text d →
        l.schema.target.shape.Reads text d ∧ ∀ c ∈ l.inner, c.validate d = []) ∧
      (f.registry.Direct → FieldRules.compile f.registry config.tagKeys rule s mods = .ok v →
        (∀ l text d, .loader l ∈ v.nodes → l.schema.WithoutCodecs → l.onEmpty = .fill text d →
          ∀ c ∈ l.inner, l.schema.target.FitsCheck config.tagKeys c d) ∧
        (Text.allBlank rule.toList = false → ∃ l c, v = .loader l ∧ l.schema = s ∧ l.inner = some c)) := by
  refine ⟨fun s text x hcodec hread => ?_, fun rule s mods v hv => ?_⟩
  · exact Schema.reads_of_read (hcodec _ s.mem_types_self) (hcodec _ s.mem_types_target) hread
  have hbuilt : Built config.tagKeys (fun _ => True) v := hf.built_of_compile hereditary_true trivial hv
  have haccepted {l : Loader} {text : String} {d : Value} (hl : .loader l ∈ v.nodes)
      (hcodec : l.schema.WithoutCodecs) (hdefault : l.onEmpty = .fill text d) :
      l.schema.target.shape.Reads text d ∧ ∀ c ∈ l.inner, c.validate d = [] := by
    obtain ⟨seen, hread, hpasses⟩ := hbuilt.materialized_of_mem_nodes l hl text d hdefault
    refine ⟨Schema.reads_of_readDefault hcodec hread, ?_⟩
    rw [← (seen_of_readDefault hread).1 (hcodec _ l.schema.mem_types_self)]
    exact hpasses
  refine ⟨fun l text d hl hcodec hdefault => haccepted hl hcodec hdefault, fun hdirect hplain => ?_⟩
  let scope : Scope := { registry := f.registry, keys := config.tagKeys }
  obtain ⟨rule?, hread, hcompile⟩ := bind_eq_ok.1 hplain
  have hrule : ∀ r ∈ rule?, r.WellFormed := wellFormed_of_readRule hread
  constructor
  · intro l text d hl hcodec hdefault c hc
    have hscopes : scope.Precedes scope fun _ _ => True := Scope.precedes_reworded hdirect
    obtain ⟨v', -, halike⟩ := Schema.compile_alike hscopes (.refl (fun _ => trivial) s) hrule (fun _ => rfl) trivial v
      hcompile
    obtain ⟨s', m', w', hloader⟩ := halike.of_mem_nodes l hl
    exact hloader.fitsCheck (hcodec _ l.schema.mem_types_self) hc ((haccepted hl hcodec hdefault).2 c hc)
  · intro hblank
    cases rule? with
    | none =>
      unfold readRule at hread
      rw [hblank, if_neg Bool.false_ne_true] at hread
      split at hread <;> cases hread
    | some r => exact Schema.inner_of_rule (hrule r rfl) hcompile

/-- A list of numbers that are checked, behind a pointer. -/
theorem default_fits_list :
    let s := Schema.pointer (.slice (.int 32))
    let rule := "@slice<@int32[1,]>[1,2]"
    let mods := [Modifier.default "[80,443]"]
    let f := builtin { cache := false }
    f.Reachable { cache := false } (fun _ => True) ∧ s.WithoutCodecs ∧
      s.read "[80,443]" = .ok (.list [.int 80, .int 443]) ∧
      s.target.shape.Reads "[80,443]" (.list [.int 80, .int 443]) ∧
      ∃ l c text d, (f.compile rule s mods).1 = .ok (.loader l) ∧ l.schema = s ∧ l.inner = some c ∧
        l.onEmpty = .fill text d ∧ (Validator.loader l).fill .null = ([], .list [.int 80, .int 443]) ∧
        s.target.shape.Reads text d ∧ s.target.FitsCheck {} c d := by
  intro s rule mods f
  have hcodec : s.WithoutCodecs := by decide +kernel
  obtain ⟨x, hread, hx⟩ := @exists_of_toOption_any _ _ (s.read "[80,443]")
    (fun x => x.same (.list [.int 80, .int 443])) (by decide +kernel)
  obtain rfl := Value.eq_of_same _ _ hx
  obtain ⟨v, hv, hruns⟩ := @exists_of_toOption_any _ _ (f.compile rule s mods).1 (fun v => v.hasDefault &&
    (decide ((v.fill .null).1 = []) && (v.fill .null).2.same (.list [.int 80, .int 443]))) (by decide +kernel)
  obtain ⟨hdefault, hfill⟩ := Bool.and_eq_true_iff.1 hruns
  obtain ⟨hreads, hdefaults⟩ := default_fits { cache := false } f .builtin
  obtain ⟨haccepted, hanew⟩ := hdefaults rule s mods v hv
  obtain ⟨hfits, hkept⟩ := hanew Registry.direct_builtin hv
  obtain ⟨l, c, rfl, hschema, hinner⟩ := hkept (by decide +kernel)
  obtain ⟨text, d, hdefault⟩ : ∃ text d, l.onEmpty = .fill text d := by
    cases honEmpty : l.onEmpty with
    | fill text d => exact ⟨text, d, rfl⟩
    | refuse | pass => simp [Validator.hasDefault, honEmpty, EmptyPolicy.default?] at hdefault
  have hl : Validator.loader l ∈ (Validator.loader l).nodes := List.mem_cons_self ..
  have hparts : l.schema.WithoutCodecs := hschema ▸ hcodec
  have hdefaultReads := (haccepted l _ d hl hparts hdefault).1
  have hdefaultFits := hfits l _ d hl hparts hdefault c hinner
  rw [hschema] at hdefaultReads hdefaultFits
  exact ⟨.builtin, hcodec, hread, hreads s _ _ hcodec hread, l, c, text, d, hv, hschema, hinner, hdefault,
    eq_of_same_snd hfill, hdefaultReads, hdefaultFits⟩

/-- Documents that are no values of the schema. A number is read for a list, and accepted as a default where the list
is not checked, though not where it is; and a list with a text in it is accepted for a list of numbers that are not
checked. -/
theorem default_misfits :
    let s := Schema.slice (.int 64)
    let f := builtin {}
    s.WithoutCodecs ∧ s.read "5" = .ok (.int 5) ∧ ¬ s.Admits {} (.int 5) ∧
      (∃ v, (f.compile "" s [.default "5"]).1 = .ok v ∧ v.fill .null = ([], .int 5)) ∧
      (∃ e, (f.compile "@slice" s [.default "5"]).1 = .error e) ∧
      ∃ v, (f.compile "@slice" s [.default "[\"a\"]"]).1 = .ok v ∧ v.fill .null = ([], .list [.string "a"]) := by
  intro s f
  refine ⟨by decide +kernel, ?_, ?_, ?_, ?_, ?_⟩
  · obtain ⟨x, hread, hx⟩ := @exists_of_toOption_any _ _ (s.read "5") (fun x => x.same (.int 5)) (by decide +kernel)
    obtain rfl := Value.eq_of_same _ _ hx
    exact hread
  · intro h
    obtain ⟨vs, hvs, -⟩ := (h.holds nofun rfl).list_of_kind (by decide)
    cases hvs
  · obtain ⟨v, hv, hruns⟩ := @exists_of_toOption_any _ _ (f.compile "" s [.default "5"]).1
      (fun v => decide ((v.fill .null).1 = []) && (v.fill .null).2.same (.int 5)) (by decide +kernel)
    exact ⟨v, hv, eq_of_same_snd hruns⟩
  · have hrefused : (f.compile "@slice" s [.default "5"]).1.toOption.isNone = true := by decide +kernel
    cases hcompile : (f.compile "@slice" s [.default "5"]).1 with
    | error e => exact ⟨e, rfl⟩
    | ok v => simp [hcompile, Except.toOption] at hrefused
  · obtain ⟨v, hv, hruns⟩ := @exists_of_toOption_any _ _ (f.compile "@slice" s [.default "[\"a\"]"]).1
      (fun v => decide ((v.fill .null).1 = []) && (v.fill .null).2.same (.list [.string "a"])) (by decide +kernel)
    exact ⟨v, hv, eq_of_same_snd hruns⟩

end Factory

end FieldRules

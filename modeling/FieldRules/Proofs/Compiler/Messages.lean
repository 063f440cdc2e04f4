import FieldRules.Proofs.Compiler.Comparison

/-!
# Messages change the wording only

Schemas that differ in the messages of fields compile alike, and their validators find the same in all values: the
same causes at the same paths. The message of a violation is that of the outermost field around it that has one
(`Factory.compile_reworded`).
-/

namespace FieldRules

variable {scope : Scope} {M : Option String → Option String → Prop} {keys : TagKeys}

/-! ### Rule texts -/

/-- The params of a rule for maps. -/
def Validator.entryParams : Option String → Option String → String
  | none, none => ""
  | some key, none => "<" ++ key ++ ">"
  | none, some item => "<," ++ item ++ ">"
  | some key, some item => "<" ++ key ++ "," ++ item ++ ">"

private theorem Validator.toText_slice (item : Option Validator) (bounds : Bounds Nat) (length? : Option Nat) :
    (slice item bounds length?).toText =
      "@slice" ++ ((item.map toText).elim "" fun text => "<" ++ text ++ ">") ++ bounds.text := by
  cases item with
  | none => simp [toText]
  | some v => simp [toText, ← String.append_assoc]

private theorem Validator.toText_map (key item : Option Validator) (bounds : Bounds Nat) :
    (map key item bounds).toText = "@map" ++ entryParams (key.map toText) (item.map toText) ++ bounds.text := by
  cases key <;> cases item <;> simp [toText, entryParams, ← String.append_assoc]

private theorem Loader.toText_eq (l : Loader) :
    l.toText = (l.inner.map Validator.toText).elim "" fun text => text ++ String.ofList l.onEmpty.presence.text := by
  obtain ⟨schema, inner, onEmpty, message?, codec?⟩ := l
  cases inner <;> simp [toText]

/-! ### What is left out -/

/-- Parts with the same text that are left out together. -/
private theorem Scope.keep_congr {v v' : Validator} (hnoop : v.isNoop = v'.isNoop) (htext : v.toText = v'.toText) :
    (scope.keep v).map Validator.toText = (scope.keep v').map Validator.toText := by
  rw [Scope.keep, Scope.keep, hnoop]
  split
  · rfl
  · exact congrArg some htext

private theorem Scope.settle_congr (inferred : Bool) {c c' : Validator} (hvacuous : c.isVacuous = c'.isVacuous)
    (htext : c.toText = c'.toText) :
    (scope.settle inferred c).map Validator.toText = (scope.settle inferred c').map Validator.toText := by
  rw [Scope.settle, Scope.settle, hvacuous]
  split
  · rfl
  · exact congrArg some htext

/-- Optional validators with the same text are both there or both not. -/
private theorem isNone_congr_of_map {α β : Type} {f : α → β} {a? b? : Option α} (h : a?.map f = b?.map f) :
    a?.isNone = b?.isNone := by
  rw [← Option.isNone_map, h, Option.isNone_map]

mutual

/-- Validators that one compiler makes for schemas that match are left out together, and have the same text. -/
private theorem Alike.toText_eq {s : Schema} {m : Option String} {w v : Validator} : Alike scope scope M s m w v →
    w.isNoop = v.isNoop ∧ w.toText = v.toText
  | .unchecked _ _ _ => ⟨rfl, rfl⟩
  | @Alike.checked _ _ _ _ _ _ _ onEmpty inferred c c' _ _ _ _ checks => by
    obtain ⟨hvacuous, htext⟩ := checks.toText_eq
    have hsettled : (scope.settle inferred c).map Validator.toText =
        (scope.settle inferred c').map Validator.toText :=
      Scope.settle_congr inferred hvacuous htext
    constructor
    · rw [Validator.isNoop, Validator.isNoop, Loader.isNoop, Loader.isNoop, isNone_congr_of_map hsettled]
    · rw [Validator.toText, Validator.toText, Loader.toText_eq, Loader.toText_eq, hsettled]

private theorem AlikeCheck.toText_eq {t : Schema} {c c' : Validator} : AlikeCheck scope scope M t c c' →
    c.isVacuous = c'.isVacuous ∧ c.toText = c'.toText
  | .leaf _ _ => ⟨rfl, rfl⟩
  | .slice _ _ items => by
    have hitem := scope.keep_congr items.toText_eq.1 items.toText_eq.2
    constructor
    · rw [Validator.isVacuous, Validator.isVacuous, isNone_congr_of_map hitem]
    · rw [Validator.toText_slice, Validator.toText_slice, hitem]
  | .map bounds _ keys_alike items => by
    have hkey := scope.keep_congr keys_alike.toText_eq.1 keys_alike.toText_eq.2
    have hitem := scope.keep_congr items.toText_eq.1 items.toText_eq.2
    constructor
    · rw [Validator.isVacuous, Validator.isVacuous, isNone_congr_of_map hkey, isNone_congr_of_map hitem]
    · rw [Validator.toText_map, Validator.toText_map, hkey, hitem]
  | .struct _ fields => by
    constructor
    · rw [Validator.isVacuous, Validator.isVacuous, fields.retains_eq]
    · rw [Validator.toText, Validator.toText]

private theorem AlikeFields.retains_eq {as : List FieldAt} {all all' : List FieldCheck} :
    AlikeFields scope scope M as all all' →
    (all.filter scope.retains).isEmpty = (all'.filter scope.retains).isEmpty
  | .nil => rfl
  | .cons field rest => by
    have hretains : ∀ access name label,
        scope.retains ⟨access, name, label, _⟩ = scope.retains ⟨access, name, label, _⟩ :=
      fun access name label => congrArg (fun b => !(scope.simplifies && b)) field.toText_eq.1
    rw [List.filter_cons, List.filter_cons, hretains]
    split
    · rfl
    · exact rest.retains_eq

end

/-! ### The fields around a violation -/

/-- Which fields are on a path: those that are declared under the names in it, from the outside in. -/
inductive Schema.Encloses (keys : TagKeys) : Schema → Path → List FieldAt → Prop
  | here (s : Schema) : Schema.Encloses keys s [] []
  | index {s : Schema} {path : Path} {chain : List FieldAt} (i : Nat)
      (item : Schema.Encloses keys (s.seen.target.item?.getD .any) path chain) :
      Schema.Encloses keys s (.index i :: path) chain
  | key {s : Schema} {path : Path} {chain : List FieldAt} (text : String)
      (key : Schema.Encloses keys (s.seen.target.key?.getD .any) path chain) :
      Schema.Encloses keys s (.key text :: path) chain
  | entry {s : Schema} {path : Path} {chain : List FieldAt} (text : String)
      (item : Schema.Encloses keys (s.seen.target.item?.getD .any) path chain) :
      Schema.Encloses keys s (.key text :: path) chain
  | field {s : Schema} {path : Path} {chain : List FieldAt} {a : FieldAt}
      (declared : a ∈ s.seen.target.flatFields keys []) (inside : Schema.Encloses keys a.field.schema path chain) :
      Schema.Encloses keys s (.field (a.label keys) :: path) (a :: chain)

/-- The message of the outermost field that has one. -/
def FieldAt.outermostMessage? (keys : TagKeys) (chain : List FieldAt) : Option String :=
  chain.findSome? fun a => a.field.tag.message? keys

/-- Whether the message of a violation is the given one, or else that of the outermost field around it that has
one. -/
def Finding.Worded (keys : TagKeys) (s : Schema) (message? : Option String) (f : Finding) : Prop :=
  ∃ chain, s.Encloses keys f.violation.path chain ∧ f.fields = chain.map FieldAt.spot ∧
    f.violation.override = (message? <|> FieldAt.outermostMessage? keys chain)

/-- What was found, without the message. -/
def Finding.bare (f : Finding) : Path × Cause × List (List String × String) :=
  (f.violation.path, f.violation.cause, f.fields)

namespace Finding

/-- What does the same to findings but for their messages can be told without them. -/
private theorem map_bare_congr {step step' : Finding → Finding}
    (hstep : ∀ {f g}, f.bare = g.bare → (step f).bare = (step' g).bare) {fs gs : List Finding}
    (h : fs.map bare = gs.map bare) : (fs.map step).map bare = (gs.map step').map bare := by
  induction fs generalizing gs with
  | nil => cases gs with
    | nil => rfl
    | cons g gs => cases h
  | cons f fs ih => cases gs with
    | nil => cases h
    | cons g gs =>
      obtain ⟨hfg, hrest⟩ := List.cons.inj h
      rw [List.map_cons, List.map_cons, List.map_cons, List.map_cons, hstep hfg, ih hrest]

private theorem bare_under (segment : Segment) {f g : Finding} (h : f.bare = g.bare) :
    (f.under segment).bare = (g.under segment).bare :=
  congrArg (fun b : Path × Cause × List (List String × String) => (segment :: b.1, b.2)) h

private theorem bare_inField (spot : List String × String) (label : String) {f g : Finding} (h : f.bare = g.bare) :
    (f.inField spot label).bare = (g.inField spot label).bare :=
  congrArg (fun b : Path × Cause × List (List String × String) =>
    (Segment.field label :: b.1, b.2.1, spot :: b.2.2)) h

private theorem bare_said (message? message?' : Option String) {f g : Finding} (h : f.bare = g.bare) :
    (f.said message?).bare = (g.said message?').bare :=
  h

private theorem worded_ofCause? (s : Schema) (cause? : Option Cause) :
    ∀ f ∈ ofCause? cause?, f.Worded keys s none := by
  cases cause? with
  | none => exact List.forall_mem_nil _
  | some cause => exact List.forall_mem_singleton.2 ⟨[], .here s, rfl, rfl⟩

variable {s u : Schema} {fs : List Finding} {segment : Segment}

/-- A step into a list or a map passes no field. -/
private theorem worded_under
    (hstep : ∀ {path chain}, u.Encloses keys path chain → s.Encloses keys (segment :: path) chain)
    (h : ∀ f ∈ fs, f.Worded keys u none) : ∀ f ∈ fs.map (under segment), f.Worded keys s none := by
  intro _ hf
  obtain ⟨f, hmem, rfl⟩ := List.mem_map.1 hf
  obtain ⟨chain, hchain, hfields, hmessage⟩ := h f hmem
  exact ⟨chain, hstep hchain, hfields, hmessage⟩

private theorem worded_inField {a : FieldAt} (ha : a ∈ s.seen.target.flatFields keys [])
    (h : ∀ f ∈ fs, f.Worded keys a.field.schema (a.field.tag.message? keys)) :
    ∀ f ∈ fs.map (inField a.spot (a.label keys)), f.Worded keys s none := by
  intro _ hf
  obtain ⟨f, hmem, rfl⟩ := List.mem_map.1 hf
  obtain ⟨chain, hchain, hfields, hmessage⟩ := h f hmem
  refine ⟨a :: chain, .field ha hchain, congrArg (a.spot :: ·) hfields, ?_⟩
  rw [FieldAt.outermostMessage?, List.findSome?_cons]
  show f.violation.override = _
  rw [hmessage]
  cases a.field.tag.message? keys <;> rfl

private theorem worded_said {m : Option String} (h : ∀ f ∈ fs, f.Worded keys s none) :
    ∀ f ∈ fs.map (said m), f.Worded keys s m := by
  intro _ hf
  obtain ⟨f, hmem, rfl⟩ := List.mem_map.1 hf
  obtain ⟨chain, hchain, hfields, hmessage⟩ := h f hmem
  refine ⟨chain, hchain, hfields, ?_⟩
  show (m <|> f.violation.override) = _
  rw [hmessage]
  rfl

end Finding

/-- Validators that one compiler makes for schemas that differ in messages find the same, and the message of what the
first one finds is that of the outermost field around it that has one. -/
def Comparison.reworded (scope : Scope) : Comparison scope scope (fun _ _ => True) (Coverage.all scope.keys) where
  loaders s m fs gs := fs.map Finding.bare = gs.map Finding.bare ∧ ∀ f ∈ fs, f.Worded scope.keys s m
  checks t fs gs := fs.map Finding.bare = gs.map Finding.bare ∧
    ∀ s : Schema, s.seen.target = t → ∀ f ∈ fs, f.Worded scope.keys s none
  cause _ cause? := ⟨rfl, fun s _ => Finding.worded_ofCause? s cause?⟩
  append h h' := by
    refine ⟨by rw [List.map_append, List.map_append, h.1, h'.1], fun s hs => ?_⟩
    exact List.forall_mem_append.2 ⟨h.2 s hs, h'.2 s hs⟩
  item {t fs gs} i h := by
    refine ⟨Finding.map_bare_congr (Finding.bare_under _) h.1, ?_⟩
    rintro s rfl
    exact Finding.worded_under (.index i) h.2
  key {t fs gs} k h := by
    refine ⟨Finding.map_bare_congr (Finding.bare_under _) h.1, ?_⟩
    rintro s rfl
    exact Finding.worded_under (.key k) h.2
  entry {t fs gs} k h := by
    refine ⟨Finding.map_bare_congr (Finding.bare_under _) h.1, ?_⟩
    rintro s rfl
    exact Finding.worded_under (.entry k) h.2
  field {t a fs gs} ha h := by
    refine ⟨Finding.map_bare_congr (Finding.bare_inField _ _) h.1, ?_⟩
    rintro s rfl
    exact Finding.worded_inField ha h.2
  said {s m m' fs gs} _ h :=
    ⟨Finding.map_bare_congr (Finding.bare_said m m') h.1, Finding.worded_said (h.2 s rfl)⟩
  unsupported {t c c' fills x} hc _ _ := by
    rw [hc.toText_eq.2]
    exact ⟨rfl, fun s _ => Finding.worded_ofCause? s _⟩
  settled {t c c' inferred fills slot} hc _ _ h := by
    have hkept := isNone_congr_of_map (scope.settle_congr inferred hc.toText_eq.1 hc.toText_eq.2)
    cases hsettle : scope.settle inferred c with
    | none =>
      rw [hsettle, Option.isNone_none] at hkept
      rw [Option.isNone_iff_eq_none.1 hkept.symm, Validator.findingsOption]
      exact ⟨rfl, fun _ _ => List.forall_mem_nil _⟩
    | some d =>
      cases hsettle' : scope.settle inferred c' with
      | none => rw [hsettle, hsettle'] at hkept; cases hkept
      | some d' =>
        rw [Scope.settle_eq_some hsettle, Scope.settle_eq_some hsettle', Validator.findingsOption,
          Validator.findingsOption]
        exact h

/-- Messages do not matter to what a compiler accepts. -/
theorem Scope.precedes_reworded (hdirect : scope.registry.Direct) : scope.Precedes scope fun _ _ => True where
  registry := rfl
  keys := rfl
  direct := hdirect
  no_message := trivial
  backed t inferred c c' hc d' hd' := by
    obtain rfl := Scope.settle_eq_some hd'
    have hkept := isNone_congr_of_map (scope.settle_congr inferred hc.toText_eq.1 hc.toText_eq.2)
    cases hsettle : scope.settle inferred c with
    | none => simp [hsettle, Option.mem_def.1 hd'] at hkept
    | some d =>
      refine ⟨d, rfl, fun x hx => ?_⟩
      rw [Scope.settle_eq_some hsettle, Validator.validate, ← Validator.findings_eq_nil] at hx
      have hbare := (@AlikeCheck.compare _ _ _ _ (.reworded scope) _ _ _ hc false (some x) trivial).1
      rw [hx, List.map_nil] at hbare
      rw [Validator.validate, ← Validator.findings_eq_nil]
      exact List.map_eq_nil_iff.1 hbare.symm

/-- What is found and left, for schemas that differ in messages. -/
private theorem Alike.reworded {s : Schema} {m : Option String} {w v : Validator}
    (h : Alike scope scope (fun _ _ => True) s m w v) (fills : Bool) (slot : Slot) :
    (w.walk fills slot).1.map (fun u => (u.path, u.cause)) = (v.walk fills slot).1.map (fun u => (u.path, u.cause)) ∧
      ∀ f ∈ w.findings fills slot, f.Worded scope.keys s m := by
  obtain ⟨hbare, hworded⟩ := @Alike.compare _ _ _ _ (.reworded scope) _ _ _ _ h fills slot trivial
  refine ⟨?_, hworded⟩
  have hreport (fs : List Finding) :
      (Finding.report fs).map (fun u => (u.path, u.cause)) = (fs.map Finding.bare).map fun b => (b.1, b.2.1) := by
    rw [Finding.report, List.map_map, List.map_map]
    rfl
  rw [w.walk_fst_eq_findings, v.walk_fst_eq_findings, hreport, hreport, hbare]

namespace Factory

/-- Messages change the wording only. For two schemas that are the same but for the messages of fields that are not
embedded, a rule text compiles for both or for none, and the validators find the same causes at the same paths and
leave the same values behind, filling or not. What a validator finds is in its report, and says the message of the
outermost field around it that has one, or else what the cause says. -/
theorem compile_reworded {f : Factory} (hcache : f.config.cache = false) (hdirect : f.registry.Direct) {s s' : Schema}
    (hs : s.Matches f.config.tagKeys (fun _ _ => True) s') (rule : String) (mods : List Modifier) :
    ((∃ v, (f.compile rule s mods).1 = .ok v) ↔ ∃ v', (f.compile rule s' mods).1 = .ok v') ∧
      ∀ v v', (f.compile rule s mods).1 = .ok v → (f.compile rule s' mods).1 = .ok v' → ∀ x,
        ((v'.validate x).map (fun w => (w.path, w.cause)) = (v.validate x).map (fun w => (w.path, w.cause)) ∧
          (v'.fill x).1.map (fun w => (w.path, w.cause)) = (v.fill x).1.map (fun w => (w.path, w.cause)) ∧
          (v'.fill x).2 = (v.fill x).2) ∧
        (v'.validate x = Finding.report (v'.findings false (some x)) ∧
          (v'.fill x).1 = Finding.report (v'.findings true (some x))) ∧
        ∀ fills, ∀ g ∈ v'.findings fills (some x), ∃ chain, s'.Encloses f.config.tagKeys g.violation.path chain ∧
          g.fields = chain.map FieldAt.spot ∧ g.violation.message =
            (Modifier.message? mods <|> FieldAt.outermostMessage? f.config.tagKeys chain).getD
              g.violation.cause.message := by
  have hfollows {t t' : Schema} (ht : t.Matches f.config.tagKeys (fun _ _ => True) t') {v : Validator}
      (hv : (f.compile rule t mods).1 = .ok v) : ∃ v', (f.compile rule t' mods).1 = .ok v' ∧
        Alike f.scope f.scope (fun _ _ => True) t (Modifier.message? mods) v v' := by
    obtain ⟨rule?, hread, hv⟩ := (compile_eq_ok_iff hcache).1 hv
    have hrule : ∀ r ∈ rule?, r.WellFormed := wellFormed_of_readRule hread
    obtain ⟨v', hv', halike⟩ := Schema.compile_alike (@Scope.precedes_reworded f.scope hdirect) ht hrule
      (fun _ => rfl) trivial v hv
    exact ⟨v', (compile_eq_ok_iff hcache).2 ⟨rule?, hread, hv'⟩, halike⟩
  have hback : s'.Matches f.config.tagKeys (fun _ _ => True) s := hs.symm fun _ _ h => h
  refine ⟨⟨fun ⟨v, hv⟩ => ?_, fun ⟨v', hv'⟩ => ?_⟩, fun v v' hv hv' x => ?_⟩
  · obtain ⟨v', hv', -⟩ := hfollows hs hv
    exact ⟨v', hv'⟩
  · obtain ⟨v, hv, -⟩ := hfollows hback hv'
    exact ⟨v, hv⟩
  · obtain ⟨u, hu, halike⟩ := hfollows hback hv'
    obtain rfl := Except.ok.inj (hv.symm.trans hu)
    refine ⟨⟨(halike.reworded false (some x)).1, (halike.reworded true (some x)).1, ?_⟩,
      ⟨v'.validate_eq_findings x, v'.fill_fst_eq_findings x⟩, fun fills g hg => ?_⟩
    · simp only [Validator.fill, halike.walk_snd]
    · obtain ⟨chain, hchain, hfields, hmessage⟩ := (halike.reworded fills (some x)).2 g hg
      exact ⟨chain, hchain, hfields, by rw [Violation.message, hmessage]; rfl⟩

/-- A struct and a list of structs in a struct. Where the outer field gets a message, that of the inner one no longer
shows; in the list, the inner field gets one. -/
theorem compile_reworded_nested :
    let zip := Tag.empty.withEntry "validate" "@string[5,5]" |>.withEntry "errMsg" "not a zip code"
    let price := Tag.empty.withEntry "validate" "@int64[1,]"
    let customer := Schema.struct "customer" [(Field.plain "zip" .string).withTag zip]
    let item (tag : Tag) := Schema.slice (.struct "item" [(Field.plain "price" (.int 64)).withTag tag])
    let s := Schema.struct "order" [.plain "customer" customer, .plain "items" (item price)]
    let s' := Schema.struct "order"
      [(Field.plain "customer" customer).withTag (Tag.empty.withEntry "errMsg" "unknown customer"),
        .plain "items" (item (price.withEntry "errMsg" "too cheap"))]
    let f := builtin { cache := false }
    let x := Value.struct [("customer", .struct [("zip", .string "12")]),
      ("items", .list [.struct [("price", .int (-1))]])]
    s.Matches {} (fun _ _ => True) s' ∧ ∃ v v', (f.compile "" s []).1 = .ok v ∧ (f.compile "" s' []).1 = .ok v' ∧
      (v'.validate x).map (fun w => (w.path, w.cause)) = (v.validate x).map (fun w => (w.path, w.cause)) ∧
      (v'.fill x).2 = (v.fill x).2 ∧
      (v.validate x).map (·.override) = [some "not a zip code", none] ∧
      (v'.validate x).map (·.message) = ["unknown customer", "too cheap"] := by
  intro zip price customer item s s' f x
  have hs : s.Matches {} (fun _ _ => True) s' := by
    have hitem : (item price).Matches {} (fun _ _ => True) (item (price.withEntry "errMsg" "too cheap")) :=
      .of_shapes none none none (.slice (.of_shapes _ none none (.struct (.cons "price" false
        (.refl (fun _ => trivial) (.int 64)) (Tag.matches_withEntry (by decide) trivial) .nil))))
    refine .of_shapes _ none none (.struct ?_)
    refine .cons "customer" false (.refl (fun _ => trivial) customer) (Tag.matches_withEntry (by decide) trivial) ?_
    exact .cons "items" false hitem ⟨rfl, rfl, rfl, trivial, nofun⟩ .nil
  have hruns : ((f.compile "" s []).1.toOption.any fun v => (f.compile "" s' []).1.toOption.any fun v' =>
      decide ((v.validate x).map (·.override) = [some "not a zip code", none] ∧
        (v'.validate x).map (·.message) = ["unknown customer", "too cheap"])) = true := by
    decide +kernel
  obtain ⟨v, hv, hruns⟩ := exists_of_toOption_any hruns
  obtain ⟨v', hv', hruns⟩ := exists_of_toOption_any hruns
  obtain ⟨⟨hvalidate, -, hfill⟩, -⟩ := (@compile_reworded f rfl Registry.direct_builtin _ _ hs "" []).2 v v' hv hv' x
  exact ⟨hs, v, v', hv, hv', hvalidate, hfill, of_decide_eq_true hruns⟩

end Factory

end FieldRules

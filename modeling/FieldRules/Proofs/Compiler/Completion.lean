import FieldRules.Proofs.Compiler.Settling
import FieldRules.Proofs.Validator.Completion

/-!
# Defaults are injected once

What a compiled validator has filled in stays when it fills again, but for the defaults themselves: a default that its
own rule does not leave as it is gets completed by the second walk (`Built.refills`). So a factory that fills the
defaults of a type into a value twice gets what it would get at once from complete defaults
(`Factory.applyDefaults_again`).
-/

namespace FieldRules

/-! ### Loaders -/

namespace Loader

variable {l : Loader}

private theorem completed_isEmpty (l : Loader) (x : Value) : l.completed.isEmpty x = l.isEmpty x := by
  obtain ⟨schema, inner, onEmpty, message?, codec?⟩ := l
  rw [completed]
  rfl

private theorem completed_inner (l : Loader) : l.completed.inner = Validator.completedOption l.inner := by
  cases l
  rw [completed]

private theorem completed_codec? (l : Loader) : l.completed.codec? = l.codec? := by
  cases l
  rw [completed]

private theorem completed_default? (l : Loader) :
    l.completed.onEmpty.default? = l.onEmpty.default?.map fun d => (l.walk true (some d)).2.getD d := by
  obtain ⟨schema, inner, onEmpty, message?, codec?⟩ := l
  rw [completed]
  cases onEmpty <;> rfl

/-- Filling twice is filling once with the completed loader, when its check does so and leaves nothing empty. -/
private theorem refills (hheld : (Validator.loader l).Holds) (hcheck : ∀ v, l.inner = some v → v.Refills)
    (hfull : ∀ v slot, l.inner = some v → l.isEmpty slot.read = false →
      l.isEmpty (v.walk true slot).2.read = false) :
    (Validator.loader l).Refills := by
  intro slot
  simp only [Validator.completed, Validator.walk]
  rw [walk_true_snd l.completed, completed_isEmpty, completed_default?]
  by_cases hempty : l.isEmpty slot.read = true
  · rw [if_pos hempty, walk_true_snd l slot, if_pos hempty]
    cases hdefault : l.onEmpty.default? with
    | none =>
      -- The slot stays as it is, and is as empty for the second walk.
      simp only [Option.none_or, Option.map_none]
      rw [walk_true_snd, if_pos hempty, hdefault, Option.none_or]
    | some d =>
      obtain ⟨y, hy⟩ := Option.ne_none_iff_exists'.1 (hheld d)
      rw [Validator.walk] at hy
      simp only [Option.some_or, Option.map_some, hy, Option.getD_some]
  · have hslot : l.isEmpty slot.read = false := Bool.eq_false_iff.2 hempty
    rw [if_neg hempty, completed_inner, completed_codec?]
    cases hinner : l.inner with
    | none =>
      have hsame : (l.walk true slot).2 = slot := by rw [walk_true_snd, if_neg hempty, hinner]
      rw [hsame, hsame]
      rfl
    | some v =>
      cases hcodec : l.codec? with
      | some codec =>
        have hsame : (l.walk true slot).2 = slot := by rw [walk_true_snd, if_neg hempty, hinner, hcodec]
        rw [hsame, hsame]
        rfl
      | none =>
        have hcheckWalk (slot : Slot) (h : l.isEmpty slot.read = false) :
            (l.walk true slot).2 = (v.walk true slot).2 := by
          rw [walk_true_snd, if_neg (Bool.eq_false_iff.1 h), hinner, hcodec]
        rw [hcheckWalk slot hslot, hcheckWalk _ (hfull v slot hinner hslot)]
        exact hcheck v hinner slot

end Loader

/-! ### Whole validators -/

variable {keys : TagKeys} {P : Schema → Prop}

mutual

/-- A validator that compiling makes fills twice as its completed form fills once, when the schemas of its loaders are
plain and no loader has another one as its check. -/
theorem Built.refills {v : Validator} : Built keys P v → LoadersPlain keys P v.nodes → v.Refills
  | .loader schema check default, h => by
    obtain ⟨htest, hnames⟩ := h.schemas _ (List.mem_cons_self ..) schema
    refine Loader.refills (Built.loader schema check default).fillsSlots.holds (fun v hv => ?_) fun v slot hv => ?_
    · exact (check v hv).refills hnames (h.mono (Loader.mem_nodes_of_inner hv))
    · exact (check v hv).isEmpty_walk (h.checks _ (List.mem_cons_self ..) v hv) (Option.isNone_iff_eq_none.1 htest)

private theorem BuiltCheck.refills {s : Schema} {v : Validator} : BuiltCheck keys P s v → s.NamesApart keys →
    LoadersPlain keys P v.nodes → v.Refills
  | .integer .., _, _ | .float .., _, _ | .text .., _, _ | .format .., _, _ => by
    simp [Validator.Refills, Validator.completed, Validator.walk, Walk.keep]
  | .slice _ bounds length? item_built, _, h => by
    refine refills_slice (fun v hv => ⟨(item_built v hv).refills (h.mono fun w hw => ?_),
      (item_built v hv).fillsSlots.holds⟩) bounds length?
    exact List.mem_cons_of_mem _ (by rwa [hv])
  | .map _ bounds _ item_built, _, h => by
    refine refills_map _ (fun v hv => ⟨(item_built v hv).refills (h.mono fun w hw => ?_),
      (item_built v hv).fillsSlots.holds⟩) bounds
    exact List.mem_cons_of_mem _ (List.mem_append_right _ (by rwa [hv]))
  | .struct spots checks_built, hs, h => by
    refine refills_struct (FieldCheck.pairwise_apart_of_spots hs spots) (notMem_access_of_spots hs spots)
      fun c hc => ⟨(checks_built c hc).refills (h.mono fun w hw => ?_), (checks_built c hc).fillsSlots.holds⟩
    exact List.mem_cons_of_mem _ (FieldCheck.mem_nodes.2 ⟨c, hc, hw⟩)
  | .loader _ built, _, h => built.refills h

end

/-! ### Defaults without parts -/

/-- Whether a value has no parts. -/
def Value.isAtomic : Value → Bool
  | .list _ | .map _ | .struct _ => false
  | _ => true

/-- Whether the defaults of all rules in a list of nodes are values without parts. -/
def AtomicDefaults (nodes : List Validator) : Prop :=
  ∀ v ∈ nodes, (match v with
    | .loader l => l.onEmpty.default?.all Value.isAtomic
    | _ => true) = true

instance (nodes : List Validator) : Decidable (AtomicDefaults nodes) :=
  inferInstanceAs (Decidable (∀ _ ∈ _, _))

private theorem Validator.walk_atomic {v : Validator} (hv : v.isLoader = false) {d : Value} (hd : d.isAtomic = true) :
    (v.walk true (some d)).2 = some d := by
  cases v with
  | integer | float | text | format => rfl
  | slice | map | struct => cases d <;> first | rfl | cases hd
  | loader => cases hv

/-- A default without parts is complete, where no rule stands for another one. -/
private theorem AtomicDefaults.complete {nodes : List Validator} (h : AtomicDefaults nodes)
    (hnesting : NoNesting nodes) : DefaultsComplete nodes := by
  intro l hl text d hdefault
  have hatomic : d.isAtomic = true := by
    have hall := h (.loader l) hl
    simp only [hdefault] at hall
    exact hall
  rw [Loader.walk_true_snd, hdefault]
  split
  · rfl
  · split
    next v hinner hcodec => exact v.walk_atomic (hnesting l hl v hinner) hatomic
    · rfl

namespace Factory

variable {f : Factory}

/-- What is answered is remembered. -/
private theorem run_remember_again {a : Addresses} {key : RequestKey} {answer : Cached Validator} {cache : Cache}
    {v : Validator} (h : ((remember a key answer).run.run cache).1 = .ok v) :
    ((remember a key answer).run.run ((remember a key answer).run.run cache).2).1 = .ok v := by
  have hlookup : ((remember a key answer).run.run cache).2.lookup (key.text a) = some v := by
    rw [run_remember] at h ⊢
    cases hknown : cache.lookup (key.text a) with
    | some w =>
      simp only [hknown] at h ⊢
      rw [Except.ok.inj h]
    | none =>
      simp only [hknown] at h ⊢
      cases hrun : answer.run.run cache with
      | mk outcome cache' =>
        rw [hrun] at h
        cases outcome with
        | error e => cases h
        | ok w =>
          rw [Except.ok.inj h]
          exact List.lookup_cons_self
  rw [run_remember, hlookup]

/-- A request that was answered is answered alike again. -/
theorem compile_again {rule : String} {s : Schema} {mods : List Modifier} {v : Validator}
    (h : (f.compile rule s mods).1 = .ok v) : ((f.compile rule s mods).2.compile rule s mods).1 = .ok v := by
  cases hcache : f.config.cache with
  | false =>
    have hsame : (f.compile rule s mods).2 = f := by simp [Factory.compile, hcache]
    rwa [hsame]
  | true =>
    let env : Env Cached := { registry := f.registry, keys := f.config.tagKeys, memo := remember f.addresses }
    have hruns (g : Factory) (hregistry : g.registry = f.registry) (hconfig : g.config = f.config)
        (haddresses : g.addresses = f.addresses) :
        (g.compile rule s mods).1 = ((env.compile rule s mods).run.run g.cache).1 := by
      simp only [Factory.compile, hconfig, hcache, if_true, hregistry, haddresses]
      rfl
    have hkept : (f.compile rule s mods).2.cache = ((env.compile rule s mods).run.run f.cache).2 := by
      simp only [Factory.compile, hcache, if_true]
      rfl
    rw [hruns f rfl rfl rfl] at h
    rw [hruns _ (compile_registry ..) (compile_config ..) (compile_addresses ..), hkept]
    exact run_remember_again h

/-- Defaults of a type are filled in by the same validator whenever they are asked for. -/
theorem applyDefaults_of_compile {s : Schema} {v : Validator} (hv : (f.compile "" s []).1 = .ok v) (x y : Value) :
    (f.applyDefaults s x).1 = .ok (v.fill x) ∧ ((f.applyDefaults s x).2.applyDefaults s y).1 = .ok (v.fill y) := by
  have hagain := compile_again hv
  constructor
  · simp only [applyDefaults, hv, Except.map]
  · simp only [applyDefaults, hagain, Except.map]

/-- Filling the defaults of a type into a value, and then again into what that has left, where the value passed: it
passes again, and what is left is what filling once leaves with each default completed, that is, replaced by what its
own rule leaves of it. So with defaults that are complete, such as those without parts, nothing changes any more. This
holds as long as no rule stands for another one, and types have no tests for zero of their own and pairwise different
names of fields and embedded fields in each struct: the type and all that it consists of, and the ones that the
factory was asked for before; or just those that the validator was compiled for, whatever came before. -/
theorem applyDefaults_again (config : Config) (f : Factory) (hdirect : f.registry.Direct) (s : Schema)
    (v : Validator) (hv : (f.compile "" s []).1 = .ok v)
    (hplain : (f.Reachable config (Schema.TypesPlain config.tagKeys) ∧ s.TypesPlain config.tagKeys) ∨
      (f.Reachable config (fun _ => True) ∧ ∀ t ∈ v.types, t.IsPlain config.tagKeys))
    (x y : Value) (h : (f.applyDefaults s x).1 = .ok ([], y)) :
    ((f.applyDefaults s x).2.applyDefaults s y).1 = .ok ([], (v.completed.fill x).2) ∧
      (DefaultsComplete v.nodes ∨ AtomicDefaults v.nodes → (v.completed.fill x).2 = y) := by
  obtain ⟨hfill, hsecond⟩ := applyDefaults_of_compile hv x y
  have hfirst : v.fill x = ([], y) := Except.ok.inj (hfill.symm.trans h)
  obtain ⟨P, hbuilt, hloaders⟩ : ∃ P, Built config.tagKeys P v ∧ LoadersPlain config.tagKeys P v.nodes := by
    rcases hplain with ⟨hf, hs⟩ | ⟨hf, htypes⟩
    · refine ⟨_, hf.built_of_compile (hereditary_typesPlain config.tagKeys) hs hv, ?_, ?_⟩
      · exact fun l _ hl => hl _ l.schema.mem_types_self
      · exact hf.noNesting_of_compile hdirect hv
    · refine ⟨_, hf.built_of_compile hereditary_true trivial hv, ?_, ?_⟩
      · exact fun l hl _ => htypes _ (Validator.mem_types_of_loader hl)
      · exact hf.noNesting_of_compile hdirect hv
  have hheld : v.Holds := hbuilt.fillsSlots.holds
  have hy : (v.fill x).2 = y := congrArg Prod.snd hfirst
  have hpasses : (v.fill y).1 = [] := by
    have hapart : KeptApart v.nodes := hbuilt.keptApart fun l hl hP => (hloaders.schemas l hl hP).2
    rw [Validator.fill_fst hapart, ← hy]
    exact (hbuilt.settles hloaders).fill hheld (congrArg Prod.fst hfirst)
  have hvalue : (v.fill y).2 = (v.completed.fill x).2 := by
    rw [← hy]
    exact (hbuilt.refills hloaders).fill hheld x
  refine ⟨?_, fun hdefaults => ?_⟩
  · rw [hsecond, ← hvalue, ← hpasses]
  · have hcomplete : DefaultsComplete v.nodes := by
      rcases hdefaults with hcomplete | hatomic
      · exact hcomplete
      · exact hatomic.complete hloaders.checks
    rw [v.completed_eq hcomplete, hy]

/-- A default for a struct without one of its fields, which has a default of its own: the second time it is filled in.
And a list of structs in which the defaults have no parts, where nothing is left to fill in. -/
theorem applyDefaults_again_nested :
    let host := (Field.plain "host" .string).withTag (Tag.empty.withEntry "default" "localhost")
    let server := Schema.struct "server" [host, .plain "port" (.int 32)]
    let main := (Field.plain "main" server).withTag (Tag.empty.withEntry "default" "\x7b\"port\":9000\x7d")
    let s := Schema.struct "config" [main]
    let t := Schema.struct "config" [.plain "all" (.slice server)]
    let x := Value.struct [("debug", .bool true)]
    let y := Value.struct [("debug", .bool true), ("main", .struct [("port", .int 9000)])]
    let z := Value.struct [("all", .list [.struct [("port", .int 80)]])]
    let w := Value.struct [("all", .list [.struct [("port", .int 80), ("host", .string "localhost")]])]
    (∃ v, ((builtin {}).compile "" s []).1 = .ok v ∧ ((builtin {}).applyDefaults s x).1 = .ok ([], y) ∧
      (((builtin {}).applyDefaults s x).2.applyDefaults s y).1 = .ok ([], (v.completed.fill x).2)) ∧
    ∃ v, ((builtin {}).compile "" t []).1 = .ok v ∧ ((builtin {}).applyDefaults t z).1 = .ok ([], w) ∧
      (((builtin {}).applyDefaults t z).2.applyDefaults t w).1 = .ok ([], w) := by
  intro host server main s t x y z w
  have hs : s.TypesPlain {} := by decide +kernel
  have ht : t.TypesPlain {} := by decide +kernel
  have hrunsOnce : (((builtin {}).compile "" s []).1.toOption.any fun v =>
      decide ((v.fill x).1 = []) && (v.fill x).2.same y) = true := by
    decide +kernel
  have hrunsList : (((builtin {}).compile "" t []).1.toOption.any fun v =>
      decide (AtomicDefaults v.nodes) && (decide ((v.fill z).1 = []) && (v.fill z).2.same w)) = true := by
    decide +kernel
  constructor
  · obtain ⟨v, hv, hruns⟩ := exists_of_toOption_any hrunsOnce
    have hfirst : ((builtin {}).applyDefaults s x).1 = .ok ([], y) := by
      rw [(applyDefaults_of_compile hv x y).1, eq_of_same_snd hruns]
    have hclaim := applyDefaults_again {} (builtin {}) Registry.direct_builtin s v hv (.inl ⟨.builtin, hs⟩) x y hfirst
    exact ⟨v, hv, hfirst, hclaim.1⟩
  · obtain ⟨v, hv, hruns⟩ := exists_of_toOption_any hrunsList
    obtain ⟨hatomic, hruns⟩ := (Bool.and_eq_true ..).mp hruns
    have hfirst : ((builtin {}).applyDefaults t z).1 = .ok ([], w) := by
      rw [(applyDefaults_of_compile hv z w).1, eq_of_same_snd hruns]
    have hclaim := applyDefaults_again {} (builtin {}) Registry.direct_builtin t v hv (.inl ⟨.builtin, ht⟩) z w hfirst
    refine ⟨v, hv, hfirst, ?_⟩
    rw [hclaim.1, hclaim.2 (.inr (of_decide_eq_true hatomic))]

/-- Filling again can change what filling once has left: the default of a struct has no look at the fields of the
struct, which the second time are filled in; and a rule that stands for another one can put null in the place of an
empty value, for which the second time its own default is put. -/
theorem applyDefaults_again_changes :
    let host := (Field.plain "host" .string).withTag (Tag.empty.withEntry "default" "localhost")
    let main := (Field.plain "main" (.struct "server" [host, .plain "port" (.int 32)])).withTag
      (Tag.empty.withEntry "default" "\x7b\"port\":9000\x7d")
    let s := Schema.struct "config" [main]
    let x := Value.struct [("debug", .bool true)]
    let y := Value.struct [("debug", .bool true), ("main", .struct [("port", .int 9000)])]
    let z := Value.struct [("debug", .bool true),
      ("main", .struct [("port", .int 9000), ("host", .string "localhost")])]
    let t := Schema.struct "box" [(Field.plain "p" (.pointer .any)).withRule "@wrap<@wrap<@int?>='null'>='7'"]
    let f := (builtin {}).register Creator.wrap
    (s.TypesPlain {} ∧ ((builtin {}).applyDefaults s x).1 = .ok ([], y) ∧
      (((builtin {}).applyDefaults s x).2.applyDefaults s y).1 = .ok ([], z) ∧ y ≠ z) ∧
    t.TypesPlain {} ∧ (f.applyDefaults t (.struct [("p", .int 0)])).1 = .ok ([], .struct [("p", .null)]) ∧
      ((f.applyDefaults t (.struct [("p", .int 0)])).2.applyDefaults t (.struct [("p", .null)])).1 =
        .ok ([], .struct [("p", .int 7)]) := by
  intro host main s x y z t f
  let a := Value.struct [("p", .int 0)]
  let b := Value.struct [("p", .null)]
  let c := Value.struct [("p", .int 7)]
  have hrunsTwice : (((builtin {}).compile "" s []).1.toOption.any fun v =>
      (decide ((v.fill x).1 = []) && (v.fill x).2.same y) &&
        (decide ((v.fill y).1 = []) && (v.fill y).2.same z)) = true := by
    decide +kernel
  have hrunsWrapped : ((f.compile "" t []).1.toOption.any fun v =>
      (decide ((v.fill a).1 = []) && (v.fill a).2.same b) &&
        (decide ((v.fill b).1 = []) && (v.fill b).2.same c)) = true := by
    decide +kernel
  constructor
  · obtain ⟨v, hv, hruns⟩ := exists_of_toOption_any hrunsTwice
    obtain ⟨hfirst, hsecond⟩ := applyDefaults_of_compile hv x y
    obtain ⟨honce, htwice⟩ := (Bool.and_eq_true ..).mp hruns
    refine ⟨by decide +kernel, ?_, ?_, by simp [y, z]⟩
    · rw [hfirst, eq_of_same_snd honce]
    · rw [hsecond, eq_of_same_snd htwice]
  · obtain ⟨v, hv, hruns⟩ := exists_of_toOption_any hrunsWrapped
    obtain ⟨hfirst, hsecond⟩ := applyDefaults_of_compile hv a b
    obtain ⟨honce, htwice⟩ := (Bool.and_eq_true ..).mp hruns
    refine ⟨by decide +kernel, ?_, ?_⟩
    · rw [hfirst, eq_of_same_snd honce]
    · rw [hsecond, eq_of_same_snd htwice]

end Factory

end FieldRules

import FieldRules.Proofs.Compiler.Registry
import FieldRules.Proofs.Compiler.Steps
import FieldRules.Proofs.Validator.Canonical

/-!
# Rules that restore checks

A check that the families and formats make of a rule has a rule of its own, the one its text stands for, which
makes the same check at the same site (`Site.inner_restores`). For slices and maps this rests on the rules of
their parts, which must have been repeatable in turn: `Repeats` says of a compiler that what it makes of a
rule, or of none, is nothing to speak of or comes back from its own text.
-/

namespace FieldRules

/-- Whether two rules agree in all but their source texts and marks. -/
def Rule.SameCheck (r s : Rule) : Prop :=
  r.name = s.name ∧ Param.bareAll r.params = Param.bareAll s.params ∧ r.range = s.range ∧ r.values = s.values ∧
    r.pattern = s.pattern

/-- A rule without a mark that a check is written as and that stands for the check. -/
structure Restores (check : Rule → Compiled (Option Validator)) (v : Validator) (r : Rule) : Prop where
  wellFormed : r.WellFormed
  presence : r.presence = .required
  text : v.toText = r.toString
  check_eq : ∀ {s : Rule}, s.SameCheck r → check s = .ok (some v)

/-- A rule that a validator is written as and that compiles to the validator. -/
structure Reproduces (compile : Option Rule → Compiled Validator) (v : Validator) (r : Rule) : Prop where
  wellFormed : r.WellFormed
  text : v.toText = r.toString
  compile_eq : ∀ {s : Rule}, s.bare = r.bare → compile (some s) = .ok v

/-- Whether what is compiled from a rule, or from none, is compiled from its own text again. A validator
without a text is compiled from no rule. -/
def Repeats (compile : Option Rule → Compiled Validator) (rule? : Option Rule) : Prop :=
  ∀ v, compile rule? = .ok v →
    (rule? = none ∧ v.isNoop = true ∧ v.toText = "") ∨ (v.isNoop = false ∧ ∃ r, Reproduces compile v r)

theorem Param.eq_of_bareAll_eq {ps qs : List Param} (hqs : ∀ q ∈ qs, ∃ t, q = .literal t)
    (h : Param.bareAll ps = Param.bareAll qs) : ps = qs := by
  induction qs generalizing ps with
  | nil =>
    cases ps with
    | nil => rfl
    | cons p ps => cases h
  | cons q qs ih =>
    obtain ⟨⟨t, rfl⟩, hrest⟩ := List.forall_mem_cons.1 hqs
    cases ps with
    | nil => cases h
    | cons p ps =>
      obtain ⟨hp, hps⟩ := List.cons.inj h
      cases p <;> simp only [Param.bare, reduceCtorEq, Param.literal.injEq] at hp
      rw [hp, ih hrest hps]

private theorem Param.length_eq_of_bareAll_eq {ps qs : List Param} (h : Param.bareAll ps = Param.bareAll qs) :
    ps.length = qs.length := by
  rw [Param.bareAll_eq_map, Param.bareAll_eq_map] at h
  simpa using congrArg List.length h

/-- A rule is known from another one with the same check up to its source text and its mark, as long as there
are no rules in its params. -/
theorem Rule.SameCheck.eq_of_literals {r s : Rule} (h : s.SameCheck r)
    (hliterals : ∀ p ∈ r.params, ∃ t, p = .literal t) :
    s = { r with raw := s.raw, presence := s.presence } := by
  obtain ⟨hname, hparams, hrange, hvalues, hpattern⟩ := h
  have hparams := Param.eq_of_bareAll_eq hliterals hparams
  cases r
  cases s
  simp_all

/-- A rule compiles to the loader around its check, which the rule of the check with the mark of the rule
gives back. -/
theorem Restores.reproduces {check : Rule → Compiled (Option Validator)} {v w : Validator} {r₀ r : Rule}
    {s : Schema} {compile : Option Rule → Compiled Validator}
    (hcompile : ∀ r, compile (some r) = do load s (← check r) r none)
    (hrestores : Restores check v r₀) (h : (load s (some v) r none : Compiled Validator) = .ok w) :
    w.isNoop = false ∧ ∃ r, Reproduces compile w r := by
  obtain ⟨policy, hpolicy, rfl⟩ := load_eq_ok_iff.1 h
  obtain ⟨hpresence, hagain⟩ := emptyPolicy_of_presence hpolicy
  refine ⟨rfl, { r₀ with presence := r.presence }, ?_, ?_, ?_⟩
  · have hparts := Rule.wellFormed_iff.1 hrestores.wellFormed
    exact Rule.wellFormed_iff.2 hparts
  · have htext : r₀.text = v.toText.toList := by
      rw [hrestores.text, Rule.toString, String.toList_ofList]
    obtain ⟨raw, name, params, range, values, pattern, presence⟩ := r₀
    obtain rfl : presence = .required := hrestores.presence
    rw [← String.toList_inj]
    simp only [Validator.toText, Loader.toText, String.toList_append, ← htext, hpresence, Rule.toString,
      Rule.text, String.toList_ofList, Presence.text, List.append_nil]
  · intro s' hs'
    obtain ⟨hname, hparams, hrange, hvalues, hpattern, hmark⟩ := Rule.bare_eq_iff.1 hs'
    rw [hcompile, hrestores.check_eq ⟨hname, hparams, hrange, hvalues, hpattern⟩]
    exact load_eq_ok_iff.2 ⟨policy, hagain s' hmark, rfl⟩

/-! ### Params -/

/-- Whether a param, or a missing one, stands for a part that was compiled. -/
def Fits (compile : Option Rule → Compiled Validator) (part : Option Validator) : Option Param → Prop
  | none | some .blank => part = none ∧ ∃ v, compile none = .ok v ∧ v.isNoop = true
  | some (.literal _) => False
  | some (.rule r) => ∃ v, part = some v ∧ v.isNoop = false ∧ Reproduces compile v r

namespace Site

variable {scope : Scope} {compile : Option Rule → Compiled Validator} {part : Option Validator}
  {r : Rule} {i : Nat}

private theorem param_partAt_eq_ok_iff (hsimplifies : scope.simplifies = true) :
    param scope (partAt r compile) i = .ok part ↔
      ∃ rule? v, paramRule r.params i = .ok rule? ∧ compile rule? = .ok v ∧
        part = if v.isNoop then none else some v := by
  simp only [param, partAt, hsimplifies, Bool.true_and]
  constructor
  · intro h
    obtain ⟨v, h, hpart⟩ := bind_eq_ok.1 h
    obtain ⟨rule?, hrule, hv⟩ := bind_eq_ok.1 h
    exact ⟨rule?, v, orInvalid_eq_ok_iff.1 hrule, hv, (Except.ok.inj hpart).symm⟩
  · rintro ⟨rule?, v, hrule, hv, rfl⟩
    exact bind_eq_ok.2 ⟨v, bind_eq_ok.2 ⟨rule?, orInvalid_eq_ok_iff.2 hrule, hv⟩, rfl⟩

/-- A part that was compiled is left out, or it has a rule of its own. -/
private theorem fits_of_param (hsimplifies : scope.simplifies = true)
    (hrepeats : ∀ rule?, paramRule r.params i = .ok rule? → Repeats compile rule?)
    (h : param scope (partAt r compile) i = .ok part) :
    Fits compile part none ∨ ∃ r, Fits compile part (some (.rule r)) := by
  obtain ⟨rule?, v, hrule, hv, rfl⟩ := (param_partAt_eq_ok_iff hsimplifies).1 h
  rcases hrepeats rule? hrule v hv with ⟨rfl, hnoop, -⟩ | ⟨hnoop, r, hreproduces⟩
  · exact .inl ⟨if_pos hnoop, v, hv, hnoop⟩
  · exact .inr ⟨r, v, if_neg (by simp [hnoop]), hnoop, hreproduces⟩

/-- What a param stands for is compiled from it, whatever the source texts are. -/
private theorem param_of_fits (hsimplifies : scope.simplifies = true) {ps : List Param}
    (hparams : Param.bareAll r.params = Param.bareAll ps) (h : Fits compile part ps[i]?) :
    param scope (partAt r compile) i = .ok part := by
  have hbare : r.params[i]?.map Param.bare = ps[i]?.map Param.bare := by
    rw [Param.bareAll_eq_map, Param.bareAll_eq_map] at hparams
    rw [← List.getElem?_map, ← List.getElem?_map, hparams]
  rw [param_partAt_eq_ok_iff hsimplifies]
  -- A blank param and a missing one both ask for what the schema implies.
  have himplied (hnone : paramRule r.params i = .ok none) (h : Fits compile part none) :
      ∃ rule? v, paramRule r.params i = .ok rule? ∧ compile rule? = .ok v ∧
        part = if v.isNoop then none else some v := by
    obtain ⟨rfl, v, hv, hnoop⟩ := h
    exact ⟨none, v, hnone, hv, (if_pos hnoop).symm⟩
  unfold paramRule at himplied ⊢
  cases hp : ps[i]? with
  | none =>
    rw [hp] at h
    rw [hp, Option.map_none, Option.map_eq_none_iff] at hbare
    exact himplied (by rw [hbare]) h
  | some p =>
    rw [hp] at h hbare
    obtain ⟨q, hq, hqbare⟩ := Option.map_eq_some_iff.1 hbare
    cases p with
    | blank =>
      cases q <;> simp only [Param.bare, reduceCtorEq] at hqbare
      exact himplied (by rw [hq]) h
    | literal text => exact h.elim
    | rule p =>
      obtain ⟨v, hpart, hnoop, hreproduces⟩ := h
      cases q <;> simp only [Param.bare, reduceCtorEq, Param.rule.injEq] at hqbare
      next q =>
        refine ⟨some q, v, by rw [hq], hreproduces.compile_eq hqbare, ?_⟩
        rw [hpart, hnoop]
        rfl

/-! ### Checks -/

section

variable {expand : Site Compiled → Schema → Option Rule → Compiled Validator} {s : Site Compiled}
  {v : Validator}

/-- To restore a check it is enough that its creator makes it of the rule that the check is written as. -/
private theorem restores_of_create {creation : Creation} {r₀ : Rule} (hbuiltin : scope.registry = .builtin)
    (hwellFormed : r₀.WellFormed) (hpresence : r₀.presence = .required) (htext : v.toText = r₀.toString)
    (hcreation : Fields.get? Registry.builtin r₀.name = some creation)
    (hcreate : ∀ r : Rule, r.SameCheck r₀ → ∀ same anew,
      s.create scope r (partAt r (Site.part scope expand s.key?)) (partAt r (Site.part scope expand s.item?))
        same anew creation = .ok v) :
    ∃ r₀, Restores (s.inner scope expand false) v r₀ := by
  refine ⟨r₀, hwellFormed, hpresence, htext, ?_⟩
  intro r hr
  have hname : r.name ≠ "" := hr.1 ▸ (Rule.wellFormed_iff.1 hwellFormed).1.isLiteral.1
  obtain ⟨same, anew, hinner⟩ := inner_eq expand s false hname (hbuiltin ▸ hr.1 ▸ hcreation)
  rw [hinner, hcreate r hr same anew, Bool.and_false]
  rfl

private theorem restores_integer {signed : Bool} {c : IntegerCheck} {r : Rule} (hbuiltin : scope.registry = .builtin)
    (hexpect : s.target.kind = .any ∨ s.target.kind ∈ [if signed then Kind.int else .uint])
    (hc : IntegerCheck.ofRule? signed r = .ok c) :
    ∃ r₀, Restores (s.inner scope expand false) (.integer c) r₀ := by
  obtain ⟨hagain, hwellFormed⟩ := IntegerCheck.ofRule?_rule hc
  obtain ⟨rfl, -⟩ := IntegerCheck.of_ofRule? hc
  have hcreation : Fields.get? Registry.builtin c.rule.name = some (.integer c.signed) := by
    cases hsigned : c.signed <;> rw [IntegerCheck.rule, hsigned] <;> rfl
  refine restores_of_create hbuiltin hwellFormed rfl c.toString_rule.symm hcreation ?_
  intro r' hr' same anew
  rw [hr'.eq_of_literals (by simp [IntegerCheck.rule])]
  refine bind_eq_ok.2 ⟨(), expect_eq_ok_iff.2 hexpect, ?_⟩
  exact bind_eq_ok.2 ⟨c, orInvalid_eq_ok_iff.2 hagain, rfl⟩

private theorem restores_text {c : TextCheck} {r : Rule} (hbuiltin : scope.registry = .builtin) (hr : r.WellFormed)
    (hexpect : s.target.kind = .any ∨ s.target.kind ∈ [Kind.string]) (hc : TextCheck.ofRule? r = .ok c) :
    ∃ r₀, Restores (s.inner scope expand false) (.text c) r₀ := by
  obtain ⟨hagain, hwellFormed⟩ := TextCheck.ofRule?_rule hr hc
  have hcreation : Fields.get? Registry.builtin c.rule.name = some .text := rfl
  refine restores_of_create hbuiltin hwellFormed rfl c.toString_rule.symm hcreation ?_
  intro r' hr' same anew
  rw [hr'.eq_of_literals (by cases c.unit <;> simp [TextCheck.rule])]
  refine bind_eq_ok.2 ⟨(), expect_eq_ok_iff.2 hexpect, ?_⟩
  exact bind_eq_ok.2 ⟨c, orInvalid_eq_ok_iff.2 hagain, rfl⟩

private theorem restores_format {f : Format} (hbuiltin : scope.registry = .builtin) (hf : f ∈ Format.builtin)
    (hexpect : s.target.kind = .any ∨ s.target.kind ∈ [Kind.string]) :
    ∃ r₀, Restores (s.inner scope expand false) (.format f) r₀ := by
  have hwellFormed : f.rule.WellFormed := Rule.wellFormed_named (Registry.isName_of_mem_builtin f hf).2
  refine restores_of_create hbuiltin hwellFormed rfl f.toString_rule.symm
    (Registry.get?_builtin_of_format hf) ?_
  intro r' hr' same anew
  rw [hr'.eq_of_literals (List.forall_mem_nil _)]
  exact bind_eq_ok.2 ⟨(), expect_eq_ok_iff.2 hexpect, rfl⟩

private theorem restores_struct {checks : List FieldCheck} (hbuiltin : scope.registry = .builtin)
    (hexpect : s.target.kind = .any ∨ s.target.kind ∈ [Kind.struct]) (hchecks : s.fields [] = .ok checks) :
    ∃ r₀, Restores (s.inner scope expand false) (.struct checks) r₀ := by
  have hwellFormed : (Rule.named "struct").WellFormed := Rule.wellFormed_named (by decide)
  have hcreation : Fields.get? Registry.builtin "struct" = some .struct := rfl
  refine restores_of_create hbuiltin hwellFormed rfl rfl hcreation ?_
  intro r' hr' same anew
  rw [hr'.eq_of_literals (List.forall_mem_nil _)]
  refine bind_eq_ok.2 ⟨(), expect_eq_ok_iff.2 hexpect, bind_eq_ok.2 ⟨(), rfl, ?_⟩⟩
  exact bind_eq_ok.2 ⟨checks, hchecks, rfl⟩

/-- The parts that neither slices nor maps have. -/
private theorem refuse_values_pattern {r : Rule} : Section.refuse r [.values, .pattern] = .ok () ↔
    r.values = [] ∧ r.pattern = none := by
  cases hvalues : r.values <;> cases hpattern : r.pattern <;>
    simp [Section.refuse, Section.isIn, hvalues, hpattern]

private theorem slice_of_fits {ps : List Param} {item : Option Validator} {bounds : Bounds Nat} {r : Rule}
    (hsimplifies : scope.simplifies = true)
    (hr : r.SameCheck { Rule.named "slice" with params := ps, range := bounds.range? })
    (hexpect : s.target.kind = .any ∨ s.target.kind ∈ [Kind.slice, .array]) (hps : ps.length ≤ 1)
    (hitem : Fits compile item ps[0]?) (hbounds : Bounds.ofLengths? bounds.range? = .ok bounds)
    (hlength : checkLength bounds s.target.length? = .ok ()) :
    s.slice scope r (partAt r compile) = .ok (.slice item bounds s.target.length?) := by
  obtain ⟨-, hparams, hrange, hvalues, hpattern⟩ := hr
  have hcount : r.params.length = ps.length := Param.length_eq_of_bareAll_eq hparams
  refine bind_eq_ok.2 ⟨(), expect_eq_ok_iff.2 hexpect, ?_⟩
  refine bind_eq_ok.2 ⟨(), orInvalid_eq_ok_iff.2 (refuse_values_pattern.2 ⟨hvalues, hpattern⟩), ?_⟩
  refine (if_neg (by omega)).trans ?_
  refine bind_eq_ok.2 ⟨item, param_of_fits hsimplifies hparams hitem, ?_⟩
  refine bind_eq_ok.2 ⟨bounds, orInvalid_eq_ok_iff.2 (hrange ▸ hbounds), ?_⟩
  exact bind_eq_ok.2 ⟨(), orInvalid_eq_ok_iff.2 hlength, rfl⟩

private theorem restores_slice {r : Rule} (hbuiltin : scope.registry = .builtin)
    (hsimplifies : scope.simplifies = true)
    (hitem : ∀ rule?, paramRule r.params 0 = .ok rule? → Repeats (Site.part scope expand s.item?) rule?)
    (h : s.slice scope r (partAt r (Site.part scope expand s.item?)) = .ok v) :
    ∃ r₀, Restores (s.inner scope expand false) v r₀ := by
  obtain ⟨_, hexpect, h⟩ := bind_eq_ok.1 h
  obtain ⟨_, -, h⟩ := bind_eq_ok.1 h
  split at h
  next => cases h
  obtain ⟨item, hpart, h⟩ := bind_eq_ok.1 h
  obtain ⟨bounds, hbounds, h⟩ := bind_eq_ok.1 h
  obtain ⟨_, hlength, h⟩ := bind_eq_ok.1 h
  obtain rfl := Except.ok.inj h
  obtain ⟨hbounds, hrange⟩ := Bounds.ofRange?_range? readsBack_readLength (orInvalid_eq_ok_iff.1 hbounds)
  have hcreation : Fields.get? Registry.builtin "slice" = some .slice := rfl
  have hname : IsName "slice" := by decide
  have hcreate (ps : List Param) (hps : ps.length ≤ 1)
      (hfits : Fits (Site.part scope expand s.item?) item ps[0]?)
      (r : Rule) (hr : r.SameCheck { Rule.named "slice" with params := ps, range := bounds.range? })
      (same : Nat → Compiled Validator) (anew : Rule → Compiled Validator) :
      s.create scope r (partAt r (Site.part scope expand s.key?))
        (partAt r (Site.part scope expand s.item?)) same anew .slice = .ok (.slice item bounds s.target.length?) :=
    slice_of_fits hsimplifies hr (expect_eq_ok_iff.1 hexpect) hps hfits hbounds (orInvalid_eq_ok_iff.1 hlength)
  -- An item that needs no check leaves the rule without params, and any other one has its rule as the only param.
  rcases fits_of_param hsimplifies hitem hpart with hfits | ⟨p, hfits⟩
  · obtain ⟨rfl, -⟩ := id hfits
    refine restores_of_create hbuiltin ?_ rfl ?_ hcreation (hcreate [] (by simp) hfits)
    · exact Rule.wellFormed_of_plain hname trivial hrange rfl rfl
    · rw [← String.toList_inj]
      simp [Validator.toText, Rule.toString, Rule.text, Rule.named, Bounds.text, Presence.text]
  · obtain ⟨w, rfl, -, hp⟩ := id hfits
    refine restores_of_create hbuiltin ?_ rfl ?_ hcreation (hcreate [.rule p] (by simp) hfits)
    · exact Rule.wellFormed_of_plain hname ⟨hp.wellFormed, trivial⟩ hrange rfl rfl
    · rw [← String.toList_inj]
      simp [Validator.toText, hp.text, Rule.toString, Rule.text, Rule.named, Param.texts, Param.text,
        commaSeparated, Bounds.text, Presence.text]

private theorem map_of_fits {keyCompile itemCompile : Option Rule → Compiled Validator} {ps : List Param}
    {key item : Option Validator} {bounds : Bounds Nat} {r : Rule} (hsimplifies : scope.simplifies = true)
    (hr : r.SameCheck { Rule.named "map" with params := ps, range := bounds.range? })
    (hexpect : s.target.kind = .any ∨ s.target.kind ∈ [Kind.map]) (hps : ps.length ≤ 2)
    (hkey : Fits keyCompile key ps[0]?) (hitem : Fits itemCompile item ps[1]?)
    (hbounds : Bounds.ofLengths? bounds.range? = .ok bounds) :
    s.map scope r (partAt r keyCompile) (partAt r itemCompile) = .ok (.map key item bounds) := by
  obtain ⟨-, hparams, hrange, hvalues, hpattern⟩ := hr
  have hcount : r.params.length = ps.length := Param.length_eq_of_bareAll_eq hparams
  refine bind_eq_ok.2 ⟨(), expect_eq_ok_iff.2 hexpect, ?_⟩
  refine bind_eq_ok.2 ⟨(), orInvalid_eq_ok_iff.2 (refuse_values_pattern.2 ⟨hvalues, hpattern⟩), ?_⟩
  refine (if_neg (by omega)).trans ?_
  refine bind_eq_ok.2 ⟨bounds, orInvalid_eq_ok_iff.2 (hrange ▸ hbounds), ?_⟩
  refine bind_eq_ok.2 ⟨key, param_of_fits hsimplifies hparams hkey, ?_⟩
  exact bind_eq_ok.2 ⟨item, param_of_fits hsimplifies hparams hitem, rfl⟩

private theorem restores_map {r : Rule} (hbuiltin : scope.registry = .builtin) (hsimplifies : scope.simplifies = true)
    (hkey : ∀ rule?, paramRule r.params 0 = .ok rule? → Repeats (Site.part scope expand s.key?) rule?)
    (hitem : ∀ rule?, paramRule r.params 1 = .ok rule? → Repeats (Site.part scope expand s.item?) rule?)
    (h : s.map scope r (partAt r (Site.part scope expand s.key?)) (partAt r (Site.part scope expand s.item?)) =
      .ok v) :
    ∃ r₀, Restores (s.inner scope expand false) v r₀ := by
  obtain ⟨_, hexpect, h⟩ := bind_eq_ok.1 h
  obtain ⟨_, -, h⟩ := bind_eq_ok.1 h
  split at h
  next => cases h
  obtain ⟨bounds, hbounds, h⟩ := bind_eq_ok.1 h
  obtain ⟨key, hkeyPart, h⟩ := bind_eq_ok.1 h
  obtain ⟨item, hitemPart, h⟩ := bind_eq_ok.1 h
  obtain rfl := Except.ok.inj h
  obtain ⟨hbounds, hrange⟩ := Bounds.ofRange?_range? readsBack_readLength (orInvalid_eq_ok_iff.1 hbounds)
  have hcreation : Fields.get? Registry.builtin "map" = some .map := rfl
  have hname : IsName "map" := by decide
  have hrestore (ps : List Param) (hps : ps.length ≤ 2) (hwellFormed : Param.AllWellFormed ps)
      (hkeyFits : Fits (Site.part scope expand s.key?) key ps[0]?)
      (hitemFits : Fits (Site.part scope expand s.item?) item ps[1]?)
      (htext : (Validator.map key item bounds).toText =
        Rule.toString { Rule.named "map" with params := ps, range := bounds.range? }) :
      ∃ r₀, Restores (s.inner scope expand false) (.map key item bounds) r₀ := by
    refine restores_of_create hbuiltin ?_ rfl htext hcreation ?_
    · exact Rule.wellFormed_of_plain hname hwellFormed hrange rfl rfl
    · intro r hr same anew
      exact map_of_fits hsimplifies hr (expect_eq_ok_iff.1 hexpect) hps hkeyFits hitemFits hbounds
  -- A key that needs no check leaves a blank in front of the rule for the items, if there is one.
  rcases fits_of_param hsimplifies hkey hkeyPart with hkeyFits | ⟨p, hkeyFits⟩ <;>
    rcases fits_of_param hsimplifies hitem hitemPart with hitemFits | ⟨q, hitemFits⟩
  · obtain ⟨⟨rfl, -⟩, rfl, -⟩ := And.intro (id hkeyFits) (id hitemFits)
    refine hrestore [] (by simp) trivial hkeyFits hitemFits ?_
    rw [← String.toList_inj]
    simp [Validator.toText, Rule.toString, Rule.text, Rule.named, Bounds.text, Presence.text]
  · obtain ⟨⟨rfl, -⟩, w, rfl, -, hq⟩ := And.intro (id hkeyFits) (id hitemFits)
    refine hrestore [.blank, .rule q] (by simp) ⟨trivial, hq.wellFormed, trivial⟩ hkeyFits hitemFits ?_
    rw [← String.toList_inj]
    simp [Validator.toText, hq.text, Rule.toString, Rule.text, Rule.named, Param.texts, Param.text,
      commaSeparated, Bounds.text, Presence.text]
  · obtain ⟨⟨u, rfl, -, hp⟩, rfl, -⟩ := And.intro (id hkeyFits) (id hitemFits)
    refine hrestore [.rule p] (by simp) ⟨hp.wellFormed, trivial⟩ hkeyFits hitemFits ?_
    rw [← String.toList_inj]
    simp [Validator.toText, hp.text, Rule.toString, Rule.text, Rule.named, Param.texts, Param.text,
      commaSeparated, Bounds.text, Presence.text]
  · obtain ⟨⟨u, rfl, -, hp⟩, w, rfl, -, hq⟩ := And.intro (id hkeyFits) (id hitemFits)
    refine hrestore [.rule p, .rule q] (by simp) ⟨hp.wellFormed, hq.wellFormed, trivial⟩ hkeyFits hitemFits ?_
    rw [← String.toList_inj]
    simp [Validator.toText, hp.text, hq.text, Rule.toString, Rule.text, Rule.named, Param.texts, Param.text,
      commaSeparated, Bounds.text, Presence.text]

/-- The check that a family or format makes of a rule has a rule of its own that makes it at the same site. -/
theorem inner_restores {r : Rule} {inferred : Bool} (hbuiltin : scope.registry = .builtin)
    (hsimplifies : scope.simplifies = true) (hr : r.WellFormed) (hfloat : r.name ∉ Registry.floatNames)
    (hparts : ∀ i rule?, paramRule r.params i = .ok rule? →
      Repeats (Site.part scope expand s.key?) rule? ∧ Repeats (Site.part scope expand s.item?) rule?)
    (h : s.inner scope expand inferred r = .ok (some v)) :
    ∃ r₀, Restores (s.inner scope expand false) v r₀ := by
  have hname : r.name ≠ "" := (Rule.wellFormed_iff.1 hr).1.isLiteral.1
  cases hcreation : Fields.get? scope.registry r.name with
  | none =>
    cases r
    simp only [inner, hname, if_false, hcreation] at h
    cases h
  | some creation =>
    obtain ⟨same, anew, hinner⟩ := inner_eq expand s inferred hname hcreation
    rw [hinner] at h
    obtain ⟨v', hcreate, hv⟩ := bind_eq_ok.1 h
    obtain rfl : v' = v := by
      have hv := Except.ok.inj hv
      split at hv
      · cases hv
      · exact Option.some.inj hv
    rw [hbuiltin] at hcreation
    rcases Registry.of_get?_builtin hcreation with ⟨-, h⟩ | ⟨signed, rfl⟩ | hfamily | ⟨f, hf, rfl⟩
    · exact absurd h hfloat
    · obtain ⟨_, hexpect, hcreate⟩ := bind_eq_ok.1 hcreate
      obtain ⟨c, hc, hcreate⟩ := bind_eq_ok.1 hcreate
      obtain rfl := Except.ok.inj hcreate
      exact restores_integer hbuiltin (expect_eq_ok_iff.1 hexpect) (orInvalid_eq_ok_iff.1 hc)
    · simp only [List.mem_cons, List.not_mem_nil, or_false] at hfamily
      rcases hfamily with rfl | rfl | rfl | rfl
      · obtain ⟨_, hexpect, hcreate⟩ := bind_eq_ok.1 hcreate
        obtain ⟨c, hc, hcreate⟩ := bind_eq_ok.1 hcreate
        obtain rfl := Except.ok.inj hcreate
        exact restores_text hbuiltin hr (expect_eq_ok_iff.1 hexpect) (orInvalid_eq_ok_iff.1 hc)
      · exact restores_slice hbuiltin hsimplifies (fun rule? h => (hparts 0 rule? h).2) hcreate
      · exact restores_map hbuiltin hsimplifies (fun rule? h => (hparts 0 rule? h).1)
          (fun rule? h => (hparts 1 rule? h).2) hcreate
      · obtain ⟨_, hexpect, hcreate⟩ := bind_eq_ok.1 hcreate
        obtain ⟨_, -, hcreate⟩ := bind_eq_ok.1 hcreate
        obtain ⟨checks, hchecks, hcreate⟩ := bind_eq_ok.1 hcreate
        obtain rfl := Except.ok.inj hcreate
        exact restores_struct hbuiltin (expect_eq_ok_iff.1 hexpect) hchecks
    · obtain ⟨_, hexpect, hcreate⟩ := bind_eq_ok.1 hcreate
      obtain ⟨_, -, hcreate⟩ := bind_eq_ok.1 hcreate
      obtain rfl := Except.ok.inj hcreate
      exact restores_format hbuiltin hf (expect_eq_ok_iff.1 hexpect)

end

end Site

end FieldRules

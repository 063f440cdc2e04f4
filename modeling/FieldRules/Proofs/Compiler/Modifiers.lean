import FieldRules.Proofs.Compiler.Filling
import FieldRules.Proofs.Compiler.Source
import FieldRules.Proofs.Value.Same

/-!
# Modifiers and the marks of rules

A modifier from a tag does what the mark at the end of a rule text does. Of several defaults the last one counts, also
against the mark of the rule, and being optional takes no default away (`Modifier.settle`). So a rule with modifiers
is compiled like the canonical text of the rule whose mark they settle, with nothing but the messages left to add
(`Factory.compile_settled`).
-/

namespace FieldRules

namespace Modifier

/-- The default that modifiers ask for; the last one counts. -/
def default? : List Modifier → Option String
  | [] => none
  | .default text :: rest => some ((default? rest).getD text)
  | _ :: rest => default? rest

/-- What is said of an absent value when modifiers are added to a rule that says something of it: the last default
wins, and being optional changes a rule only that requires a value. -/
def settle (p : Presence) (mods : List Modifier) : Presence :=
  match default? mods with
  | some text => .default text
  | none => if .optional ∈ mods ∧ p = .required then .optional else p

/-- The modifiers that have no mark: those with a message. -/
def messages (mods : List Modifier) : List Modifier :=
  mods.filter fun
    | .message _ => true
    | _ => false

private theorem settle_relax (p : Presence) (mods : List Modifier) :
    settle p.relax mods = settle p (.optional :: mods) := by
  simp only [settle, default?]
  cases default? mods <;> cases p <;> simp [Presence.relax]

private theorem settle_message (p : Presence) (text : String) (mods : List Modifier) :
    settle p (.message text :: mods) = settle p mods := by
  simp only [settle, default?]
  cases default? mods <;> simp

theorem foldl_apply_eq (mods : List Modifier) (r : Rule) :
    mods.foldl apply r = { r with presence := settle r.presence mods } := by
  induction mods generalizing r with
  | nil =>
    cases r
    rfl
  | cons m mods ih =>
    rw [List.foldl_cons, ih]
    cases m with
    | optional => simp only [apply, settle_relax]
    | default text =>
      simp only [apply, Rule.withDefault, settle, default?]
      cases default? mods <;> simp
    | message text => simp only [apply, settle_message]

private theorem foldl_apply_messages (mods : List Modifier) (r : Rule) : (messages mods).foldl apply r = r := by
  induction mods with
  | nil => rfl
  | cons m mods ih => cases m <;> exact ih

private theorem message?_messages (mods : List Modifier) : message? (messages mods) = message? mods := by
  induction mods with
  | nil => rfl
  | cons m mods ih =>
    cases m with
    | optional => exact ih
    | default text => exact ih
    | message text => exact congrArg (fun rest : Option String => some (rest.getD text)) ih

private theorem default?_eq_none {mods : List Modifier} (h : ∀ text, .default text ∉ mods) :
    default? mods = none := by
  induction mods with
  | nil => rfl
  | cons m mods ih =>
    have hrest : default? mods = none := ih fun text hmem => h text (List.mem_cons_of_mem _ hmem)
    cases m with
    | optional => exact hrest
    | default text => exact absurd (List.mem_cons_self ..) (h text)
    | message text => exact hrest

/-- The last default counts, whatever stands in front of it. -/
private theorem settle_of_last {text : String} {back : List Modifier} (h : ∀ later, .default later ∉ back)
    (p : Presence) (front : List Modifier) : settle p (front ++ .default text :: back) = .default text := by
  have hlast : default? (front ++ .default text :: back) = some text := by
    induction front with
    | nil => simp [default?, default?_eq_none h]
    | cons m front ih => cases m <;> simp [default?, ih]
  simp [settle, hlast]

/-- A default stays, unless another one comes. -/
private theorem settle_of_default {mods : List Modifier} (h : ∀ later, .default later ∉ mods) (text : String) :
    settle (.default text) mods = .default text := by
  simp [settle, default?_eq_none h]

/-- Being optional changes nothing for a rule that lets an absent value pass. -/
private theorem settle_optional_of_ne {p : Presence} (h : p ≠ .required) : settle p [.optional] = p := by
  simp [settle, default?, h]

end Modifier

open Modifier (settle messages)

/-- Modifiers of a rule may be settled beforehand. -/
private theorem Site.compile_settled (scope : Scope) (n : Nat) (site : Site Compiled) (s : Schema) (r : Rule)
    (mods : List Modifier) :
    Site.compile scope (n + 1) site s (some r) mods =
      Site.compile scope (n + 1) site s (some { r with presence := settle r.presence mods }) (messages mods) := by
  simp only [Site.compile, Option.getD_some, Option.isNone_some, Modifier.foldl_apply_messages,
    Modifier.foldl_apply_eq mods r, Modifier.message?_messages]

private theorem Schema.compile_settled (scope : Scope) (s : Schema) (r : Rule) (mods : List Modifier) :
    s.compile (.plain scope) (some r) mods =
      s.compile (.plain scope) (some { r with presence := settle r.presence mods }) (messages mods) := by
  obtain ⟨shape, alias?, codec?, test⟩ := s
  cases codec? with
  | none =>
    simp only [Schema.compile]
    exact Site.compile_settled ..
  | some codec =>
    simp only [Schema.compile]
    exact Site.compile_settled ..

/-- A rule that can be written may be said by its canonical text. -/
private theorem readRule_toString_bind {r : Rule} (h : r.WellFormed) (scope : Scope) (s : Schema)
    (mods : List Modifier) :
    ((readRule r.toString : Compiled (Option Rule)) >>= fun rule? => s.compile (.plain scope) rule? mods) =
      s.compile (.plain scope) (some r) mods := by
  obtain ⟨t, hread, hbare⟩ := readRule_toString h
  rw [hread]
  exact s.compile_eq_of_bare_eq hbare mods

/-- A text with a rule in it is not blank. -/
private theorem Rule.not_allBlank_of_parse {text : String} {r : Rule} (h : Rule.parse text = .ok r) :
    Text.allBlank text.toList = false := by
  rw [Bool.eq_false_iff]
  intro hblank
  obtain ⟨ts, hts, hkinds⟩ := Lexer.reads_of_allBlank hblank 0
  obtain rfl := List.map_eq_nil_iff.1 hkinds
  simp only [Rule.parse, Lexer.tokens, hts] at h
  cases h

theorem readRule_of_parse {text : String} {r : Rule} (h : Rule.parse text = .ok r) :
    (readRule text : Compiled (Option Rule)) = .ok (some r) := by
  unfold readRule
  rw [Rule.not_allBlank_of_parse h, h]
  rfl

namespace Factory

/-- A rule with modifiers is compiled as the canonical text of the rule whose mark they settle. -/
theorem compile_settled {f : Factory} (hcache : f.config.cache = false) {text : String} {r : Rule}
    (hparse : Rule.parse text = .ok r) (s : Schema) (mods : List Modifier) :
    (f.compile text s mods).1 =
      (f.compile ({ r with presence := settle r.presence mods } : Rule).toString s (messages mods)).1 := by
  have hparts := Rule.wellFormed_iff.1 (Rule.wellFormed_of_parse hparse)
  have hwritten : ({ r with presence := settle r.presence mods } : Rule).WellFormed := Rule.wellFormed_iff.2 hparts
  rw [compile_eq hcache, compile_eq hcache, readRule_toString_bind hwritten, readRule_of_parse hparse,
    ← s.compile_settled f.scope r mods]
  rfl

/-- Modifiers and the marks of a rule text are the same thing. A rule text compiles with a default added to what the
canonical text of its rule with that default compiles to, be it an error or a validator; made optional, to what the
canonical text of the rule compiles to with its mark set, which changes a rule only that requires a value. A later
default wins over an earlier one and over the mark of the rule, and being optional takes no default away. -/
theorem compile_modified {f : Factory} (hcache : f.config.cache = false) {text : String} {r : Rule}
    (hparse : Rule.parse text = .ok r) (s : Schema) :
    (∀ d, (f.compile text s [.default d]).1 =
        (f.compile ({ r with presence := .default d } : Rule).toString s []).1) ∧
      (r.presence = .required →
        (f.compile text s [.optional]).1 = (f.compile ({ r with presence := .optional } : Rule).toString s []).1) ∧
      (r.presence ≠ .required → (f.compile text s [.optional]).1 = (f.compile r.toString s []).1) ∧
      (∀ front d back, (∀ later, .default later ∉ back) →
        (f.compile text s (front ++ .default d :: back)).1 =
          (f.compile ({ r with presence := .default d } : Rule).toString s (messages (front ++ back))).1) ∧
      (∀ d mods, r.presence = .default d → (∀ later, .default later ∉ mods) →
        (f.compile text s mods).1 = (f.compile text s (messages mods)).1) ∧
      ∀ mods l, (f.compile text s mods).1 = .ok (.loader l) → l.onEmpty.presence = settle r.presence mods := by
  refine ⟨fun d => compile_settled hcache hparse s [.default d], fun hrequired => ?_, fun hpresence => ?_,
    fun front d back hlast => ?_, fun d mods hd hlater => ?_, fun mods l hl => ?_⟩
  · have hoptional : settle r.presence [.optional] = .optional := by
      rw [hrequired]
      rfl
    have hsettled := compile_settled hcache hparse s [.optional]
    rwa [hoptional] at hsettled
  · have hsettled := compile_settled hcache hparse s [.optional]
    have hsame : ({ r with presence := settle r.presence [.optional] } : Rule) = r := by
      rw [Modifier.settle_optional_of_ne hpresence]
      cases r
      rfl
    rwa [hsame] at hsettled
  · have hmessages : messages (front ++ .default d :: back) = messages (front ++ back) := by
      simp [messages, List.filter_append]
    rw [compile_settled hcache hparse, Modifier.settle_of_last hlast, hmessages]
  · have hkept : settle r.presence mods = settle r.presence (messages mods) := by
      rw [hd, Modifier.settle_of_default hlater, Modifier.settle_of_default]
      exact fun later hmem => hlater later (List.mem_filter.1 hmem).1
    rw [compile_settled hcache hparse s mods, compile_settled hcache hparse s (messages mods), hkept]
    simp only [messages, List.filter_filter, Bool.and_self]
  · obtain ⟨rule?, hread, hl⟩ := (compile_eq_ok_iff hcache).1 hl
    rw [readRule_of_parse hparse] at hread
    obtain rfl := Except.ok.inj hread
    obtain ⟨inner, policy, -, hpolicy, hl⟩ := Schema.compile_eq_ok_iff.1 hl
    obtain rfl := Validator.loader.inj hl
    rw [(emptyPolicy_of_presence hpolicy).1, Schema.ruleFor, Option.getD_some, Modifier.foldl_apply_eq]

/-- A rule text with blanks in it and a default of its own. The default that counts has a quote and a backslash in it,
and another one stands in front of it. Beside it one that requires a value: made optional, it lets an absent one
pass. -/
theorem compile_modified_quoted :
    let f := builtin { cache := false }
    let text := "@slice < @string[1,] > = '[]'"
    let s := Schema.slice .string
    let d := "[\"it's\",\"\\\\\"]"
    (∃ r, Rule.parse text = .ok r ∧
      ({ r with presence := .default d } : Rule).toString = "@slice<@string[1,]> = '[\"it\\'s\",\"\\\\\\\\\"]'" ∧
      (f.compile text s [.default d]).1 = (f.compile ({ r with presence := .default d } : Rule).toString s []).1 ∧
      (f.compile text s [.default "[\"\"]", .optional, .default d, .message "m", .optional]).1 =
        (f.compile ({ r with presence := .default d } : Rule).toString s [.message "m"]).1 ∧
      (f.compile text s [.optional]).1 = (f.compile r.toString s []).1 ∧
      (f.compile text s [.optional]).1 = (f.compile text s []).1 ∧
      ∃ v, (f.compile text s [.default d]).1 = .ok v ∧ (v.fill .null).2 = .list [.string "it's", .string "\\"]) ∧
    ∃ r v w, Rule.parse " @string [1,]" = .ok r ∧ r.presence = .required ∧
      ({ r with presence := .optional } : Rule).toString = "@string[1,]?" ∧
      (f.compile " @string [1,]" .string [.optional]).1 =
        (f.compile ({ r with presence := .optional } : Rule).toString .string []).1 ∧
      (f.compile " @string [1,]" .string []).1 = .ok v ∧ v.validate (.string "") ≠ [] ∧
      (f.compile " @string [1,]" .string [.optional]).1 = .ok w ∧ w.validate (.string "") = [] := by
  intro f text s d
  constructor
  · have hreads : ((Rule.parse text).toOption.any fun r =>
        decide (({ r with presence := .default d } : Rule).toString =
          "@slice<@string[1,]> = '[\"it\\'s\",\"\\\\\\\\\"]'" ∧
          r.presence = .default "[]")) = true := by
      decide +kernel
    obtain ⟨r, hr, hparts⟩ := exists_of_toOption_any hreads
    obtain ⟨htext, hpresence⟩ := of_decide_eq_true hparts
    have hcompiles : ((f.compile text s [.default d]).1.toOption.any fun v =>
        (v.fill .null).2.same (.list [.string "it's", .string "\\"])) = true := by decide +kernel
    obtain ⟨v, hv, hfilled⟩ := exists_of_toOption_any hcompiles
    obtain ⟨hdefault, -, hoptional, hlast, hkept, -⟩ := compile_modified (f := f) rfl hr s
    have hmarked : r.presence ≠ .required := by rw [hpresence]; nofun
    exact ⟨r, hr, htext, hdefault d, hlast [.default "[\"\"]", .optional] d [.message "m", .optional] (by simp),
      hoptional hmarked, hkept "[]" [.optional] hpresence (by simp), v, hv, Value.eq_of_same _ _ hfilled⟩
  · have hreads : ((Rule.parse " @string [1,]").toOption.any fun r => decide (r.presence = .required ∧
        ({ r with presence := .optional } : Rule).toString = "@string[1,]?")) = true := by decide +kernel
    obtain ⟨r, hr, hparts⟩ := exists_of_toOption_any hreads
    obtain ⟨hrequired, htext⟩ := of_decide_eq_true hparts
    have hrefuses : ((f.compile " @string [1,]" .string []).1.toOption.any fun v =>
        decide (v.validate (.string "") ≠ [])) = true := by decide +kernel
    have hpasses : ((f.compile " @string [1,]" .string [.optional]).1.toOption.any fun v =>
        decide (v.validate (.string "") = [])) = true := by decide +kernel
    obtain ⟨v, hv, hrefuses⟩ := exists_of_toOption_any hrefuses
    obtain ⟨w, hw, hpasses⟩ := exists_of_toOption_any hpasses
    obtain ⟨-, hoptional, -⟩ := compile_modified (f := f) rfl hr .string
    exact ⟨r, v, w, hr, hrequired, htext, hoptional hrequired, hv, of_decide_eq_true hrefuses, hw,
      of_decide_eq_true hpasses⟩

end Factory

end FieldRules

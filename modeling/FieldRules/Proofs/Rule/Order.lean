import FieldRules.Proofs.Rule.Kinds
import FieldRules.Proofs.Rule.Segments
import FieldRules.Proofs.Rule.Tiling
import Mathlib.Data.List.Perm.Basic

/-!
# The order of modifiers

The clauses of a rule can come in any order that keeps the groups of values in theirs (`Rule.foldl_withClause_perm`).
The reader takes the tokens of each modifier as one clause wherever they stand, so the modifiers of a rule, be it
inside of other rules, can be put in another order and read as the same rule (`Rule.parse_respaced`).
-/

namespace FieldRules

namespace Rule

variable {r : Rule} {c : Clause} {as bs cs ds : List Clause}

private theorem withClause_comm {d : Clause} (h : c.sort? ≠ d.sort?) :
    (r.withClause c).withClause d = (r.withClause d).withClause c := by
  cases c <;> cases d <;> first | rfl | exact absurd rfl h

/-- A clause can come before those of other sorts. -/
private theorem foldl_withClause_middle (h : ∀ a ∈ as, a.sort? ≠ c.sort?) :
    (as ++ c :: bs).foldl withClause r = (c :: (as ++ bs)).foldl withClause r := by
  induction as generalizing r with
  | nil => rfl
  | cons a as ih =>
    obtain ⟨ha, has⟩ := List.forall_mem_cons.1 h
    rw [List.cons_append, List.foldl_cons, ih has, List.cons_append]
    simp only [List.foldl_cons]
    rw [withClause_comm ha]

/-- Whether a clause is a group of values, of which a rule can have many. -/
def Clause.isGroup (c : Clause) : Bool :=
  c.sort?.isNone

private theorem AtMostOnce.perm (h : cs.Perm ds) (honce : AtMostOnce cs) : AtMostOnce ds :=
  (h.filterMap Clause.sort?).nodup_iff.1 honce

/-- The first of some clauses stands, in another order of them, behind clauses of other sorts only. -/
private theorem exists_append_cons (hperm : (c :: cs).Perm ds)
    (hgroups : (c :: cs).filter Clause.isGroup = ds.filter Clause.isGroup) (honce : AtMostOnce ds) :
    ∃ as bs, ds = as ++ c :: bs ∧ (∀ a ∈ as, a.sort? ≠ c.sort?) ∧
      cs.filter Clause.isGroup = (as ++ bs).filter Clause.isGroup := by
  cases hsort : c.sort? with
  | none =>
    have hc : c.isGroup = true := by rw [Clause.isGroup, hsort]; rfl
    rw [List.filter_cons_of_pos hc] at hgroups
    obtain ⟨as, bs, rfl, has, -, hbs⟩ := List.filter_eq_cons_iff.1 hgroups.symm
    refine ⟨as, bs, rfl, ?_, ?_⟩
    · intro a ha hnone
      exact has a ha (by rw [Clause.isGroup, hnone]; rfl)
    · rw [List.filter_append, List.filter_eq_nil_iff.2 has, hbs, List.nil_append]
  | some sort =>
    have hc : ¬ c.isGroup = true := by simp [Clause.isGroup, hsort]
    obtain ⟨as, bs, rfl⟩ := List.append_of_mem (hperm.mem_iff.1 (List.mem_cons_self ..))
    refine ⟨as, bs, rfl, ?_, ?_⟩
    · intro a ha hsame
      rw [AtMostOnce, List.filterMap_append] at honce
      have hfront : sort ∈ as.filterMap Clause.sort? := List.mem_filterMap.2 ⟨a, ha, hsame⟩
      have hback : sort ∈ (c :: bs).filterMap Clause.sort? := List.mem_filterMap.2 ⟨c, List.mem_cons_self .., hsort⟩
      exact (List.nodup_append.1 honce).2.2 sort hfront sort hback rfl
    · rw [List.filter_cons_of_neg hc, List.filter_append, List.filter_cons_of_neg hc] at hgroups
      rw [hgroups, List.filter_append]

/-- Clauses make the same rule in any order that keeps the groups of values in theirs. -/
theorem foldl_withClause_perm (hperm : cs.Perm ds) (hgroups : cs.filter Clause.isGroup = ds.filter Clause.isGroup)
    (honce : AtMostOnce ds) : cs.foldl withClause r = ds.foldl withClause r := by
  induction cs generalizing ds r with
  | nil =>
    obtain rfl := List.nil_perm.1 hperm
    rfl
  | cons c cs ih =>
    obtain ⟨as, bs, rfl, has, hgroups'⟩ := exists_append_cons hperm hgroups honce
    have hrest : cs.Perm (as ++ bs) := (hperm.trans List.perm_middle).cons_inv
    have honce' : AtMostOnce (as ++ bs) :=
      honce.sublist ((List.Sublist.append_left (List.sublist_cons_self c bs) as).filterMap Clause.sort?)
    rw [foldl_withClause_middle has, List.foldl_cons, List.foldl_cons, ih hrest hgroups' honce']

end Rule

open Rule (AtMostOnce)

/-! ### Modifiers in another order -/

/-- Tokens derive one clause only. -/
theorem ClauseDerives.unique {source : List Char} {ts : List Token} {c c' : Rule.Clause}
    (h : ClauseDerives source ts c) (h' : ClauseDerives source ts c') : c = c' := by
  have hlacks (c : Rule.Clause) : (Rule.named "").Lacks c := by cases c <;> first | rfl | trivial
  -- The reader, which has no choice, comes to a rule that shows the clause.
  obtain ⟨r, hr, last, rfl⟩ := h.comes ⟨0, .named ""⟩ [] 0 (hlacks c)
  obtain ⟨r', hr', last', rfl⟩ := h'.comes ⟨0, .named ""⟩ [] 0 (hlacks c')
  rw [hr] at hr'
  have hpresent := h.isPresent
  have hpresent' := h'.isPresent
  have hrule : (Rule.named "").withClause c = (Rule.named "").withClause c' := by
    simpa [Draft.withClause] using congrArg (Option.map fun r => r.state) hr'
  cases c <;> cases c' <;> simp_all [Rule.withClause, Rule.named, Rule.Clause.IsPresent]

/-- Whether the kinds are those of a group of values. -/
def startsGroup (ks : List TokenKind) : Bool :=
  ks.head? = some .leftBrace

private theorem ClauseDerives.isGroup_eq {source : List Char} {ts : List Token} {c : Rule.Clause}
    (h : ClauseDerives source ts c) : c.isGroup = startsGroup (ts.map Token.kind) := by
  cases h with
  | params left_kind slots right_kind => simp [startsGroup, left_kind, Rule.Clause.isGroup, Rule.Clause.sort?]
  | range h =>
    generalize ts.map Token.kind = ks at h
    cases h with
    | exact text => rfl
    | span exclusiveMin exclusiveMax lower upper => cases exclusiveMin <;> rfl
  | values left_kind h right_kind => simp [startsGroup, left_kind, Rule.Clause.isGroup, Rule.Clause.sort?]
  | pattern kind compiles => simp [startsGroup, kind, Rule.Clause.isGroup, Rule.Clause.sort?]
  | marker h =>
    generalize ts.map Token.kind = ks at h
    cases h <;> rfl

private theorem ClausesDerive.flatten {source : List Char} {segs : List (List Token)} {cs : List Rule.Clause}
    (h : List.Forall₂ (ClauseDerives source) segs cs) : ClausesDerive source segs.flatten cs := by
  induction h with
  | nil => exact .nil
  | cons first _ ih => exact .cons first ih

namespace RuleReader

variable {source : List Char} {r' : RuleReader} {segs segs' : List (List Token)} {start : Nat} {name : String}
  {outer : List OpenParams} {last : Nat}

/-- The reader takes modifiers as clauses, of which there is room for all. -/
private theorem advanceAll_segments {done : List Rule.Clause} (hsegs : ∀ seg ∈ segs, IsSegment (seg.map Token.kind))
    (hdone : ∀ c ∈ done, c.IsPresent) (honce : AtMostOnce done)
    (hr : advanceAll? source ⟨.modifier ⟨start, .ofClauses "" name done⟩, outer, last⟩ segs.flatten = some r') :
    ∃ cs, List.Forall₂ (ClauseDerives source) segs cs ∧ AtMostOnce (done ++ cs) ∧
      Behind outer ⟨start, .ofClauses "" name (done ++ cs)⟩ r' := by
  induction segs generalizing done last with
  | nil =>
    obtain rfl := Option.some.inj hr
    exact ⟨[], .nil, by rwa [List.append_nil], last, by rw [List.append_nil]⟩
  | cons seg segs ih =>
    obtain ⟨hseg, hsegs⟩ := List.forall_mem_cons.1 hsegs
    rw [List.flatten_cons, advanceAll?_append, Option.bind_eq_some_iff] at hr
    obtain ⟨next, hnext, hrest⟩ := hr
    obtain ⟨c, last', hc, hlacks, rfl⟩ := advanceAll_segment hseg hnext
    rw [Draft.withClause, ← Rule.ofClauses_snoc] at hrest
    have hdone' : ∀ d ∈ done ++ [c], d.IsPresent :=
      List.forall_mem_append.2 ⟨hdone, List.forall_mem_singleton.2 hc.isPresent⟩
    have honce' := (Rule.atMostOnce_snoc_iff hdone).2 ⟨honce, hlacks⟩
    obtain ⟨cs, hcs, honce'', hbehind⟩ := ih hsegs hdone' honce' hrest
    rw [List.append_assoc] at honce'' hbehind
    exact ⟨c :: cs, .cons hc hcs, honce'', hbehind⟩

private theorem filter_isGroup_eq {cs cs' : List Rule.Clause} (hcs : List.Forall₂ (ClauseDerives source) segs cs)
    (hcs' : List.Forall₂ (ClauseDerives source) segs' cs')
    (hgroups : segs.filter (fun seg => startsGroup (seg.map Token.kind)) =
      segs'.filter fun seg => startsGroup (seg.map Token.kind)) :
    cs.filter Rule.Clause.isGroup = cs'.filter Rule.Clause.isGroup := by
  have hfilter {segs : List (List Token)} {cs : List Rule.Clause} (h : List.Forall₂ (ClauseDerives source) segs cs) :
      List.Forall₂ (ClauseDerives source) (segs.filter fun seg => startsGroup (seg.map Token.kind))
        (cs.filter Rule.Clause.isGroup) :=
    List.rel_filter (fun seg c hc => iff_of_eq (congrArg (· = true) hc.isGroup_eq.symm)) h
  have hleft := hfilter hcs
  rw [hgroups] at hleft
  exact List.right_unique_forall₂' (fun _ _ _ h h' => h.unique h') hleft (hfilter hcs')

/-- Modifiers are taken in any order that keeps the groups of values in theirs, and make the same rule. -/
private theorem advanceAll_perm (hsegs : ∀ seg ∈ segs, IsSegment (seg.map Token.kind)) (hperm : segs.Perm segs')
    (hgroups : segs.filter (fun seg => startsGroup (seg.map Token.kind)) =
      segs'.filter fun seg => startsGroup (seg.map Token.kind))
    (hr : advanceAll? source ⟨.modifier ⟨start, .named name⟩, outer, last⟩ segs.flatten = some r') :
    ∃ last', advanceAll? source ⟨.modifier ⟨start, .named name⟩, outer, last⟩ segs'.flatten =
      some { r' with last := last' } := by
  have hempty : AtMostOnce [] := List.nodup_nil
  obtain ⟨cs, hcs, honce, last₁, rfl⟩ := @advanceAll_segments _ _ _ _ _ _ _ [] hsegs nofun hempty hr
  obtain ⟨cs', hcs', hperm'⟩ := List.perm_comp_forall₂ hperm.symm hcs
  have honce' : AtMostOnce cs' := Rule.AtMostOnce.perm hperm'.symm honce
  have hrule : Rule.ofClauses "" name cs' = .ofClauses "" name cs :=
    Rule.foldl_withClause_perm hperm' (filter_isGroup_eq hcs' hcs hgroups.symm) honce
  obtain ⟨_, hread, last₂, rfl⟩ := (ClausesDerive.flatten hcs').comes start name [] outer last nofun honce'
  rw [List.nil_append, hrule] at hread
  exact ⟨last₂, hread⟩

/-- Behind a name the reader waits for a modifier, wherever the rule stands. -/
private theorem modifier_of_advanceAll {r : RuleReader} {sign word : Token} (hsign : sign.kind = .atSign)
    (hword : word.kind = .literal name) (hr : advanceAll? source r [sign, word] = some r') :
    ∃ outer, r' = ⟨.modifier ⟨sign.start, .named name⟩, outer, word.stop⟩ := by
  obtain ⟨next, hnext, hrest⟩ := Option.bind_eq_some_iff.1 hr
  obtain ⟨last, hlast, hend⟩ := Option.bind_eq_some_iff.1 hrest
  obtain rfl := Option.some.inj hend
  have hname : ∃ outer, next = ⟨.name sign.start, outer, sign.stop⟩ := by
    obtain ⟨state, outer, last⟩ := r
    cases state <;> grind [advance?, afterParam, afterMin, afterMax, afterValue, startsModifier]
  obtain ⟨outer, rfl⟩ := hname
  simp only [advance?, hword, Option.ite_none_right_eq_some, Option.some.injEq] at hlast
  exact ⟨outer, hlast.2.symm⟩

private theorem lastStop_ofKind (ks : List TokenKind) : lastStop 0 (ks.map Token.ofKind) = 0 := by
  rw [lastStop, List.getLast?_map]
  cases ks.getLast? <;> rfl

/-- Without offsets, the reader comes to the same place over modifiers in both orders. -/
private theorem advanceAll_kinds_perm {segs segs' : List (List TokenKind)} (hsegs : ∀ seg ∈ segs, IsSegment seg)
    (hperm : segs.Perm segs') (hgroups : segs.filter startsGroup = segs'.filter startsGroup)
    (hr : advanceAll? [] ⟨.modifier ⟨0, .named name⟩, outer, 0⟩ (segs.flatten.map Token.ofKind) = some r') :
    advanceAll? [] ⟨.modifier ⟨0, .named name⟩, outer, 0⟩ (segs'.flatten.map Token.ofKind) = some r' := by
  let tokens (segs : List (List TokenKind)) : List (List Token) := segs.map (List.map Token.ofKind)
  have hkinds (seg : List TokenKind) : (seg.map Token.ofKind).map Token.kind = seg := Token.map_kind_ofKind seg
  have htokens : ∀ seg ∈ tokens segs, IsSegment (seg.map Token.kind) := by
    intro seg hseg
    obtain ⟨ks, hks, rfl⟩ := List.mem_map.1 hseg
    rw [hkinds]
    exact hsegs ks hks
  have hfilter (segs : List (List TokenKind)) : (tokens segs).filter (fun seg => startsGroup (seg.map Token.kind)) =
      tokens (segs.filter startsGroup) := by
    simp only [tokens, List.filter_map, Function.comp_def, hkinds]
  have hlast := last_advanceAll hr
  rw [List.map_flatten] at hr ⊢
  obtain ⟨last', hr'⟩ := advanceAll_perm htokens (hperm.map _) (by rw [hfilter, hfilter, hgroups]) hr
  have hlast' := last_advanceAll hr'
  rw [← List.map_flatten] at hlast'
  rw [hr']
  have hzero : last' = r'.last := by rw [hlast, lastStop_ofKind, ← lastStop_ofKind segs'.flatten, ← hlast']
  rw [hzero]

end RuleReader

/-- The kinds of modifiers make the same rule in any order that keeps the groups of values in theirs, whatever stands
around the rule. -/
private theorem Rule.ofKinds_perm {segs segs' : List (List TokenKind)} (pre post : List TokenKind) (name : String)
    (hsegs : ∀ seg ∈ segs, IsSegment seg) (hperm : segs.Perm segs')
    (hgroups : segs.filter startsGroup = segs'.filter startsGroup) :
    ofKinds (pre ++ .atSign :: .literal name :: (segs.flatten ++ post)) =
      ofKinds (pre ++ .atSign :: .literal name :: (segs'.flatten ++ post)) := by
  have hsplit (ks : List TokenKind) : (pre ++ .atSign :: .literal name :: (ks ++ post)).map Token.ofKind =
      (pre.map Token.ofKind ++ [.ofKind .atSign, .ofKind (.literal name)]) ++
        (ks.map Token.ofKind ++ post.map Token.ofKind) := by
    simp
  have hsame (outer : List OpenParams) :
      RuleReader.advanceAll? [] ⟨.modifier ⟨0, .named name⟩, outer, 0⟩ (segs.flatten.map Token.ofKind) =
        RuleReader.advanceAll? [] ⟨.modifier ⟨0, .named name⟩, outer, 0⟩ (segs'.flatten.map Token.ofKind) := by
    ext r
    constructor
    · exact RuleReader.advanceAll_kinds_perm hsegs hperm hgroups
    · have hsegs' : ∀ seg ∈ segs', IsSegment seg := fun seg hseg => hsegs seg (hperm.mem_iff.2 hseg)
      exact RuleReader.advanceAll_kinds_perm hsegs' hperm.symm hgroups.symm
  rw [ofKinds, ofKinds, hsplit, hsplit]
  simp only [RuleReader.advanceAll?_append]
  congr 1
  cases hpre : RuleReader.advanceAll? [] {} (pre.map Token.ofKind) with
  | none => rfl
  | some r =>
    simp only [Option.bind_some]
    cases hhead : RuleReader.advanceAll? [] r [.ofKind .atSign, .ofKind (.literal name)] with
    | none => rfl
    | some r' =>
      obtain ⟨outer, rfl⟩ := RuleReader.modifier_of_advanceAll rfl rfl hhead
      exact congrArg (fun r => r.bind fun r => RuleReader.advanceAll? [] r (post.map Token.ofKind)) (hsame outer)

/-! ### Texts -/

/-- The text with other characters between two offsets: those of the given modifiers, each behind a blank. -/
def respaced (text : String) (start stop : Nat) (segs : List (List Token)) : String :=
  String.ofList (Text.takeBytes start text.toList ++
    (segs.flatMap (fun seg => ' ' :: Lexer.sourceOf text.toList seg) ++ ' ' :: Text.dropBytes stop text.toList))

namespace Lexer

private theorem isPart_respaced {source : List Char} {segs : List (List Token)}
    (h : ∀ seg ∈ segs, ReadsAs (sourceOf source seg) (seg.map Token.kind)) :
    IsPart (segs.flatMap fun seg => ' ' :: sourceOf source seg) (segs.map (List.map Token.kind)).flatten := by
  induction segs with
  | nil => exact isPart_nil
  | cons seg segs ih =>
    obtain ⟨hseg, hsegs⟩ := List.forall_mem_cons.1 h
    exact hseg.isPart.append (ih hsegs)

/-- With the modifiers in another order, each behind a blank, the tokens are those of the text in that order. -/
private theorem reads_respaced {text : String} {front post : List Token} {segs segs' : List (List Token)}
    (htokens : tokens text.toList = .ok (front ++ (segs.flatten ++ post))) (hperm : segs.Perm segs') :
    Reads (respaced text (lastStop 0 front) (lastStop 0 (front ++ segs.flatten)) segs').toList
      (front.map Token.kind ++ ((segs'.map (List.map Token.kind)).flatten ++ post.map Token.kind)) := by
  have htiles : Tiles 0 text.toList (front ++ (segs.flatten ++ post)) := tiles_of_scan htokens
  have hsegs : ∀ seg ∈ segs', ReadsAs (sourceOf text.toList seg) (seg.map Token.kind) := by
    intro seg hseg
    obtain ⟨before, after, rfl⟩ := List.append_of_mem (hperm.mem_iff.2 hseg)
    have hsplit : front ++ ((before ++ seg :: after).flatten ++ post) =
        (front ++ before.flatten) ++ (seg ++ (after.flatten ++ post)) := by simp
    rw [hsplit] at htiles
    exact htiles.readsAs_sourceOf
  obtain ⟨cs, rest, htext, hcs, hfront, -⟩ := htiles.cut_behind
  rw [← List.append_assoc] at htiles
  obtain ⟨ds, back, htext', hds, -, hback⟩ := htiles.cut_behind
  have htake : Text.takeBytes (lastStop 0 front) text.toList = cs := by
    rw [← hcs, htext, Nat.zero_add, Text.takeBytes_byteLength_append]
  have hdrop : Text.dropBytes (lastStop 0 (front ++ segs.flatten)) text.toList = back := by
    rw [← hds, htext', Nat.zero_add, Text.dropBytes_byteLength_append]
  have hbehind := (isPart_respaced hsegs).append hback.readsAs.isPart
  rw [respaced, String.toList_ofList, htake, hdrop]
  exact (hfront.readsAs.append hbehind.2 hbehind.1).reads

end Lexer

namespace Rule

/-- Texts of which the tokens make the same rule are rules together, and agree. -/
theorem parse_agrees {text text' : String} (h : (parse text).toOption.map bare = (parse text').toOption.map bare) :
    ((∃ r, parse text = .ok r) ↔ ∃ r, parse text' = .ok r) ∧
      ∀ r r', parse text = .ok r → parse text' = .ok r' → r.agrees r' = true := by
  cases hparse : parse text <;> cases hparse' : parse text' <;>
    simp_all [Except.toOption, agrees_iff]

/-- Put the modifiers of a rule in another order that keeps the groups of values in theirs, in a text or anywhere
inside of one: either both texts are rules, which agree, or neither is. -/
theorem parse_respaced {text name : String} {pre post : List Token} {sign word : Token}
    {segs segs' : List (List Token)}
    (htokens : tokenize text = .ok (pre ++ sign :: word :: (segs.flatten ++ post) ++ [Lexer.endToken text.toList]))
    (hsign : sign.kind = .atSign) (hword : word.kind = .literal name)
    (hsegs : ∀ seg ∈ segs, IsSegment (seg.map Token.kind)) (hperm : segs.Perm segs')
    (hgroups : segs.filter (fun seg => startsGroup (seg.map Token.kind)) =
      segs'.filter fun seg => startsGroup (seg.map Token.kind)) :
    let permuted := respaced text word.stop (lastStop word.stop segs.flatten) segs'
    ((∃ r, parse text = .ok r) ↔ ∃ r, parse permuted = .ok r) ∧
      ∀ r r', parse text = .ok r → parse permuted = .ok r' → r.agrees r' = true := by
  have htokens' := tokens_of_tokenize htokens
  have hreads := (Lexer.tiles_of_scan htokens').readsAs.reads
  have hfront : lastStop 0 (pre ++ [sign, word]) = word.stop := by
    rw [RuleReader.lastStop_append_cons]
    rfl
  have hback : lastStop 0 (pre ++ [sign, word] ++ segs.flatten) = lastStop word.stop segs.flatten := by
    rw [List.append_assoc, List.cons_append, List.singleton_append, RuleReader.lastStop_append_cons,
      RuleReader.lastStop_cons]
  have hsplit : pre ++ sign :: word :: (segs.flatten ++ post) =
      (pre ++ [sign, word]) ++ (segs.flatten ++ post) := by simp
  rw [hsplit] at htokens'
  have hpermuted := Lexer.reads_respaced htokens' hperm
  rw [hfront, hback] at hpermuted
  have hkinds : ∀ ks ∈ segs.map (List.map Token.kind), IsSegment ks := by
    intro ks hks
    obtain ⟨seg, hseg, rfl⟩ := List.mem_map.1 hks
    exact hsegs seg hseg
  have hgroups' : (segs.map (List.map Token.kind)).filter startsGroup =
      (segs'.map (List.map Token.kind)).filter startsGroup := by
    rw [List.filter_map, List.filter_map]
    exact congrArg (List.map (List.map Token.kind)) hgroups
  refine parse_agrees ?_
  rw [parse_of_reads hreads, parse_of_reads hpermuted]
  have hsame := ofKinds_perm (pre.map Token.kind) (post.map Token.kind) name hkinds (hperm.map _) hgroups'
  simpa [hsign, hword, List.map_flatten] using hsame

/-- Inside of params, where the default comes to stand in front of values and the range behind them. -/
theorem parse_respaced_nested :
    ∃ r r', parse "@map<@int8\x7b1\x7d[2,3]\x7b4\x7d = é,@b>" = .ok r ∧
      parse "@map<@int8 = é \x7b1\x7d \x7b4\x7d [2,3] ,@b>" = .ok r' ∧ r.agrees r' = true := by
  let pre : List Token := [⟨.atSign, 0, 1⟩, ⟨.literal "map", 1, 4⟩, ⟨.leftAngle, 4, 5⟩]
  let one : List Token := [⟨.leftBrace, 10, 11⟩, ⟨.literal "1", 11, 12⟩, ⟨.rightBrace, 12, 13⟩]
  let range : List Token := [⟨.leftBracket, 13, 14⟩, ⟨.literal "2", 14, 15⟩, ⟨.comma, 15, 16⟩, ⟨.literal "3", 16, 17⟩,
    ⟨.rightBracket, 17, 18⟩]
  let four : List Token := [⟨.leftBrace, 18, 19⟩, ⟨.literal "4", 19, 20⟩, ⟨.rightBrace, 20, 21⟩]
  let marker : List Token := [⟨.equals, 22, 23⟩, ⟨.literal "é", 24, 26⟩]
  let post : List Token := [⟨.comma, 26, 27⟩, ⟨.atSign, 27, 28⟩, ⟨.literal "b", 28, 29⟩, ⟨.rightAngle, 29, 30⟩]
  have hgroup (text : String) : IsSegment [.leftBrace, .literal text, .rightBrace] :=
    @IsSegment.bracketed .values .leftBrace .rightBrace [.literal text] nofun rfl (by simp [TokenKind.closes?]) rfl
  have hrange : IsSegment [.leftBracket, .literal "2", .comma, .literal "3", .rightBracket] :=
    @IsSegment.bracketed .range .leftBracket .rightBracket [.literal "2", .comma, .literal "3"] nofun rfl
      (by decide) rfl
  have hsegs : ∀ seg ∈ [one, range, four, marker], IsSegment (seg.map Token.kind) := by
    refine List.forall_mem_cons.2 ⟨hgroup "1",
      List.forall_mem_cons.2 ⟨hrange, List.forall_mem_cons.2 ⟨hgroup "4", ?_⟩⟩⟩
    exact List.forall_mem_singleton.2 (.marker (.literal "é"))
  have hperm : [one, range, four, marker].Perm [marker, one, four, range] := by decide
  obtain ⟨r, hr⟩ : ∃ r, parse "@map<@int8\x7b1\x7d[2,3]\x7b4\x7d = é,@b>" = .ok r := ⟨_, rfl⟩
  have hsame := @parse_respaced "@map<@int8\x7b1\x7d[2,3]\x7b4\x7d = é,@b>" "int8" pre post ⟨.atSign, 5, 6⟩
    ⟨.literal "int8", 6, 10⟩ [one, range, four, marker] [marker, one, four, range] rfl rfl rfl hsegs hperm rfl
  obtain ⟨r', hr'⟩ := hsame.1.1 ⟨r, hr⟩
  exact ⟨r, r', hr, hr', hsame.2 r r' hr hr'⟩

end Rule

end FieldRules

import FieldRules.Format.Network
import Mathlib.Data.List.Basic

/-!
# Host names

The test for host names against their grammar. A label is a letter or digit, or two of them with up to 61 letters,
digits and hyphens in between; a host name is up to 253 bytes of labels joined by points, and the test takes it with a
point behind it and without (`Format.isHostname_iff_grammar`).
-/

namespace FieldRules

/-! ### Splitting and counting -/

namespace Text

private theorem split_eq_splitOn (sep : Char) (cs : List Char) : split sep cs = cs.splitOn sep := by
  induction cs with
  | nil => rfl
  | cons c cs ih =>
    rw [List.splitOn_cons_eq_if_modifyHead, ← ih, split]
    by_cases hc : c = sep
    · simp [hc]
    · simp only [hc, if_false, beq_iff_eq]
      cases hpieces : split sep cs with
      | nil => exact absurd hpieces (split_ne_nil sep cs)
      | cons piece pieces => rfl

private theorem byteLength_toList (s : String) : byteLength s.toList = s.utf8ByteSize := by
  have hlist : ∀ cs : List Char, byteLength cs = (String.ofList cs).utf8ByteSize := by
    intro cs
    induction cs with
    | nil => rfl
    | cons c cs ih =>
      have happend : String.ofList (c :: cs) = String.singleton c ++ String.ofList cs := by
        rw [← String.toList_inj]
        simp
      rw [happend, String.utf8ByteSize_append, String.utf8ByteSize_singleton, ← ih, byteLength_cons]
  rw [hlist, String.ofList_toList]

end Text

namespace Format

/-! ### Labels -/

/-- A label of the grammar: a letter or digit, or two of them with up to 61 letters, digits and hyphens in between. -/
inductive IsHostLabel : List Char → Prop
  | single {c : Char} (solid : c.isAlphanum = true) : IsHostLabel [c]
  | long {first last : Char} {middle : List Char} (first_solid : first.isAlphanum = true)
      (last_solid : last.isAlphanum = true) (middle_chars : ∀ c ∈ middle, c.isAlphanum = true ∨ c = '-')
      (few : middle.length ≤ 61) : IsHostLabel (first :: (middle ++ [last]))

private theorem isLabelChar_iff {c : Char} : isLabelChar c = true ↔ c.isAlphanum = true ∨ c = '-' := by
  simp [isLabelChar]

private theorem isAlphanum_of_isLabelChar {c : Char} (h : isLabelChar c = true) (hne : c ≠ '-') :
    c.isAlphanum = true := by
  rcases isLabelChar_iff.1 h with hc | hc
  · exact hc
  · exact absurd hc hne

private theorem ne_of_isAlphanum {c d : Char} (h : c.isAlphanum = true) (hd : d.isAlphanum = false) : c ≠ d := by
  rintro rfl
  rw [h] at hd
  cases hd

/-- Letters, digits and hyphens take one byte each. -/
private theorem utf8Size_of_isLabelChar {c : Char} (h : isLabelChar c = true) : c.utf8Size = 1 := by
  have hranges : c.isAlphanum = (decide ('A'.val ≤ c.val ∧ c.val ≤ 'Z'.val) || 'a'.val ≤ c.val && c.val ≤ 'z'.val ||
      '0'.val ≤ c.val && c.val ≤ '9'.val) := rfl
  rw [Char.utf8Size_eq_one_iff]
  rcases isLabelChar_iff.1 h with hc | rfl
  · rw [hranges] at hc
    simp only [Bool.or_eq_true, Bool.and_eq_true, decide_eq_true_eq, UInt32.le_iff_toNat_le] at hc ⊢
    simp at hc ⊢
    omega
  · decide

private theorem byteLength_of_isLabelChar {cs : List Char} (h : ∀ c ∈ cs, isLabelChar c = true) :
    Text.byteLength cs = cs.length := by
  induction cs with
  | nil => rfl
  | cons c cs ih =>
    obtain ⟨hc, hcs⟩ := List.forall_mem_cons.1 h
    rw [Text.byteLength_cons, utf8Size_of_isLabelChar hc, ih hcs, List.length_cons]
    omega

private theorem IsHostLabel.chars {label : List Char} (h : IsHostLabel label) :
    ∀ c ∈ label, isLabelChar c = true := by
  cases h with
  | single solid => simpa using isLabelChar_iff.2 (.inl solid)
  | long first_solid last_solid middle_chars few =>
    intro c hc
    rw [isLabelChar_iff]
    simp only [List.mem_cons, List.mem_append, List.not_mem_nil, or_false] at hc
    rcases hc with rfl | hc | rfl
    · exact .inl first_solid
    · exact middle_chars c hc
    · exact .inl last_solid

private theorem isLabel_iff {label : List Char} : isLabel label = true ↔ IsHostLabel label := by
  constructor
  · intro h
    simp only [isLabel, Bool.and_eq_true, bne_iff_ne, decide_eq_true_eq, List.all_eq_true] at h
    obtain ⟨⟨⟨⟨hne, hlength⟩, hhead⟩, hlast⟩, hchars⟩ := h
    rw [byteLength_of_isLabelChar hchars] at hlength
    cases label with
    | nil => exact absurd rfl hne
    | cons first rest =>
      have hfirst : first.isAlphanum = true :=
        isAlphanum_of_isLabelChar (hchars first (by simp)) (by simpa using hhead)
      rcases List.eq_nil_or_concat' rest with rfl | ⟨middle, last, rfl⟩
      · exact .single hfirst
      · have hlast : last.isAlphanum = true := by
          refine isAlphanum_of_isLabelChar (hchars last (by simp)) ?_
          simpa [List.getLast?_cons] using hlast
        have hmiddle : ∀ c ∈ middle, c.isAlphanum = true ∨ c = '-' := by
          intro c hc
          exact isLabelChar_iff.1 (hchars c (by simp [hc]))
        have hfew : middle.length ≤ 61 := by
          simp at hlength
          omega
        exact .long hfirst hlast hmiddle hfew
  · intro h
    have hchars := h.chars
    simp only [isLabel, Bool.and_eq_true, bne_iff_ne, decide_eq_true_eq, List.all_eq_true]
    rw [byteLength_of_isLabelChar hchars]
    cases h with
    | single solid =>
      have hne := ne_of_isAlphanum solid (d := '-') rfl
      exact ⟨⟨⟨⟨by simp, by simp⟩, by simpa using hne⟩, by simpa using hne⟩, hchars⟩
    | @long first last middle first_solid last_solid middle_chars few =>
      have hfirst := ne_of_isAlphanum first_solid (d := '-') rfl
      have hlast := ne_of_isAlphanum last_solid (d := '-') rfl
      have hlength : (first :: (middle ++ [last])).length ≤ 63 := by
        simp
        omega
      exact ⟨⟨⟨⟨by simp, hlength⟩, by simpa using hfirst⟩, by simpa [List.getLast?_cons] using hlast⟩, hchars⟩

/-! ### Labels joined by points -/

/-- One or more labels with a point between neighbours. -/
def IsDotted (cs : List Char) : Prop :=
  ∃ labels, labels ≠ [] ∧ (∀ label ∈ labels, IsHostLabel label) ∧ cs = ['.'].intercalate labels

private theorem IsHostLabel.point_notMem {label : List Char} (h : IsHostLabel label) : '.' ∉ label := by
  intro hpoint
  have hchar := h.chars '.' hpoint
  exact absurd hchar (by decide)

/-- The pieces between the points are labels exactly when the text is put together from labels. -/
private theorem all_split_iff {cs : List Char} : (Text.split '.' cs).all isLabel = true ↔ IsDotted cs := by
  rw [Text.split_eq_splitOn, List.all_eq_true]
  constructor
  · intro h
    exact ⟨cs.splitOn '.', List.splitOn_ne_nil '.' cs, fun label hlabel => isLabel_iff.1 (h label hlabel),
      (List.intercalate_splitOn '.').symm⟩
  · rintro ⟨labels, hne, hlabels, rfl⟩
    rw [List.splitOn_intercalate '.' (fun label hlabel => (hlabels label hlabel).point_notMem) hne]
    exact fun label hlabel => isLabel_iff.2 (hlabels label hlabel)

/-- What labels are joined to does not end in a point: behind it there would be one more piece, an empty one. -/
private theorem IsDotted.getLast?_ne_point {cs : List Char} (h : IsDotted cs) : cs.getLast? ≠ some '.' := by
  intro hlast
  obtain ⟨front, rfl⟩ := List.getLast?_eq_some_iff.1 hlast
  have hpieces := all_split_iff.2 h
  rw [Text.split_eq_splitOn, List.splitOn_append_cons_self, List.all_eq_true] at hpieces
  have hempty : isLabel [] = true := hpieces [] (by simp)
  cases hempty

/-! ### Host names -/

private theorem dropFinalPoint_append (cs : List Char) : dropFinalPoint (cs ++ ['.']) = cs := by
  simp [dropFinalPoint]

private theorem dropFinalPoint_of_ne {cs : List Char} (h : cs.getLast? ≠ some '.') : dropFinalPoint cs = cs := by
  rw [dropFinalPoint, if_neg h]

/-- A text is what is left of it without one point at its end, or that and the point. -/
private theorem dropFinalPoint_cases (cs : List Char) : cs = dropFinalPoint cs ∨ cs = dropFinalPoint cs ++ ['.'] := by
  by_cases h : cs.getLast? = some '.'
  · right
    obtain ⟨front, rfl⟩ := List.getLast?_eq_some_iff.1 h
    rw [dropFinalPoint_append]
  · left
    rw [dropFinalPoint_of_ne h]

private theorem isHostname_iff {s : String} :
    isHostname s = true ↔ dropFinalPoint s.toList ≠ [] ∧ Text.byteLength (dropFinalPoint s.toList) ≤ 253 ∧
      IsDotted (dropFinalPoint s.toList) := by
  simp only [isHostname, Bool.and_eq_true, bne_iff_ne, decide_eq_true_eq, all_split_iff, and_assoc]

/-- A text passes the test for host names exactly when it is one, possibly with a point behind it: 1 to 253 bytes of
labels joined by points. -/
theorem isHostname_iff_grammar (s : String) :
    isHostname s = true ↔ ∃ host : String, (s = host ∨ s = host ++ ".") ∧ 1 ≤ host.utf8ByteSize ∧
      host.utf8ByteSize ≤ 253 ∧ IsDotted host.toList := by
  rw [isHostname_iff]
  constructor
  · rintro ⟨hne, hlength, hdotted⟩
    refine ⟨String.ofList (dropFinalPoint s.toList), ?_, ?_, ?_, ?_⟩
    · simp only [← String.toList_inj, String.toList_append, String.toList_ofList]
      exact dropFinalPoint_cases s.toList
    · rw [Nat.one_le_iff_ne_zero, ne_eq, String.utf8ByteSize_eq_zero_iff, String.ofList_eq_empty_iff]
      exact hne
    · rwa [← Text.byteLength_toList, String.toList_ofList]
    · rwa [String.toList_ofList]
  · rintro ⟨host, hs, hpos, hlength, hdotted⟩
    have hhost : dropFinalPoint s.toList = host.toList := by
      rcases hs with rfl | rfl
      · exact dropFinalPoint_of_ne hdotted.getLast?_ne_point
      · rw [String.toList_append]
        exact dropFinalPoint_append host.toList
    rw [hhost, Text.byteLength_toList]
    refine ⟨?_, hlength, hdotted⟩
    intro hempty
    rw [String.toList_eq_nil_iff] at hempty
    rw [hempty] at hpos
    exact absurd hpos (by decide)

end Format

end FieldRules

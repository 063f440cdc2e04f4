import FieldRules.Text.Quoted
import Mathlib.Data.List.Basic

/-!
# Reading quoted texts off the front

Inside quotes every character is written in a way of its own, and no way is the beginning of another or of the closing
quote. Hence a quoted text at the front of a longer one determines both what is quoted and what follows
(`Text.quote_append_inj`).
-/

namespace FieldRules.Text

/-! ### Fronts that are told apart -/

section

variable {α : Type} {p : α → Prop} {d : α}

/-- A text cannot be moved on by one or more characters of a kind, if behind it there is one that is not of the
kind. -/
private theorem ne_shifted {z : α} {zs : List α} (hzs : ∀ c ∈ z :: zs, p c) (hd : ¬p d) (name as bs : List α) :
    name ++ d :: as ≠ z :: zs ++ (name ++ d :: bs) := by
  intro h
  rcases List.append_eq_append_iff.1 h with ⟨rest, hname, hrest⟩ | ⟨rest, hname, hrest⟩
  · cases rest with
    | nil =>
      rw [List.append_nil] at hname
      rw [← hname] at hrest
      exact hd ((List.cons.inj hrest).1 ▸ hzs z (by simp))
    | cons e rest =>
      obtain ⟨rfl, -⟩ := List.cons.inj hrest
      exact hd (hzs d (by rw [hname]; simp))
  · -- The front is the moving part and a shorter text, which is moved on by it again.
    rw [hname, List.append_assoc] at hrest
    exact ne_shifted hzs hd rest as bs hrest.symm
termination_by name.length
decreasing_by
  have hlength := congrArg List.length hname
  simp at hlength
  omega

/-- Fronts of characters of a kind agree if the same text comes behind them up to a character that is not of the
kind. -/
theorem front_inj {xs ys name as bs : List α} (hxs : ∀ c ∈ xs, p c) (hys : ∀ c ∈ ys, p c) (hd : ¬p d)
    (h : xs ++ (name ++ d :: as) = ys ++ (name ++ d :: bs)) : xs = ys ∧ as = bs := by
  have hnil : ∀ {zs as bs : List α}, (∀ c ∈ zs, p c) → name ++ d :: as = zs ++ (name ++ d :: bs) → zs = [] := by
    intro zs as bs hzs hshifted
    cases zs with
    | nil => rfl
    | cons z zs => exact absurd hshifted (ne_shifted hzs hd name as bs)
  rcases List.append_eq_append_iff.1 h with ⟨zs, rfl, hrest⟩ | ⟨zs, rfl, hrest⟩
  · obtain rfl := hnil (List.forall_mem_append.1 hys).2 hrest
    simpa using hrest
  · obtain rfl := hnil (List.forall_mem_append.1 hxs).2 hrest
    simpa using hrest.symm

end

/-! ### Hexadecimal digits -/

private theorem hexDigits_eq (n : Nat) :
    hexDigits n = if n < 16 then [Nat.digitChar n] else hexDigits (n / 16) ++ [Nat.digitChar (n % 16)] :=
  Nat.toDigits_eq_if (by decide)

/-- The value of a row of hexadecimal digits. -/
def hexValue (cs : List Char) : Nat :=
  cs.foldl (fun n c => 16 * n + ((List.range 16).map Nat.digitChar).idxOf c) 0

private theorem hexValue_hexDigits (n : Nat) : hexValue (hexDigits n) = n := by
  have hdigit : ∀ d < 16, ((List.range 16).map Nat.digitChar).idxOf (Nat.digitChar d) = d := by decide
  induction n using Nat.strongRecOn with
  | _ n ih =>
    rw [hexDigits_eq]
    by_cases hlt : n < 16
    · rw [if_pos hlt, hexValue, List.foldl_cons, List.foldl_nil, hdigit n hlt]
      omega
    · have hfront := ih (n / 16) (by omega)
      rw [hexValue] at hfront
      rw [if_neg hlt, hexValue, List.foldl_append, hfront, List.foldl_cons, List.foldl_nil, hdigit _ (by omega)]
      omega

theorem hexDigits_inj {m n : Nat} (h : hexDigits m = hexDigits n) : m = n := by
  rw [← hexValue_hexDigits m, h, hexValue_hexDigits]

theorem isAlphanum_of_mem_hexDigits {n : Nat} {c : Char} (h : c ∈ hexDigits n) : c.isAlphanum = true := by
  have hdigit : ∀ d < 16, (Nat.digitChar d).isAlphanum = true := by decide
  induction n using Nat.strongRecOn with
  | _ n ih =>
    rw [hexDigits_eq] at h
    split at h
    next hlt =>
      rw [List.mem_singleton.1 h]
      exact hdigit n hlt
    next hge =>
      rcases List.mem_append.1 h with h | h
      · exact ih (n / 16) (by omega) h
      · rw [List.mem_singleton.1 h]
        exact hdigit _ (by omega)

/-! ### Characters inside quotes -/

/-- The characters with a short escape, each with the letter behind the backslash. -/
def shortEscapes : List (Char × Char) :=
  [('\x00', '0'), ('\t', 't'), ('\r', 'r'), ('\n', 'n'), ('"', '"'), ('\\', '\\')]

/-- The ways to write a character inside quotes. -/
inductive WrittenAs (c : Char) : List Char → Prop
  | plain (quote : c ≠ '"') (backslash : c ≠ '\\') : WrittenAs c [c]
  | short {e : Char} (escape : (c, e) ∈ shortEscapes) : WrittenAs c ['\\', e]
  | codePoint : WrittenAs c (codePointEscape c)

private theorem writtenAs_quoteChar (c : Char) : WrittenAs c (quoteChar c) := by
  unfold quoteChar
  split
  case h_7 hnul htab hreturn hline hquote hbackslash =>
    split
    · exact .codePoint
    · exact .plain hquote hbackslash
  all_goals exact .short (by decide)

/-- Letters behind a backslash stand for one character each, and none of them is that of code points. -/
private theorem shortEscapes_inj {c d e : Char} (hc : (c, e) ∈ shortEscapes) (hd : (d, e) ∈ shortEscapes) :
    c = d := by
  have hall : ∀ p ∈ shortEscapes, ∀ q ∈ shortEscapes, p.2 = q.2 → p.1 = q.1 := by decide
  exact hall _ hc _ hd rfl

private theorem ne_of_mem_shortEscapes {c e : Char} (h : (c, e) ∈ shortEscapes) : e ≠ 'u' := by
  have hall : ∀ p ∈ shortEscapes, p.2 ≠ 'u' := by decide
  exact hall _ h

private theorem codePointEscape_append_inj {c d : Char} {as bs : List Char}
    (h : codePointEscape c ++ as = codePointEscape d ++ bs) : c = d ∧ as = bs := by
  have hdigits : hexDigits c.toNat ++ ([] ++ '\x7d' :: as) = hexDigits d.toNat ++ ([] ++ '\x7d' :: bs) := by
    simpa [codePointEscape] using h
  obtain ⟨hcode, htail⟩ := front_inj (p := fun c => c.isAlphanum = true) (fun _ => isAlphanum_of_mem_hexDigits)
    (fun _ => isAlphanum_of_mem_hexDigits) (by decide) hdigits
  exact ⟨Char.toNat_inj.1 (hexDigits_inj hcode), htail⟩

/-- How a character is written tells it from every other one, whatever comes behind. -/
private theorem WrittenAs.append_inj {c d : Char} {xs ys as bs : List Char} (hc : WrittenAs c xs)
    (hd : WrittenAs d ys) (h : xs ++ as = ys ++ bs) : c = d ∧ as = bs := by
  cases hc with
  | plain hquote hbackslash =>
    cases hd with
    | plain => simpa using h
    | short => exact absurd (List.cons.inj h).1 hbackslash
    | codePoint => exact absurd (List.cons.inj h).1 hbackslash
  | short escape =>
    cases hd with
    | plain hquote hbackslash => exact absurd (List.cons.inj h).1.symm hbackslash
    | short escape' =>
      simp only [List.cons_append, List.nil_append, List.cons.injEq, true_and] at h
      obtain ⟨rfl, htail⟩ := h
      exact ⟨shortEscapes_inj escape escape', htail⟩
    | codePoint =>
      simp only [codePointEscape, List.cons_append, List.cons.injEq, true_and] at h
      exact absurd h.1 (ne_of_mem_shortEscapes escape)
  | codePoint =>
    cases hd with
    | plain hquote hbackslash => exact absurd (List.cons.inj h).1.symm hbackslash
    | short escape =>
      simp only [codePointEscape, List.cons_append, List.cons.injEq, true_and] at h
      exact absurd h.1.symm (ne_of_mem_shortEscapes escape)
    | codePoint => exact codePointEscape_append_inj h

/-- No character is written with a quote in front. -/
private theorem WrittenAs.ne_quote {c : Char} {xs as bs : List Char} (h : WrittenAs c xs) : xs ++ as ≠ '"' :: bs := by
  intro heq
  cases h with
  | plain quote => exact quote (List.cons.inj heq).1
  | short => exact absurd (List.cons.inj heq).1 (by decide)
  | codePoint => exact absurd (List.cons.inj heq).1 (by decide)

/-! ### Quoted texts -/

private theorem flatMap_quoteChar_append_inj {cs ds as bs : List Char}
    (h : cs.flatMap quoteChar ++ '"' :: as = ds.flatMap quoteChar ++ '"' :: bs) : cs = ds ∧ as = bs := by
  induction cs generalizing ds with
  | nil =>
    cases ds with
    | nil => simpa using h
    | cons d ds =>
      rw [List.flatMap_cons, List.append_assoc] at h
      exact absurd h.symm (writtenAs_quoteChar d).ne_quote
  | cons c cs ih =>
    cases ds with
    | nil =>
      rw [List.flatMap_cons, List.append_assoc] at h
      exact absurd h (writtenAs_quoteChar c).ne_quote
    | cons d ds =>
      rw [List.flatMap_cons, List.flatMap_cons, List.append_assoc, List.append_assoc] at h
      obtain ⟨rfl, hrest⟩ := (writtenAs_quoteChar c).append_inj (writtenAs_quoteChar d) h
      obtain ⟨rfl, htail⟩ := ih hrest
      exact ⟨rfl, htail⟩

/-- A quoted text in front tells what is quoted and what follows. -/
theorem quote_append_inj {s t : String} {as bs : List Char} (h : (quote s).toList ++ as = (quote t).toList ++ bs) :
    s = t ∧ as = bs := by
  have hquoted : s.toList.flatMap quoteChar ++ '"' :: as = t.toList.flatMap quoteChar ++ '"' :: bs := by
    simpa [quote] using h
  obtain ⟨hchars, htail⟩ := flatMap_quoteChar_append_inj hquoted
  exact ⟨String.toList_inj.1 hchars, htail⟩

end FieldRules.Text

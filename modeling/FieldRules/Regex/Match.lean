import FieldRules.Regex.Basic

/-!
# Matching

A set of places in a text is a natural number: bit `i` stands for the place in front of character
`i`, and the bit after the last character for the end. `locate` replaces the sets and assertions of an
expression by the places of one text where they hold (`testBit_bits`), and `Located.image` gives the places
at which a match can end when it starts in a set of places; an expression matches a text when, of all
places, its image is not empty. Repetition is a search that widens the set of places met so far, so it ends
after at most one round per place.
-/

namespace FieldRules.Regex

/-- The number whose bits tell for which items a test holds. -/
def bits {α : Type} (p : α → Bool) (xs : List α) : Nat :=
  xs.foldr (fun x n => 2 * n + (p x).toNat) 0

theorem testBit_bits {α : Type} (p : α → Bool) (xs : List α) (i : Nat) :
    (bits p xs).testBit i = (xs[i]?).any p := by
  induction xs generalizing i with
  | nil => simp [bits]
  | cons x xs ih =>
    have hb : bits p (x :: xs) = 2 * bits p xs + (p x).toNat := rfl
    cases i with
    | zero => cases h : p x <;> simp [hb, h, Nat.testBit_zero]
    | succ i =>
      have hd : bits p (x :: xs) / 2 = bits p xs := by
        rw [hb]
        cases p x with
        | false => simp
        | true => simp; omega
      rw [Nat.testBit_succ, hd, ih]
      simp

/-- The characters in front of and behind each place. -/
def neighbours (text : List Char) : List (Option Char × Option Char) :=
  (none :: text.map some).zip (text.map some ++ [none])

/-- An expression as seen from one text. -/
inductive Located
  | empty
  /-- One character, at these places. -/
  | step (starts : Nat)
  /-- An assertion that holds at these places. -/
  | keep (holding : Nat)
  | seq (a b : Located)
  | alt (a b : Located)
  /-- So many times, and then at most so many more times. -/
  | repeated (times more : Nat) (r : Located)

/-- The expression as seen from a text. -/
def locate (text : List Char) : Regex → Located
  | .empty => .empty
  | .oneOf s => .step (bits s.contains text)
  | .anchor a => .keep (bits (fun n => a.holds n.1 n.2) (neighbours text))
  | .seq a b => .seq (locate text a) (locate text b)
  | .alt a b => .alt (locate text a) (locate text b)
  | .group _ r => locate text r
  | .repeated _ min max r =>
    .repeated min (match max with
      | some max => max - min
      | none => text.length + 1) (locate text r)

/-- Applies a function as often as told, unless a round changes nothing. -/
def iterate (f : Nat → Nat) : Nat → Nat → Nat
  | 0, places => places
  | k + 1, places =>
    let next := f places
    if next = places then places else iterate f k next

/-- The places met in at most so many rounds; `fresh` holds those that the last round added. -/
def widen (f : Nat → Nat) : Nat → Nat → Nat → Nat
  | 0, met, _ => met
  | k + 1, met, fresh =>
    let next := f fresh
    let new := next ^^^ (next &&& met)
    if new = 0 then met else widen f k (met ||| new) new

/-- The places at which a match can end when it starts in the set. -/
def Located.image : Located → Nat → Nat
  | .empty, places => places
  | .step starts, places => (places &&& starts) <<< 1
  | .keep holding, places => places &&& holding
  | .seq a b, places => b.image (a.image places)
  | .alt a b, places => a.image places ||| b.image places
  | .repeated times more r, places =>
    let start := iterate r.image times places
    widen r.image more start start

/-- Whether some part of the text matches. -/
def isMatch (r : Regex) (text : List Char) : Bool :=
  (locate text r).image (bits (fun _ => true) (neighbours text)) != 0

end FieldRules.Regex

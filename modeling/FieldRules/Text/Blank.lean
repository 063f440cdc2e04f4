/-!
# Blank characters

Two notions of white space: `isBlank` is the property of the Unicode standard, `isAsciiBlank` the
five ASCII separators without the vertical tab. `trim` strips blanks from both ends of a text; what
it leaves neither starts nor ends with a blank.
-/

namespace FieldRules.Text

/-- White space, as the Unicode standard lists it. -/
def isBlank (c : Char) : Bool :=
  let n := c.toNat
  (0x09 ≤ n && n ≤ 0x0D) || n == 0x20 || n == 0x85 || n == 0xA0 || n == 0x1680 ||
    (0x2000 ≤ n && n ≤ 0x200A) || n == 0x2028 || n == 0x2029 || n == 0x202F || n == 0x205F || n == 0x3000

/-- Space, tab, line feed, form feed and carriage return. -/
def isAsciiBlank (c : Char) : Bool :=
  c == ' ' || c == '\t' || c == '\n' || c.toNat == 0x0C || c == '\r'

/-- The characters after the leading blanks. -/
def trimStart (cs : List Char) : List Char :=
  cs.dropWhile isBlank

/-- The characters before the trailing blanks. -/
def trimEnd (cs : List Char) : List Char :=
  (cs.reverse.dropWhile isBlank).reverse

/-- A text without its leading and trailing blanks. -/
def trim (cs : List Char) : List Char :=
  trimEnd (trimStart cs)

/-- A text of blanks only, the empty one included. -/
def allBlank (cs : List Char) : Bool :=
  cs.all isBlank

/-- Leading blanks are dropped up to a character that is none. -/
theorem dropWhile_isBlank_append {front cs : List Char} (hfront : allBlank front = true)
    (hcs : ∀ c ∈ cs.head?, isBlank c = false) : (front ++ cs).dropWhile isBlank = cs := by
  rw [List.dropWhile_append_of_pos (by simpa [allBlank] using hfront)]
  cases cs with
  | nil => rfl
  | cons c cs => exact List.dropWhile_cons_of_neg (by simpa using hcs)

/-- Trimming takes the blanks around a text that neither begins nor ends with one. -/
theorem trim_append_append {front middle back : List Char} (hfront : allBlank front = true)
    (hback : allBlank back = true) (hmiddle : middle ≠ []) (hhead : ∀ c ∈ middle.head?, isBlank c = false)
    (hlast : ∀ c ∈ middle.getLast?, isBlank c = false) : trim (front ++ (middle ++ back)) = middle := by
  have hhead' : ∀ c ∈ (middle ++ back).head?, isBlank c = false := by
    obtain ⟨m, middle, rfl⟩ := List.exists_cons_of_ne_nil hmiddle
    exact hhead
  have hback' : allBlank back.reverse = true := by simpa [allBlank] using hback
  have hlast' : ∀ c ∈ middle.reverse.head?, isBlank c = false := by rwa [List.head?_reverse]
  rw [trim, trimStart, dropWhile_isBlank_append hfront hhead', trimEnd, List.reverse_append,
    dropWhile_isBlank_append hback' hlast', List.reverse_reverse]

end FieldRules.Text

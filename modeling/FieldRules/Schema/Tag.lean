import FieldRules.Text.Blank
import FieldRules.Text.Bytes
import FieldRules.Text.Quoted
import FieldRules.Value.Fields

/-!
# Tags

A tag annotates a field with texts under keys, as in `validate:"@int" name:"age"`. `Tag.parse` reads one
character at a time: blanks may stand between pairs, and inside quotes a backslash escapes a quote or
another backslash and stands for itself before anything else.
-/

namespace FieldRules

/-- Texts under keys, each key once, in the order in which the keys first came. -/
structure Tag where
  entries : Fields String := []
  deriving DecidableEq, Repr

/-- A tag text that cannot be read, and the byte offset of the pair or backslash at fault. -/
structure TagError where
  tag : String
  offset : Nat
  deriving DecidableEq, Repr

/-- The wording. -/
def TagError.message (e : TagError) : String :=
  "malformed struct tag `" ++ e.tag ++ "` at offset " ++ String.ofList (Nat.toDigits 10 e.offset)

namespace Tag

/-- No annotations. -/
def empty : Tag := {}

/-- Sets the text under a key. -/
def withEntry (t : Tag) (key text : String) : Tag :=
  ⟨t.entries.set key text⟩

/-- The text under a key. -/
def get? (t : Tag) (key : String) : Option String :=
  t.entries.get? key

/-- Whether there are no annotations. -/
def isEmpty (t : Tag) : Bool :=
  t.entries.isEmpty

/-- Where the reader is; `start` is the offset of the key, and texts come last character first. -/
inductive Mode
  | between
  | key (start : Nat) (text : List Char)
  | quote (start : Nat) (key : String)
  | value (start : Nat) (key : String) (text : List Char)
  | escape (start : Nat) (key : String) (text : List Char) (backslash : Nat)
  deriving DecidableEq, Repr

/-- Reads a character; a fault is reported by its offset. -/
def Mode.step (t : Tag) (offset : Nat) (c : Char) : Mode → Except Nat (Tag × Mode)
  | .between =>
    if Text.isAsciiBlank c then .ok (t, .between)
    else if c = ':' ∨ c = '"' then .error offset
    else .ok (t, .key offset [c])
  | .key start text =>
    if c = ':' then .ok (t, .quote start (String.ofList text.reverse))
    else if c = '"' ∨ Text.isAsciiBlank c = true then .error start
    else .ok (t, .key start (c :: text))
  | .quote start name => if c = '"' then .ok (t, .value start name []) else .error start
  | .value start name text =>
    if c = '\\' then .ok (t, .escape start name text offset)
    else if c = '"' then .ok (t.withEntry name (String.ofList text.reverse), .between)
    else .ok (t, .value start name (c :: text))
  | .escape start name text _ =>
    if c = '"' ∨ c = '\\' then .ok (t, .value start name (c :: text))
    else .ok (t, .value start name (c :: '\\' :: text))

/-- The tag at the end of the text; an open pair is a fault. -/
def Mode.finish (t : Tag) : Mode → Except Nat Tag
  | .between => .ok t
  | .key start _ | .quote start _ | .value start _ _ => .error start
  | .escape _ _ _ backslash => .error backslash

/-- Reads the characters ahead. -/
def scan : Tag → Mode → Nat → List Char → Except Nat Tag
  | t, mode, _, [] => mode.finish t
  | t, mode, offset, c :: cs => match mode.step t offset c with
    | .ok (t, mode) => scan t mode (offset + c.utf8Size) cs
    | .error fault => .error fault

/-- Reads a tag. -/
def parse (text : String) : Except TagError Tag :=
  match scan {} .between 0 text.toList with
  | .ok t => .ok t
  | .error offset => .error ⟨text, offset⟩

/-- A pair of quoted texts. -/
def entryText (e : String × String) : String :=
  "(" ++ Text.quote e.1 ++ ", " ++ Text.quote e.2 ++ ")"

/-- The full content of a tag, every text quoted. -/
def describe (t : Tag) : String :=
  "StructTag \x7b entries: [" ++ ", ".intercalate (t.entries.map entryText) ++ "] \x7d"

end Tag

end FieldRules

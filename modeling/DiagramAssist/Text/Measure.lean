/-! # Measures of text

Offsets count UTF-8 bytes and columns count UTF-16 code units. Both are sums over the characters of
a text, so they turn concatenation into addition; cutting a text at a byte offset is partial,
because an offset may fall inside a character.
-/

namespace DiagramAssist.Text

/-- The number of UTF-8 bytes of a text. -/
def byteLength : List Char → Nat
  | [] => 0
  | c :: rest => c.utf8Size + byteLength rest

/-- The number of UTF-16 code units of a character. -/
def unitSize (c : Char) : Nat :=
  if c.toNat < 0x10000 then 1 else 2

def unitLength : List Char → Nat
  | [] => 0
  | c :: rest => unitSize c + unitLength rest

@[simp] theorem byteLength_nil : byteLength [] = 0 := rfl

@[simp] theorem byteLength_cons (c : Char) (rest : List Char) :
    byteLength (c :: rest) = c.utf8Size + byteLength rest := rfl

@[simp] theorem byteLength_append (left right : List Char) :
    byteLength (left ++ right) = byteLength left + byteLength right := by
  induction left with
  | nil => simp
  | cons c rest ih => simp [ih, Nat.add_assoc]

@[simp] theorem unitLength_nil : unitLength [] = 0 := rfl

@[simp] theorem unitLength_cons (c : Char) (rest : List Char) :
    unitLength (c :: rest) = unitSize c + unitLength rest := rfl

@[simp] theorem unitLength_append (left right : List Char) :
    unitLength (left ++ right) = unitLength left + unitLength right := by
  induction left with
  | nil => simp
  | cons c rest ih => simp [ih, Nat.add_assoc]

/-- Cuts a text after a number of bytes, or nothing when that falls past the end or inside a
character. -/
def splitBytes? : List Char → Nat → Option (List Char × List Char)
  | text, 0 => some ([], text)
  | [], _ + 1 => none
  | c :: rest, count + 1 =>
    if c.utf8Size ≤ count + 1 then
      (splitBytes? rest (count + 1 - c.utf8Size)).map fun (taken, left) => (c :: taken, left)
    else none

/-- The text between two byte offsets, when both stand between characters. -/
def slice? (text : List Char) (start stop : Nat) : Option (List Char) := do
  let (_, tail) ← splitBytes? text start
  let (taken, _) ← splitBytes? tail (stop - start)
  return taken

def dropFinalReturn (text : List Char) : List Char :=
  if text.getLast? = some '\r' then text.dropLast else text

/-- Whether one text occurs inside another. -/
def contains (needle : List Char) : List Char → Bool
  | [] => needle.isEmpty
  | c :: rest => needle.isPrefixOf (c :: rest) || contains needle rest

end DiagramAssist.Text

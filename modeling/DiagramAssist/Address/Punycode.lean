import DiagramAssist.Address.Escape

/-! # Punycode

The ASCII form of a label that holds other characters: its ASCII characters, then, from the lowest
code point on, where each of the others is to be inserted. The distances are written as numbers
whose digits adapt to the sizes seen so far. Decoding refuses numbers that do not fit 32 bits.
-/

namespace DiagramAssist.Address.Punycode

/-- The digit for a value below thirty-six. -/
def digit (value : Nat) : Char :=
  if value < 26 then Char.ofNat (97 + value) else Char.ofNat (22 + value)

/-- Divides by the span of the digits until the rest is small, counting the divisions. -/
def reduce : (bound delta : Nat) → Nat × Nat
  | 0, delta => (0, delta)
  | bound + 1, delta =>
    if 455 < delta then
      let (count, delta) := reduce bound (delta / 35)
      (count + 1, delta)
    else (0, delta)

/-- The bias behind a distance. -/
def adapt (delta count : Nat) (isFirst : Bool) : Nat :=
  let delta := if isFirst then delta / 700 else delta / 2
  let (divisions, delta) := reduce delta (delta + delta / count)
  36 * divisions + 36 * delta / (delta + 38)

/-- The least value of a digit that is not the last, at its position. -/
def threshold (bias position : Nat) : Nat :=
  if position ≤ bias then 1 else min 26 (position - bias)

/-- A distance in digits, the lowest first. -/
def writeDistance (bias : Nat) : (bound position distance : Nat) → Chars
  | 0, _, _ => []
  | bound + 1, position, distance =>
    let least := threshold bias position
    if distance < least then [digit distance]
    else
      digit (least + (distance - least) % (36 - least)) ::
        writeDistance bias bound (position + 36) ((distance - least) / (36 - least))

structure State where
  delta : Nat
  bias : Nat
  /-- How many characters have been written. -/
  written : Nat
  /-- How many of them are ASCII. -/
  plain : Nat
  output : Chars

/-- Passes a character of the label while the code point `code` is being inserted. -/
def State.pass (code : Nat) (state : State) (c : Char) : State :=
  if c.toNat < code then { state with delta := state.delta + 1 }
  else if c.toNat = code then
    { state with
      delta := 0
      bias := adapt state.delta (state.written + 1) (state.written == state.plain)
      written := state.written + 1
      output := state.output ++ writeDistance state.bias (state.delta + 1) 36 state.delta }
  else state

/-- Inserts code points in increasing order; `next` is the least one not yet considered. -/
def insertAll (label : Chars) : (next : Nat) → List Nat → State → State
  | _, [], state => state
  | next, code :: rest, state =>
    let state := { state with delta := state.delta + (code - next) * (state.written + 1) }
    let state := label.foldl (State.pass code) state
    insertAll label (code + 1) rest { state with delta := state.delta + 1 }

def encode (label : Chars) : Chars :=
  let plain := label.filter fun c => c.toNat < 128
  let codes := ((label.map Char.toNat).filter (128 ≤ ·)).eraseDups.mergeSort (· ≤ ·)
  let start := if plain.isEmpty then [] else plain ++ ['-']
  (insertAll label 128 codes ⟨0, 72, plain.length, plain.length, start⟩).output

/-- The value of a digit, in lower or upper case. -/
def digitValue? (c : Char) : Option Nat :=
  if c.isLower then some (c.toNat - 97)
  else if c.isUpper then some (c.toNat - 65)
  else if c.isDigit then some (c.toNat - 22)
  else none

/-- A bound on the numbers that are calculated with: those of 32 bits. -/
def wordLimit : Nat := Nat.pow 2 32

/-- A distance at the start of a text, and what follows it; `weight` is the weight of the next
digit. -/
def readDistance? (bias : Nat) : (position weight : Nat) → Chars → Option (Nat × Chars)
  | _, _, [] => none
  | position, weight, c :: rest => do
    let value ← digitValue? c
    let least := threshold bias position
    if value < least then return (value * weight, rest)
    let weight' := weight * (36 - least)
    if wordLimit ≤ weight' then none
    let (distance, rest) ← readDistance? bias (position + 36) weight' rest
    return (value * weight + distance, rest)

/-- Inserts the characters whose distances a text has, at most `bound` of them. A distance of zero
inserts the code point `code` behind `index` characters of the label. -/
def insertRead? : (bound : Nat) → (index code bias : Nat) → (label : Chars) → Chars → Option Chars
  | _, _, _, _, label, [] => some label
  | 0, _, _, _, _, _ => none
  | bound + 1, index, code, bias, label, text => do
    let (distance, rest) ← readDistance? bias 36 1 text
    let count := label.length + 1
    let total := index + distance
    let inserted := code + total / count
    let place := total % count
    if wordLimit ≤ total || !decide inserted.isValidChar then none
    insertRead? bound (place + 1) inserted (adapt distance count (index == 0))
      (label.take place ++ Char.ofNat inserted :: label.drop place) rest

/-- The label that an encoded form means. What stands before the last hyphen are the ASCII
characters of the label, if there is anything. -/
def decode? (text : Chars) : Option Chars :=
  let digits := text.reverse.takeWhile (· != '-')
  let plain := text.take (text.length - digits.length - 1)
  if plain.any (127 < ·.toNat) then none
  else
    insertRead? text.length 0 128 72 plain (if plain.isEmpty then text else digits.reverse)

def ascii (label : Chars) : Chars :=
  if label.all fun c => c.toNat < 128 then label else "xn--".toList ++ encode label

end DiagramAssist.Address.Punycode

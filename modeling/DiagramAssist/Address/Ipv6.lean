import DiagramAssist.Address.Escape

/-! # IPv6 addresses

Eight groups of sixteen bits. They are written in hexadecimal between colons, the longest run of
zero groups may be left out, and the last two groups may be written as an IPv4 address. The normal
form leaves out the first longest run of at least two zero groups.
-/

namespace DiagramAssist.Address

/-- Splits a text at the first place where two colons stand together. -/
def splitGap : Chars → Chars × Option Chars
  | [] => ([], none)
  | ':' :: ':' :: rest => ([], some rest)
  | c :: rest =>
    let (before, behind) := splitGap rest
    (c :: before, behind)

/-- The parts of a text between single characters of a kind; an empty text has none. -/
def partsOf (separator : Char) (text : Chars) : List Chars :=
  if text.isEmpty then [] else pieces (· == separator) text

/-- One group: one to four hexadecimal digits. -/
def group? (text : Chars) : Option Nat :=
  if text.isEmpty || 4 < text.length then none
  else text.foldlM (fun value c => (hexValue? c).map (value * 16 + ·)) 0

/-- One byte in decimal digits, without a superfluous zero. -/
def byte? (text : Chars) : Option Nat :=
  if text.isEmpty || 3 < text.length || (text.head? == some '0' && 1 < text.length) then none
  else do
    let value ← text.foldlM (fun value c =>
      if c.isDigit then some (value * 10 + (c.toNat - 48)) else none) 0
    if value < 256 then return value else none

def ipv4Groups? (text : Chars) : Option (List Nat) := do
  match ← (partsOf '.' text).mapM byte? with
  | [a, b, c, d] => return [256 * a + b, 256 * c + d]
  | _ => none

/-- The groups between colons; `isLast` says that an IPv4 address may end them. -/
def groups? (isLast : Bool) : List Chars → Option (List Nat)
  | [] => some []
  | [last] =>
    if isLast && last.contains '.' then ipv4Groups? last else (group? last).map ([·])
  | part :: rest => do return (← group? part) :: (← groups? isLast rest)

def ipv6? (text : Chars) : Option (List Nat) :=
  match splitGap text with
  | (before, none) => (groups? true (partsOf ':' before)).filter (·.length == 8)
  | (before, some behind) => do
    let first ← groups? false (partsOf ':' before)
    let last ← groups? true (partsOf ':' behind)
    let count := first.length + last.length
    if count < 8 then return first ++ List.replicate (8 - count) 0 ++ last else none

/-- The length of the run of zeros at the start. -/
def zeroRun (groups : List Nat) : Nat :=
  (groups.takeWhile (· == 0)).length

/-- The place and length of the first longest run of zeros. -/
def longestRun (groups : List Nat) : Nat × Nat :=
  (List.range groups.length).foldl (fun (place, length) next =>
    let run := zeroRun (groups.drop next)
    if length < run then (next, run) else (place, length)) (0, 0)

def writeGroups (groups : List Nat) : Chars :=
  [':'].intercalate (groups.map (Nat.toDigits 16))

def writeIpv6 (groups : List Nat) : Chars :=
  let (place, length) := longestRun groups
  if length < 2 then writeGroups groups
  else writeGroups (groups.take place) ++ [':', ':'] ++ writeGroups (groups.drop (place + length))

def bracketedHost? (text : Chars) : Option Chars :=
  match text with
  | '[' :: rest =>
    if rest.getLast? == some ']' then
      (ipv6? rest.dropLast).map fun groups => '[' :: writeIpv6 groups ++ [']']
    else none
  | _ => none

end DiagramAssist.Address

import DiagramAssist.Toml.Basic

/-! # Scalars of TOML

Words that stand for truth values, numbers, and dates and times. Digits may be grouped by single
underscores; a decimal number has no superfluous leading zero.
-/

namespace DiagramAssist.Toml

/-- Whether a word consists of digits, perhaps in groups. -/
def isGrouped (isDigit : Char → Bool) : List Char → Bool
  | [] => false
  | [c] => isDigit c
  | c :: '_' :: rest => isDigit c && isGrouped isDigit rest
  | c :: rest => isDigit c && isGrouped isDigit rest

/-- The value of a digit in any base up to sixteen. -/
def digitValue (c : Char) : Nat :=
  if c.isDigit then c.toNat - 48 else if c.isLower then c.toNat - 87 else c.toNat - 55

def isHexDigit (c : Char) : Bool :=
  c.isDigit || ('a' ≤ c && c ≤ 'f') || ('A' ≤ c && c ≤ 'F')

def groupedValue (base : Nat) (word : List Char) : Nat :=
  (word.filter (· != '_')).foldl (fun total c => base * total + digitValue c) 0

def splitSign : List Char → Bool × List Char
  | '-' :: rest => (true, rest)
  | '+' :: rest => (false, rest)
  | word => (false, word)

def isWhole (word : List Char) : Bool :=
  isGrouped Char.isDigit word && (word.head? != some '0' || word.length == 1)

def inBase? (base : Nat) (isDigit : Char → Bool) (word : List Char) : Option Int :=
  if isGrouped isDigit word then some (groupedValue base word) else none

def integer? (word : List Char) : Option Int :=
  let value := match word with
    | '0' :: 'x' :: rest => inBase? 16 isHexDigit rest
    | '0' :: 'o' :: rest => inBase? 8 (fun c => '0' ≤ c && c ≤ '7') rest
    | '0' :: 'b' :: rest => inBase? 2 (fun c => c == '0' || c == '1') rest
    | word =>
      let (negative, digits) := splitSign word
      if isWhole digits then
        some (if negative then -(groupedValue 10 digits : Int) else groupedValue 10 digits)
      else none
  value.filter fun value => decide (-(Int.pow 2 127) ≤ value) && decide (value < Int.pow 2 128)

/-- Splits a word at the first character of a kind, which is dropped. -/
def splitAtFirst (isMark : Char → Bool) (word : List Char) : List Char × Option (List Char) :=
  let isOther := fun c => !isMark c
  (word.takeWhile isOther, (word.dropWhile isOther).tail?)

/-- Whether a word is a number with a fraction or an exponent, or a special one. -/
def isFraction (word : List Char) : Bool :=
  let (_, digits) := splitSign word
  if digits == "inf".toList || digits == "nan".toList then true
  else
    let (mantissa, exponent) := splitAtFirst (fun c => c == 'e' || c == 'E') digits
    let (whole, places) := splitAtFirst (· == '.') mantissa
    isWhole whole && places.all (isGrouped Char.isDigit) &&
      exponent.all (fun word => isGrouped Char.isDigit (splitSign word).2) &&
      (places.isSome || exponent.isSome)

/-- Two digits, and the rest. -/
def twoDigits? : List Char → Option (Nat × List Char)
  | a :: b :: rest =>
    if a.isDigit && b.isDigit then some (10 * digitValue a + digitValue b, rest) else none
  | _ => none

def daysOf (year month : Nat) : Nat :=
  if month == 2 then if (year % 4 == 0 && year % 100 != 0) || year % 400 == 0 then 29 else 28
  else if month == 4 || month == 6 || month == 9 || month == 11 then 30
  else 31

/-- What follows a date at the start of a word. -/
def afterDate? (word : List Char) : Option (List Char) := do
  let (century, rest) ← twoDigits? word
  let (year, rest) ← twoDigits? rest
  let '-' :: rest := rest | none
  let (month, rest) ← twoDigits? rest
  let '-' :: rest := rest | none
  let (day, rest) ← twoDigits? rest
  if 1 ≤ month && month ≤ 12 && 1 ≤ day && day ≤ daysOf (100 * century + year) month then
    return rest
  else none

/-- What follows the seconds of a time, which may be missing. -/
def afterSeconds? (word : List Char) : Option (List Char) :=
  match word with
  | ':' :: rest => do
    let (second, rest) ← twoDigits? rest
    if 60 < second then none
    else
      match rest with
      | '.' :: rest =>
        if rest.head?.any Char.isDigit then return rest.dropWhile Char.isDigit else none
      | rest => return rest
  | rest => some rest

/-- What follows hours and minutes. -/
def afterMinutes? (word : List Char) : Option (List Char) := do
  let (hour, rest) ← twoDigits? word
  let ':' :: rest := rest | none
  let (minute, rest) ← twoDigits? rest
  if hour ≤ 23 && minute ≤ 59 then return rest else none

/-- What follows a time. -/
def afterTime? (word : List Char) : Option (List Char) := do
  afterSeconds? (← afterMinutes? word)

/-- Whether a word is a distance from universal time, or nothing. -/
def isOffset : List Char → Bool
  | [] => true
  | ['Z'] => true
  | ['z'] => true
  | '+' :: rest => afterMinutes? rest == some []
  | '-' :: rest => afterMinutes? rest == some []
  | _ => false

def isDate (word : List Char) : Bool :=
  afterDate? word == some []

/-- Whether a word is a date, a time, or both. -/
def isMoment (word : List Char) : Bool :=
  match afterDate? word with
  | some [] => true
  | some (mark :: rest) =>
    (mark == 'T' || mark == 't' || mark == ' ') && (afterTime? rest).any isOffset
  | none => afterTime? word == some []

def ofWord? (word : List Char) : Option Toml :=
  if word == "true".toList then some (.bool true)
  else if word == "false".toList then some (.bool false)
  else if isMoment word then some .moment
  else if isFraction word then some .fraction
  else (integer? word).map .integer

end DiagramAssist.Toml

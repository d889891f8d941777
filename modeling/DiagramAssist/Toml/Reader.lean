import DiagramAssist.Toml.Scalar

/-! # Reading TOML

A document is read line by line: headers, which open a table, and members of the table that was
opened last. Arrays and inline tables may spread over lines and hold comments. They are nested at
most 80 levels deep, and a key has at most 80 parts. A document that breaks a rule is refused as a
whole.
-/

namespace DiagramAssist.Toml

def isBlank (c : Char) : Bool :=
  c == ' ' || c == '\t'

/-- Whether a character may stand in a comment or between quotes. -/
def isText (c : Char) : Bool :=
  c == '\t' || (0x20 ≤ c.toNat && c.toNat != 0x7F)

def skipBlanks (text : List Char) : List Char :=
  text.dropWhile isBlank

/-- Skips blanks, line ends and comments; `inComment` says whether the text starts inside a comment.
-/
def skipTrivia : (inComment : Bool) → List Char → Option (List Char)
  | _, [] => some []
  | _, '\n' :: rest => skipTrivia false rest
  | _, '\r' :: '\n' :: rest => skipTrivia false rest
  | true, c :: rest => if isText c then skipTrivia true rest else none
  | false, c :: rest =>
    if isBlank c then skipTrivia false rest
    else if c = '#' then skipTrivia true rest
    else some (c :: rest)

/-- Whether a line ends here, before or behind a comment. -/
def endsLine : List Char → Bool
  | [] => true
  | '\n' :: _ => true
  | '\r' :: '\n' :: _ => true
  | '#' :: _ => true
  | _ => false

/-- Goes to the next line, where only blanks and a comment are left of this one. -/
def nextLine? (text : List Char) : Option (List Char) :=
  let text := skipBlanks text
  if endsLine text then skipTrivia false text else none

/-- The character with a number in hexadecimal digits. -/
def scalarOf? (digits : List Char) : Option Char :=
  let code := groupedValue 16 digits
  if digits.all isHexDigit && decide (code.isValidChar) then some (Char.ofNat code) else none

/-- The character that a letter behind a backslash stands for. -/
def escapeOf? : Char → Option Char
  | 'b' => some '\x08'
  | 't' => some '\t'
  | 'n' => some '\n'
  | 'f' => some '\x0c'
  | 'r' => some '\r'
  | 'e' => some '\x1b'
  | '"' => some '"'
  | '\\' => some '\\'
  | _ => none

/-- How many hexadecimal digits follow a letter behind a backslash. -/
def escapeDigits : Char → Nat
  | 'x' => 2
  | 'u' => 4
  | 'U' => 8
  | _ => 0

/-- An escape behind its backslash: the character, and how many characters the escape has. -/
def escape? : List Char → Option (Char × Nat)
  | [] => none
  | c :: rest =>
    let count := escapeDigits c
    if count = 0 then (escapeOf? c).map fun c => (c, 1)
    else if rest.length < count then none
    else (scalarOf? (rest.take count)).map fun c => (c, count + 1)

/-- Puts a character before what has been read. -/
def consRead (c : Char) : Option (List Char × List Char) → Option (List Char × List Char)
  | some (read, rest) => some (c :: read, rest)
  | none => none

/-- The text up to a closing double quote; `skip` characters of an escape are left out first. -/
def readBasic : (skip : Nat) → List Char → Option (List Char × List Char)
  | _, [] => none
  | skip + 1, _ :: rest => readBasic skip rest
  | 0, c :: rest =>
    if c = '"' then some ([], rest)
    else if c = '\\' then
      match escape? rest with
      | some (escaped, count) => consRead escaped (readBasic count rest)
      | none => none
    else if isText c then consRead c (readBasic 0 rest)
    else none

/-- The text up to a closing single quote. -/
def readLiteral : List Char → Option (List Char × List Char)
  | [] => none
  | c :: rest =>
    if c = '\x27' then some ([], rest)
    else if isText c then consRead c (readLiteral rest)
    else none

/-- Up to two quotes that still belong to a text before its closing quotes. -/
def splitClosing (quote : Char) : List Char → Option (List Char × List Char)
  | a :: b :: c :: rest =>
    if a = quote && b = quote && c = quote then
      let extra := (rest.takeWhile (· == quote)).length
      some (List.replicate (min 2 extra) quote, rest.drop (min 2 extra))
    else none
  | _ => none

/-- Whether only blanks stand before the end of the line. -/
def isLineRest (text : List Char) : Bool :=
  match skipBlanks text with
  | '\n' :: _ => true
  | '\r' :: '\n' :: _ => true
  | _ => false

/-- Whether a line break starts here. -/
def isBreak : List Char → Bool
  | '\n' :: _ => true
  | '\r' :: '\n' :: _ => true
  | _ => false

/-- The text up to three closing double quotes. A backslash at the end of a line leaves out the
white space up to the next text; `trimming` says that this is being done. -/
def readLongBasic : (skip : Nat) → (trimming : Bool) → List Char → Option (List Char × List Char)
  | _, _, [] => none
  | skip + 1, trimming, _ :: rest => readLongBasic skip trimming rest
  | 0, trimming, c :: rest =>
    if trimming && (isBlank c || isBreak (c :: rest) || c = '\n') then readLongBasic 0 true rest
    else if c = '"' then
      match splitClosing '"' (c :: rest) with
      | some result => some result
      | none => consRead c (readLongBasic 0 false rest)
    else if c = '\\' then
      if isLineRest rest then readLongBasic 0 true rest
      else
        match escape? rest with
        | some (escaped, count) => consRead escaped (readLongBasic count false rest)
        | none => none
    else if isText c || isBreak (c :: rest) then consRead c (readLongBasic 0 false rest)
    else none

/-- The text up to three closing single quotes. -/
def readLongLiteral : List Char → Option (List Char × List Char)
  | [] => none
  | c :: rest =>
    match splitClosing '\x27' (c :: rest) with
    | some result => some result
    | none =>
      if isText c || isBreak (c :: rest) then consRead c (readLongLiteral rest) else none

/-- Leaves out a line break at the start. -/
def dropBreak : List Char → List Char
  | '\n' :: rest => rest
  | '\r' :: '\n' :: rest => rest
  | text => text

/-- The text between quotes, if there is one here. -/
def quoted? : List Char → Option (List Char × List Char)
  | '"' :: '"' :: '"' :: rest => readLongBasic 0 false (dropBreak rest)
  | '"' :: rest => readBasic 0 rest
  | '\x27' :: '\x27' :: '\x27' :: rest => readLongLiteral (dropBreak rest)
  | '\x27' :: rest => readLiteral rest
  | _ => none

/-- Whether a character may stand in a key without quotes. -/
def isBare (c : Char) : Bool :=
  c.isAlphanum || c == '_' || c == '-'

/-- A key without dots. -/
def simpleKey? : List Char → Option (List Char × List Char)
  | '"' :: rest => readBasic 0 rest
  | '\x27' :: rest => readLiteral rest
  | text =>
    let key := text.takeWhile isBare
    if key.isEmpty then none else some (key, text.dropWhile isBare)

/-- A dotted key of at most `bound` parts. -/
def path? : (bound : Nat) → List Char → Option (List String × List Char)
  | 0, _ => none
  | bound + 1, text => do
    let (key, rest) ← simpleKey? (skipBlanks text)
    match skipBlanks rest with
    | '.' :: rest =>
      let (path, rest) ← path? bound rest
      return (String.ofList key :: path, rest)
    | rest => return ([String.ofList key], rest)

def endsWord (c : Char) : Bool :=
  isBlank c || c == '\n' || c == '\r' || c == ',' || c == ']' || c == '\x7d' || c == '#'

/-- A scalar without quotes. A date and a time may have a space between them. -/
def scalar? (text : List Char) : Option (Toml × List Char) := do
  let inWord := fun c => !endsWord c
  let word := text.takeWhile inWord
  let rest := text.dropWhile inWord
  match rest with
  | ' ' :: digit :: more =>
    if isDate word && digit.isDigit then
      let later := (digit :: more).takeWhile inWord
      return (← ofWord? (word ++ ' ' :: later), (digit :: more).dropWhile inWord)
    else return (← ofWord? word, rest)
  | _ => return (← ofWord? word, rest)

/-- Leaves out an equality sign and the blanks around it. -/
def afterEquals? (text : List Char) : Option (List Char) :=
  match skipBlanks text with
  | '=' :: rest => some (skipBlanks rest)
  | _ => none

/-- How many parts a key may have, and how deep arrays and inline tables may be nested. -/
def maxDepth : Nat := 80

/-- The elements of an array up to its closing bracket, fewer than `bound`. A comma may stand behind
the last one. -/
def elements? (value : List Char → Option (Toml × List Char)) :
    (bound : Nat) → List Char → Option (List Toml × List Char)
  | 0, _ => none
  | _ + 1, ']' :: rest => some ([], rest)
  | bound + 1, text => do
    let (first, rest) ← value text
    match ← skipTrivia false rest with
    | ',' :: rest =>
      let (later, rest) ← elements? value bound (← skipTrivia false rest)
      return (first :: later, rest)
    | ']' :: rest => return ([first], rest)
    | _ => none

/-- The members of an inline table up to its closing brace, fewer than `bound`. -/
def members? (value : List Char → Option (Toml × List Char)) :
    (bound : Nat) → Members → List Char → Option (Members × List Char)
  | 0, _, _ => none
  | _ + 1, members, '\x7d' :: rest => some (members, rest)
  | bound + 1, members, text => do
    let (path, rest) ← path? maxDepth text
    let (member, rest) ← value (← afterEquals? rest)
    let (_, members) ← insert? path member .inline members
    match ← skipTrivia false rest with
    | ',' :: rest => members? value bound members (← skipTrivia false rest)
    | '\x7d' :: rest => return (members, rest)
    | _ => none

/-- A value that is nested at most `depth` levels deep. -/
def value? : (depth : Nat) → List Char → Option (Toml × List Char)
  | 0, '[' :: _ => none
  | 0, '\x7b' :: _ => none
  | depth + 1, '[' :: rest => do
    let (elements, rest) ← elements? (value? depth) (rest.length + 1) (← skipTrivia false rest)
    return (.array false elements, rest)
  | depth + 1, '\x7b' :: rest => do
    let (members, rest) ← members? (value? depth) (rest.length + 1) [] (← skipTrivia false rest)
    return (.table .inline members, rest)
  | _, text =>
    match text with
    | '"' :: _ => (quoted? text).map fun (value, rest) => (.string (String.ofList value), rest)
    | '\x27' :: _ => (quoted? text).map fun (value, rest) => (.string (String.ofList value), rest)
    | _ => scalar? text

/-- Reads lines of a document; `current` is the path of the table opened last. -/
def document? : (bound : Nat) → (current : List String) → Members → List Char → Option Members
  | 0, _, _, _ => none
  | _ + 1, _, root, [] => some root
  | bound + 1, _, root, '[' :: '[' :: rest => do
    let (path, rest) ← path? maxDepth rest
    let ']' :: ']' :: rest := skipBlanks rest | none
    document? bound path (← openElement? path root) (← nextLine? rest)
  | bound + 1, _, root, '[' :: rest => do
    let (path, rest) ← path? maxDepth rest
    let ']' :: rest := skipBlanks rest | none
    document? bound path (← openTable? path root) (← nextLine? rest)
  | bound + 1, current, root, text => do
    let (path, rest) ← path? maxDepth text
    let (value, rest) ← value? maxDepth (← afterEquals? rest)
    document? bound current (← assign? current path value root) (← nextLine? rest)

def parse? (text : String) : Option Members := do
  let text := match text.toList with
    | '\ufeff' :: rest => rest
    | text => text
  document? (text.length + 2) [] [] (← skipTrivia false text)

end DiagramAssist.Toml

import DiagramAssist.Address.Path

/-! # Addresses

Where documents are: addresses of the web standard for URLs. An address is read on its own or
relative to another one, and two texts mean the same document when their addresses are written the
same way.
-/

namespace DiagramAssist

structure Address where
  scheme : Address.Chars
  /-- User, host and port, as written between `//` and the path. -/
  authority : Option Address.Chars
  path : Address.Chars
  query : Option Address.Chars
  fragment : Option Address.Chars
deriving DecidableEq, Inhabited

namespace Address

/-- Whether nothing can be relative to the address: its path is not made of segments. -/
def isOpaque (address : Address) : Bool :=
  address.authority.isNone && address.path.head? != some '/'

/-- The written form. A path that starts with two slashes is kept apart from a host. -/
def render (address : Address) : String :=
  let hidden := "//".toList.isPrefixOf address.path
  String.ofList
    (address.scheme ++ ':' ::
      (match address.authority with
        | some authority => "//".toList ++ authority
        | none => if hidden then "/.".toList else []) ++
      address.path ++
      (match address.query with
        | some query => '?' :: query
        | none => []) ++
      (match address.fragment with
        | some fragment => '#' :: fragment
        | none => []))

/-- The address with the query and fragment that a text starts with. -/
def withTail (address : Address) (tail : Chars) : Address :=
  let special := (SchemeKind.of address.scheme).isSpecial
  let query := match tail with
    | '?' :: rest => some (escape (escapedInQuery special) (rest.takeWhile (· != '#')))
    | _ => none
  let fragment := match tail.dropWhile (· != '#') with
    | '#' :: rest => some (escape escapedInFragment rest)
    | _ => none
  { address with query, fragment }

/-- The scheme at the start of a text and what follows the colon. -/
def splitScheme? (input : Chars) : Option (Chars × Chars) :=
  let accepts := fun c : Char => c.isAlphanum || c == '+' || c == '-' || c == '.'
  let scheme := input.takeWhile accepts
  match input.head?, input.dropWhile accepts with
  | some first, ':' :: rest =>
    if first.isAlpha then some (scheme.map Char.toLower, rest) else none
  | _, _ => none

/-- The port that is left out of an address. -/
def defaultPort? (scheme : Chars) : Option Nat :=
  [("http", 80), ("ws", 80), ("https", 443), ("wss", 443), ("ftp", 21)].lookup
    (String.ofList scheme)

/-- The user information of an address, escaped and with its `@`, from the text before the last `@`.
An empty password is not written. -/
def userInfo (text : Chars) : Chars :=
  let user := escape escapedInUser (text.takeWhile (· != ':'))
  let password := match text.dropWhile (· != ':') with
    | _ :: rest => escape escapedInUser rest
    | [] => []
  let written := if password.isEmpty then user else user ++ ':' :: password
  if written.isEmpty then [] else written ++ ['@']

/-- The port at the start of a text, and what follows it. -/
def port? (scheme : Chars) (input : Chars) : Option (Chars × Chars) :=
  let digits := input.takeWhile Char.isDigit
  let rest := input.dropWhile Char.isDigit
  let ends := match rest with
    | [] => true
    | c :: _ => isSlash c || endsPath c
  match numberIn? 10 digits with
  | none => none
  | some value =>
    if !ends || 65535 < value then none
    else if digits.isEmpty || defaultPort? scheme == some value then some ([], rest)
    else some (':' :: decimal value, rest)

/-- The characters of the host at the start of a text: a colon ends it outside brackets. -/
def hostText (kind : SchemeKind) : (bracketed : Bool) → Chars → Chars
  | _, [] => []
  | bracketed, c :: rest =>
    if c == '/' || endsPath c || (kind.isSpecial && c == '\\') || (c == ':' && !bracketed) then []
    else c :: hostText kind ((bracketed || c == '[') && c != ']') rest

/-- The authority at the start of a text, and what follows it. -/
def authority? (scheme : Chars) (input : Chars) : Option (Chars × Chars) := do
  let kind := SchemeKind.of scheme
  let ends := fun c => c == '/' || endsPath c || (kind.isSpecial && c == '\\')
  let range := input.takeWhile fun c => !ends c
  let behind := (range.reverse.takeWhile (· != '@')).reverse
  let credentials := range.length != behind.length
  let info := userInfo (range.take (range.length - behind.length - 1))
  -- an `@` with neither a user before it nor a host behind it
  if credentials && range.length == behind.length + 1 && behind.isEmpty &&
      range.length < input.length then none
  let input := if credentials then input.drop (range.length - behind.length) else input
  let text := hostText kind false input
  if text.isEmpty && kind.isSpecial then none
  let host ← host? kind.isSpecial text
  let rest := input.drop text.length
  if host.isEmpty && (rest.head? == some ':' || !info.isEmpty) then none
  let (port, rest) ← match rest with
    | ':' :: rest => port? scheme rest
    | _ => some ([], rest)
  return (info ++ host ++ port, rest)

/-- An address whose text behind `//` is given. -/
def ofAuthority? (scheme : Chars) (input : Chars) : Option Address := do
  let kind := SchemeKind.of scheme
  let (authority, rest) ← authority? scheme input
  let (path, tail) :=
    match rest with
    | [] => if kind.isSpecial then readPath kind ['/'] [] else (⟨[], true⟩, [])
    | c :: later =>
      if kind.isSpecial then readPath kind ['/'] (if isSlash c then later else rest)
      else if endsPath c then (⟨[], true⟩, rest)
      else if c == '/' then readPath kind [] rest
      else readPath kind ['/'] rest
  return withTail ⟨scheme, some authority, path.path, none, none⟩ tail

/-- The base with the path at the start of a text put behind a given beginning. -/
def withPath (base : Address) (beginning input : Chars) : Address :=
  let (state, tail) := readPath (SchemeKind.of base.scheme) beginning input
  withTail { base with path := state.path } tail

/-- The base with the fragment of a text that starts with `#`. -/
def withFragment (base : Address) (input : Chars) : Address :=
  { base with fragment := some (escape escapedInFragment (input.drop 1)) }

/-- A text without a scheme, relative to an address of no file. -/
def relative? (base : Address) (input : Chars) : Option Address :=
  let kind := SchemeKind.of base.scheme
  match input with
  | [] => some { base with fragment := none }
  | '#' :: _ => some (base.withFragment input)
  | '?' :: _ => some (base.withTail input)
  | c :: rest =>
    if isSlash c then
      if "//".toList.isPrefixOf input then ofAuthority? base.scheme (input.drop 2)
      else if (rest.head?.map isSlash).getD false then
        ofAuthority? base.scheme (input.dropWhile isSlash)
      else some (base.withPath ['/'] rest)
    else
      let before := popSegment kind base.path
      some (base.withPath (if before.isEmpty then ['/'] else before) input)

/-- The address of a file with the given authority. -/
def fileAt (authority path input : Chars) : Address :=
  let (state, tail) := readPath .file path input
  withTail ⟨"file".toList, some authority, state.path, none, none⟩ tail

/-- The host of a file address at the start of a text, and what follows it. A drive letter is no
host. -/
def fileHost? (input : Chars) : Option (Chars × Chars) :=
  let text := input.takeWhile fun c => !(isSlash c || endsPath c)
  if isDriveLetter text then some ([], input)
  else
    let rest := input.drop text.length
    if text.isEmpty then some ([], rest)
    else do
      let host ← host? true text
      return (if host = "localhost".toList then [] else host, rest)

/-- The address of a file from the text behind `file://`. -/
def fileWithHost? (input : Chars) : Option Address := do
  let (host, rest) ← fileHost? input
  let rest := if host.isEmpty then rest else
    match rest with
    | c :: later => if isSlash c then later else rest
    | [] => []
  let (state, tail) := readPath .file ['/'] rest
  return withTail
    ⟨"file".toList, some (if state.keepsHost then host else []), state.path, none, none⟩ tail

def firstSegment (path : Chars) : Chars :=
  (path.drop 1).takeWhile (· != '/')

/-- The address of a file, from the text behind the scheme or relative to another file. -/
def file? (base : Option Address) (input : Chars) : Option Address :=
  match input, base with
  | c :: rest, _ =>
    if isSlash c then
      if (rest.head?.map isSlash).getD false then fileWithHost? (rest.drop 1)
      else
        match base with
        | some base =>
          if startsWithDriveLetter rest then some (fileAt [] [] input)
          else if isNormalDriveLetter (firstSegment base.path) then
            some (fileAt [] ('/' :: firstSegment base.path) input)
          else some (fileAt (base.authority.getD []) [] input)
        | none => some (fileAt [] [] input)
    else
      match base with
      | none => some (fileAt [] ['/'] input)
      | some base =>
        if c == '#' then some (base.withFragment input)
        else if c == '?' then some (base.withTail input)
        else if startsWithDriveLetter input then some (fileAt [] ['/'] input)
        else some (base.withPath (popSegment .file base.path) input)
  | [], some base => some { base with fragment := none }
  | [], none => some (fileAt [] ['/'] [])

def ofScheme? (base : Option Address) (scheme input : Chars) : Option Address :=
  let same := base.filter (·.scheme == scheme)
  match SchemeKind.of scheme with
  | .file => file? same input
  | .special =>
    match same with
    | some base =>
      if (input.takeWhile isSlash).length < 2 then relative? base input
      else ofAuthority? scheme (input.dropWhile isSlash)
    | none => ofAuthority? scheme (input.dropWhile isSlash)
  | .other =>
    if "//".toList.isPrefixOf input then ofAuthority? scheme (input.drop 2)
    else
      match input with
      | '/' :: rest =>
        let (state, tail) := readPath .other ['/'] rest
        some (withTail ⟨scheme, none, state.path, none, none⟩ tail)
      | _ =>
        let path := escape isControl (input.takeWhile fun c => !endsPath c)
        some (withTail ⟨scheme, none, path, none, none⟩ (input.dropWhile fun c => !endsPath c))

/-- A text without surrounding control characters and blanks, and without tabs and line breaks. -/
def clean (text : Chars) : Chars :=
  let outer := fun c : Char => c.toNat ≤ 0x20
  ((text.dropWhile outer).reverse.dropWhile outer).reverse.filter fun c =>
    !(c == '\t' || c == '\n' || c == '\r')

/-- The address that a text means, possibly relative to another one. -/
def resolve? (base : Option Address) (text : Chars) : Option Address :=
  let input := clean text
  match splitScheme? input, base with
  | some (scheme, rest), _ => ofScheme? base scheme rest
  | none, none => none
  | none, some base =>
    if input.head? == some '#' then some (base.withFragment input)
    else if base.isOpaque then none
    else if SchemeKind.of base.scheme = .file then file? (some base) input
    else relative? base input

def parse? (text : String) : Option Address :=
  resolve? none text.toList

def join? (base : Address) (text : String) : Option Address :=
  resolve? (some base) text.toList

/-- The path of a local file, as bytes; nothing for a file of another host. -/
def filePath? (address : Address) : Option (List UInt8) :=
  if address.authority.getD [] != [] then none
  else
    let bytes := (pieces (· == '/') (address.path.drop 1)).flatMap fun segment =>
      0x2F :: unescape segment
    match bytes.reverse with
    | mark :: letter :: _ :: _ =>
      if (mark == 0x3A || mark == 0x7C) && (Char.ofNat letter.toNat).isAlpha then
        some (bytes ++ [0x2F])
      else some bytes
    | _ => some bytes

/-- The address of a local file, given by the names on the way from the root. -/
def ofFile (names : List Chars) : Address :=
  let path := names.flatMap fun name => '/' :: escape escapedInSegment name
  ⟨"file".toList, some [], if path.isEmpty then ['/'] else path, none, none⟩

end Address

end DiagramAssist

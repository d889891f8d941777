import DiagramAssist.Address.Host

/-! # Paths

The path of an address as a text that starts with a slash. Segments are added one by one: a dot
segment adds nothing, a double dot takes the last segment away, and in a file address a drive letter
is never taken away. As the first segment of a file address a drive letter is written with a colon.
-/

namespace DiagramAssist.Address

/-- The schemes with rules of their own. -/
inductive SchemeKind where
  | file
  /-- A scheme that always has a host. -/
  | special
  | other
deriving DecidableEq, Inhabited

def SchemeKind.of (scheme : Chars) : SchemeKind :=
  if scheme = "file".toList then .file
  else if ["http", "https", "ws", "wss", "ftp"].contains (String.ofList scheme) then .special
  else .other

/-- Whether backslashes separate segments like slashes. -/
def SchemeKind.isSpecial (kind : SchemeKind) : Bool :=
  kind != .other

def isSlash (c : Char) : Bool :=
  c == '/' || c == '\\'

/-- A character that ends the path. -/
def endsPath (c : Char) : Bool :=
  c == '?' || c == '#'

/-- A drive letter: a letter with a colon or a bar. -/
def isDriveLetter : Chars → Bool
  | [letter, mark] => letter.isAlpha && (mark == ':' || mark == '|')
  | _ => false

/-- A drive letter with a colon. -/
def isNormalDriveLetter : Chars → Bool
  | [letter, mark] => letter.isAlpha && mark == ':'
  | _ => false

/-- Whether a text is a drive letter or starts with one as its first segment. -/
def startsWithDriveLetter (text : Chars) : Bool :=
  isDriveLetter (text.take 2) &&
    match text.drop 2 with
    | [] => true
    | c :: _ => isSlash c || endsPath c

/-- The path up to its last slash, that slash included, and what follows it. -/
def splitLast (path : Chars) : Chars × Chars :=
  let last := (path.reverse.takeWhile (· != '/')).reverse
  (path.take (path.length - last.length), last)

/-- Takes the last segment away, but no drive letter. -/
def popSegment (kind : SchemeKind) (path : Chars) : Chars :=
  let (before, last) := splitLast path
  if kind = .file && isNormalDriveLetter last then path else before

def endsWithSlash (path : Chars) : Bool :=
  path.getLast? == some '/'

/-- Whether the slash at the end may be taken away: it is not the first one and does not stand
behind a drive letter. -/
def finalSlashIsFree (path : Chars) : Bool :=
  let (before, last) := splitLast path.dropLast
  !before.isEmpty && !startsWithDriveLetter (last ++ ['/'])

/-- A segment that means the place it stands at. -/
def isSingleDot (segment : Chars) : Bool :=
  ["." , "%2e"].contains (String.ofList (segment.map Char.toLower))

/-- A segment that means the place one level up. -/
def isDoubleDot (segment : Chars) : Bool :=
  ["..", "%2e%2e", "%2e.", ".%2e"].contains (String.ofList (segment.map Char.toLower))

/-- A path being built, and whether the host of the address still counts: a drive letter drops it.
-/
structure PathState where
  path : Chars
  keepsHost : Bool

/-- Adds a segment, with the slash that follows it if one does. -/
def PathState.add (kind : SchemeKind) (state : PathState) (raw : Chars) (slash : Bool) :
    PathState :=
  let path :=
    if kind = .file && !raw.isEmpty && isNormalDriveLetter (state.path.drop 1) then
      state.path ++ ['/']
    else state.path
  let segment := escape escapedInPath raw
  let separator : Chars := if slash then ['/'] else []
  if isDoubleDot segment then
    let path := if endsWithSlash path && finalSlashIsFree path then path.dropLast else path
    let path := popSegment kind path
    { state with path := if slash && !endsWithSlash path then path ++ ['/'] else path }
  else if isSingleDot segment then
    { state with path := if endsWithSlash path then path else path ++ ['/'] }
  else if kind = .file && path.length = 1 && isDriveLetter segment then
    { path := path ++ segment.take 1 ++ ':' :: separator, keepsHost := false }
  else { state with path := path ++ segment ++ separator }

/-- Adds segments, with a slash behind each but the last. -/
def PathState.addAll (kind : SchemeKind) (state : PathState) : List Chars → PathState
  | [] => state
  | [last] => state.add kind last false
  | segment :: rest => PathState.addAll kind (state.add kind segment true) rest

/-- Adds the path at the start of a text to a path; gives what follows it as well. The path of a
file address starts with a single slash. -/
def readPath (kind : SchemeKind) (path : Chars) (input : Chars) : PathState × Chars :=
  let text := input.takeWhile fun c => !endsPath c
  let separates := fun c => c == '/' || (kind.isSpecial && c == '\\')
  let state := PathState.addAll kind ⟨path, true⟩ (pieces separates text)
  let path := if kind = .file then '/' :: state.path.dropWhile (· == '/') else state.path
  ({ state with path }, input.dropWhile fun c => !endsPath c)

end DiagramAssist.Address

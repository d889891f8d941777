import DiagramAssist.Error
import DiagramAssist.Text.Base64
import DiagramAssist.Text.Blank
import DiagramAssist.Text.Utf8

/-! # Fetched payloads

What a document source returns for an address: text as it is, or the base64 form of its bytes, which
may be broken into lines.
-/

namespace DiagramAssist

inductive Encoding where
  | utf8
  | base64
deriving DecidableEq, Inhabited

def Encoding.ofWord? (word : String) : Option Encoding :=
  if word = "utf-8" || word = "utf8" then some .utf8
  else if word = "base64" then some .base64
  else none

structure Payload where
  content : String
  encoding : Encoding
deriving DecidableEq, Inhabited

/-- The text of a payload that came from an address. -/
def Payload.decode (payload : Payload) (url : String) : Except FetchError String :=
  match payload.encoding with
  | .utf8 => .ok payload.content
  | .base64 =>
    match Text.Base64.decode? (payload.content.toList.filter fun c => !Text.isAsciiBlank c) with
    | none => .error (.decode url "invalid base64")
    | some bytes =>
      match Text.decodeUtf8 bytes with
      | .ok text => .ok text
      | .error fault => .error (.decode url fault.message)

/-- A module of the standard library: the path it is included by, and its address. -/
structure LibraryEntry where
  path : String
  url : String
deriving DecidableEq, Inhabited

end DiagramAssist

/-! # UTF-8

Decoding of bytes into characters. Overlong forms, surrogates and numbers above the last code point
are refused, and a refusal says at which byte the bad sequence starts and how many bytes of it could
still have been the beginning of a character.
-/

namespace DiagramAssist.Text

/-- Why bytes are no UTF-8 text: the first bad sequence, and its length unless the bytes simply end
too early. -/
structure Utf8Fault where
  index : Nat
  length : Option Nat
deriving DecidableEq, Inhabited

def Utf8Fault.message (fault : Utf8Fault) : String :=
  match fault.length with
  | some length =>
    "invalid utf-8 sequence of " ++ toString length ++ " bytes from index " ++ toString fault.index
  | none => "incomplete utf-8 byte sequence from index " ++ toString fault.index

def isContinuation (byte : UInt8) : Bool :=
  0x80 ≤ byte && byte ≤ 0xBF

/-- Whether a byte starts a sequence of two to four bytes. -/
def startsSequence (byte : UInt8) : Bool :=
  0xC2 ≤ byte && byte ≤ 0xF4

def isSecond (first second : UInt8) : Bool :=
  if first = 0xE0 then 0xA0 ≤ second && second ≤ 0xBF
  else if first = 0xED then 0x80 ≤ second && second ≤ 0x9F
  else if first = 0xF0 then 0x90 ≤ second && second ≤ 0xBF
  else if first = 0xF4 then 0x80 ≤ second && second ≤ 0x8F
  else isContinuation second

/-- The payload of a continuation byte. -/
def low6 (byte : UInt8) : Nat :=
  byte.toNat % 64

/-- Puts a character before a decoded text. -/
def consOk (c : Char) : Except Utf8Fault (List Char) → Except Utf8Fault (List Char)
  | .ok text => .ok (c :: text)
  | .error fault => .error fault

/-- Decodes bytes, the first of which stands at `index`. -/
def decodeFrom (index : Nat) : List UInt8 → Except Utf8Fault (List Char)
  | [] => .ok []
  | a :: rest =>
    if a < 0x80 then consOk (Char.ofNat a.toNat) (decodeFrom (index + 1) rest)
    else if !startsSequence a then .error ⟨index, some 1⟩
    else
      match rest with
      | [] => .error ⟨index, none⟩
      | b :: rest =>
        if !isSecond a b then .error ⟨index, some 1⟩
        else if a < 0xE0 then
          consOk (Char.ofNat (a.toNat % 32 * 64 + low6 b)) (decodeFrom (index + 2) rest)
        else
          match rest with
          | [] => .error ⟨index, none⟩
          | c :: rest =>
            if !isContinuation c then .error ⟨index, some 2⟩
            else if a < 0xF0 then
              consOk (Char.ofNat ((a.toNat % 16 * 64 + low6 b) * 64 + low6 c))
                (decodeFrom (index + 3) rest)
            else
              match rest with
              | [] => .error ⟨index, none⟩
              | d :: rest =>
                if !isContinuation d then .error ⟨index, some 3⟩
                else
                  consOk (Char.ofNat (((a.toNat % 8 * 64 + low6 b) * 64 + low6 c) * 64 + low6 d))
                    (decodeFrom (index + 4) rest)

def decodeUtf8 (bytes : List UInt8) : Except Utf8Fault String :=
  match decodeFrom 0 bytes with
  | .ok text => .ok (String.ofList text)
  | .error fault => .error fault

def encodeUtf8 (text : String) : List UInt8 :=
  text.toList.flatMap String.utf8EncodeChar

end DiagramAssist.Text

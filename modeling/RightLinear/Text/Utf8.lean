import RightLinear.Text.Hexadecimal

/-! Text from bytes: strict UTF-8, and one kind of line end. -/

namespace RightLinear.Text

namespace Utf8

inductive Reason where
  | invalidStart
  | invalidContinuation
  | unexpectedEnd
  deriving DecidableEq

def Reason.text : Reason → String
  | invalidStart => "invalid start byte"
  | invalidContinuation => "invalid continuation byte"
  | unexpectedEnd => "unexpected end of data"

/-- The bytes that cannot be read: `count` of them from `position`, of which
`first` is the first. -/
structure DecodeError where
  first : UInt8
  position : Nat
  count : Nat
  reason : Reason
  deriving DecidableEq

private def shownByte (byte : UInt8) : String :=
  "0x" ++ String.ofList (hexDigits 2 byte.toNat)

def DecodeError.message (error : DecodeError) : String :=
  let place :=
    if error.count = 1 then
      "byte " ++ shownByte error.first ++ " in position " ++
        toString error.position
    else
      "bytes in position " ++ toString error.position ++ "-" ++
        toString (error.position + error.count - 1)
  "'utf-8' codec can't decode " ++ place ++ ": " ++ error.reason.text

/-- A character of which some bytes are read: its first byte and where it
stands, how many bytes are still to come, the range of the next one, and the
bits so far. -/
structure Partial where
  first : UInt8
  position : Nat
  missing : Nat
  low : Nat
  high : Nat
  bits : Nat

/-- The ranges of the second byte leave out overlong forms, surrogates and
what lies beyond the last code point. -/
def Partial.ofFirst? (first : UInt8) (position : Nat) : Option Partial :=
  let byte := first.toNat
  if 0xC2 ≤ byte ∧ byte ≤ 0xDF then
    some ⟨first, position, 1, 0x80, 0xBF, byte - 0xC0⟩
  else if 0xE0 ≤ byte ∧ byte ≤ 0xEF then
    some ⟨first, position, 2, if byte = 0xE0 then 0xA0 else 0x80,
      if byte = 0xED then 0x9F else 0xBF, byte - 0xE0⟩
  else if 0xF0 ≤ byte ∧ byte ≤ 0xF4 then
    some ⟨first, position, 3, if byte = 0xF0 then 0x90 else 0x80,
      if byte = 0xF4 then 0x8F else 0xBF, byte - 0xF0⟩
  else none

def Partial.error (pending : Partial) (position : Nat) (reason : Reason) :
    DecodeError :=
  ⟨pending.first, pending.position, position - pending.position, reason⟩

def decodeFrom (position : Nat) :
    Option Partial → List UInt8 → Except DecodeError (List Char)
  | none, [] => .ok []
  | some pending, [] => .error (pending.error position .unexpectedEnd)
  | none, byte :: rest =>
      if byte.toNat < 0x80 then
        (decodeFrom (position + 1) none rest).map (Char.ofNat byte.toNat :: ·)
      else
        match Partial.ofFirst? byte position with
        | some pending => decodeFrom (position + 1) (some pending) rest
        | none => .error ⟨byte, position, 1, .invalidStart⟩
  | some pending, byte :: rest =>
      if byte.toNat < pending.low ∨ pending.high < byte.toNat then
        .error (pending.error position .invalidContinuation)
      else
        let bits := 64 * pending.bits + byte.toNat % 64
        if pending.missing ≤ 1 then
          (decodeFrom (position + 1) none rest).map (Char.ofNat bits :: ·)
        else
          decodeFrom (position + 1)
            (some ⟨pending.first, pending.position, pending.missing - 1,
              0x80, 0xBF, bits⟩) rest

def decode (bytes : List UInt8) : Except DecodeError (List Char) :=
  decodeFrom 0 none bytes

end Utf8

/-- Every line end becomes a line feed. -/
def withLineFeeds : List Char → List Char
  | '\r' :: '\n' :: rest => '\n' :: withLineFeeds rest
  | '\r' :: rest => '\n' :: withLineFeeds rest
  | character :: rest => character :: withLineFeeds rest
  | [] => []

end RightLinear.Text

import DartRoutes.Text.Quoted

/-!
# UTF-8

Files are bytes; their texts are encoded in UTF-8. Decoding stops at the first byte sequence that
is no character and says where it stands and what is wrong with it. Encoding stops at the first
surrogates.
-/

namespace DartRoutes

/-- The content of a file. -/
abbrev Bytes := List UInt8

/-- What can be wrong with a byte sequence. -/
inductive Utf8Fault.Reason where
  | invalidStart
  | invalidContinuation
  | unexpectedEnd
  deriving DecidableEq

/-- The first `count` bytes of a broken sequence, which starts with the byte `lead` at `start`. -/
structure Utf8Fault where
  lead : UInt8
  start : Nat
  count : Nat
  reason : Utf8Fault.Reason
  deriving DecidableEq

namespace Utf8Fault

def Reason.message : Reason → Text
  | .invalidStart => "invalid start byte"
  | .invalidContinuation => "invalid continuation byte"
  | .unexpectedEnd => "unexpected end of data"

def message (fault : Utf8Fault) : Text :=
  let place :=
    if fault.count ≤ 1 then
      "byte 0x" ++ hexadecimal 2 fault.lead.toNat ++ " in position " ++ Text.ofNat fault.start
    else
      "bytes in position " ++ Text.ofNat fault.start ++ "-"
        ++ Text.ofNat (fault.start + fault.count - 1)
  "'utf-8' codec can't decode " ++ place ++ ": " ++ fault.reason.message

end Utf8Fault

/-- The first surrogates of a text, which stand next to each other from `start` on. -/
structure SurrogateFault where
  first : Nat
  start : Nat
  count : Nat
  deriving DecidableEq

def SurrogateFault.message (fault : SurrogateFault) : Text :=
  let place :=
    if fault.count ≤ 1 then
      "character '" ++ escapedCode fault.first ++ "' in position " ++ Text.ofNat fault.start
    else
      "characters in position " ++ Text.ofNat fault.start ++ "-"
        ++ Text.ofNat (fault.start + fault.count - 1)
  "'utf-8' codec can't encode " ++ place ++ ": surrogates not allowed"

namespace Utf8

def encode (text : Text) : Bytes :=
  text.flatMap String.utf8EncodeChar

/-- The first surrogates of a text that stands at a position. -/
def surrogateFaultFrom? (position : Nat) : Text → Option SurrogateFault
  | [] => none
  | character :: rest =>
      match surrogate? character with
      | some code => some ⟨code, position, 1 + (rest.takeWhile (surrogate? · |>.isSome)).length⟩
      | none => surrogateFaultFrom? (position + 1) rest

/-- The bytes of a text, or the first surrogates in it. -/
def encode? (text : Text) : Except SurrogateFault Bytes :=
  match surrogateFaultFrom? 0 text with
  | some fault => .error fault
  | none => .ok (encode text)

/--
The payload of the first byte of a sequence and the ranges of the bytes that follow it. The ranges
of the second byte keep out overlong forms, surrogates and codes that are too large.
-/
def lead? (byte : UInt8) : Option (Nat × List (Nat × Nat)) :=
  let code := byte.toNat
  if code < 0x80 then some (code, [])
  else if code < 0xC2 then none
  else if code < 0xE0 then some (code - 0xC0, [(0x80, 0xBF)])
  else if code = 0xE0 then some (0, [(0xA0, 0xBF), (0x80, 0xBF)])
  else if code = 0xED then some (0xD, [(0x80, 0x9F), (0x80, 0xBF)])
  else if code < 0xF0 then some (code - 0xE0, [(0x80, 0xBF), (0x80, 0xBF)])
  else if code = 0xF0 then some (0, [(0x90, 0xBF), (0x80, 0xBF), (0x80, 0xBF)])
  else if code < 0xF4 then some (code - 0xF0, [(0x80, 0xBF), (0x80, 0xBF), (0x80, 0xBF)])
  else if code = 0xF4 then some (4, [(0x80, 0x8F), (0x80, 0xBF), (0x80, 0xBF)])
  else none

/-- A sequence that is being read: its first byte, its place, and what it still needs. -/
structure Sequence where
  lead : UInt8
  start : Nat
  taken : Nat
  payload : Nat
  expected : List (Nat × Nat)

/-- The fault of a sequence that ends too early. -/
def Sequence.fault (sequence : Sequence) (reason : Utf8Fault.Reason) : Utf8Fault :=
  ⟨sequence.lead, sequence.start, sequence.taken, reason⟩

/-- Reads the bytes from `position` on, inside a sequence if one is open. -/
def decodeFrom (position : Nat) (sequence? : Option Sequence) :
    Bytes → Except Utf8Fault Text
  | [] =>
      match sequence? with
      | none => .ok []
      | some sequence => .error (sequence.fault .unexpectedEnd)
  | byte :: rest =>
      match sequence? with
      | none =>
          match lead? byte with
          | none => .error ⟨byte, position, 1, .invalidStart⟩
          | some (payload, []) =>
              (Char.ofNat payload :: ·) <$> decodeFrom (position + 1) none rest
          | some (payload, expected) =>
              decodeFrom (position + 1) (some ⟨byte, position, 1, payload, expected⟩) rest
      | some sequence =>
          match sequence.expected with
          | [] => .error (sequence.fault .invalidContinuation)
          | (least, greatest) :: expected =>
              if least ≤ byte.toNat ∧ byte.toNat ≤ greatest then
                let payload := sequence.payload * 0x40 + (byte.toNat - 0x80)
                if expected.isEmpty then
                  (Char.ofNat payload :: ·) <$> decodeFrom (position + 1) none rest
                else
                  decodeFrom (position + 1)
                    (some { sequence with
                      taken := sequence.taken + 1, payload, expected }) rest
              else .error (sequence.fault .invalidContinuation)

/-- The text of the bytes, or the first fault in them. -/
def decode (bytes : Bytes) : Except Utf8Fault Text :=
  decodeFrom 0 none bytes

end Utf8

end DartRoutes

/-! Text from bytes. A malformed sequence is reported with the bytes that could still begin a
character. -/

set_option autoImplicit false

namespace DdlSchema.Text

inductive MalformedReason where
  | start
  | continuation
  | ending
  deriving DecidableEq, Repr

/-- Where a sequence is malformed, its first byte, and the position after its last. -/
structure Malformed where
  start : Nat
  stop : Nat
  first : Nat
  reason : MalformedReason
  deriving DecidableEq, Repr

def MalformedReason.message : MalformedReason → String
  | .start => "invalid start byte"
  | .continuation => "invalid continuation byte"
  | .ending => "unexpected end of data"

def hexPair (n : Nat) : String :=
  String.ofList ((Nat.toDigits 16 (n / 16 % 16)) ++ (Nat.toDigits 16 (n % 16)))

def Malformed.message (problem : Malformed) : String :=
  let place :=
    if problem.stop = problem.start + 1 then
      "byte 0x" ++ hexPair problem.first ++ " in position " ++ toString problem.start
    else
      "bytes in position " ++ toString problem.start ++ "-" ++ toString (problem.stop - 1)
  "\x27utf-8\x27 codec can\x27t decode " ++ place ++ ": " ++ problem.reason.message

/-- A character that is not complete: its bits so far, how many bytes it still needs, and the
range of the next one. -/
structure Partial where
  start : Nat
  first : Nat
  bits : Nat
  owed : Nat
  low : Nat := 0x80
  high : Nat := 0xBF

def Partial.ofLead? (start byte : Nat) : Option Partial :=
  if 0xC2 ≤ byte && byte ≤ 0xDF then some ⟨start, byte, byte % 32, 1, 0x80, 0xBF⟩
  else if 0xE0 ≤ byte && byte ≤ 0xEF then
    some ⟨start, byte, byte % 16, 2, if byte = 0xE0 then 0xA0 else 0x80,
      if byte = 0xED then 0x9F else 0xBF⟩
  else if 0xF0 ≤ byte && byte ≤ 0xF4 then
    some ⟨start, byte, byte % 8, 3, if byte = 0xF0 then 0x90 else 0x80,
      if byte = 0xF4 then 0x8F else 0xBF⟩
  else none

def decodeFrom : Nat → Option Partial → List UInt8 → Except Malformed (List Char)
  | _, none, [] => .ok []
  | position, some state, [] => .error ⟨state.start, position, state.first, .ending⟩
  | position, none, byte :: rest =>
    if byte.toNat < 0x80 then
      (decodeFrom (position + 1) none rest).map (Char.ofNat byte.toNat :: ·)
    else match Partial.ofLead? position byte.toNat with
      | none => .error ⟨position, position + 1, byte.toNat, .start⟩
      | some state => decodeFrom (position + 1) (some state) rest
  | position, some state, byte :: rest =>
    if state.low ≤ byte.toNat && byte.toNat ≤ state.high then
      let bits := state.bits * 64 + byte.toNat % 64
      if state.owed = 1 then (decodeFrom (position + 1) none rest).map (Char.ofNat bits :: ·)
      else decodeFrom (position + 1) (some ⟨state.start, state.first, bits, state.owed - 1, 0x80, 0xBF⟩) rest
    else .error ⟨state.start, position, state.first, .continuation⟩

def decodeUtf8 (bytes : List UInt8) : Except Malformed (List Char) := decodeFrom 0 none bytes

def unifyBreaks : List Char → List Char
  | '\r' :: '\n' :: rest => '\n' :: unifyBreaks rest
  | '\r' :: rest => '\n' :: unifyBreaks rest
  | c :: rest => c :: unifyBreaks rest
  | [] => []

end DdlSchema.Text

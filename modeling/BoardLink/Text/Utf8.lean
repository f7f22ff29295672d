import BoardLink.Bytes

-- UTF-8, written and read.
-- The reader takes one byte at a time. Each maximal stretch of bytes that cannot be continued
-- to a character counts as one invalid part.
namespace BoardLink.Text.Utf8

def encode (text : List Char) : Bytes := text.flatMap String.utf8EncodeChar

-- What a character still needs: the count of bytes to come, the range of the next one, and
-- the bits collected so far.
structure Pending where
  more : Nat
  low : UInt8
  high : UInt8
  bits : Nat
  deriving Repr

-- The part of a character that its first byte decides.
-- Overlong forms, surrogates and numbers above U+10FFFF are shut out by the range of the
-- second byte.
def lead? (byte : UInt8) : Option Pending :=
  if byte < 0x80 then some ⟨0, 0, 0, byte.toNat⟩
  else if byte < 0xc2 then none
  else if byte < 0xe0 then some ⟨1, 0x80, 0xbf, byte.toNat - 0xc0⟩
  else if byte = 0xe0 then some ⟨2, 0xa0, 0xbf, 0⟩
  else if byte = 0xed then some ⟨2, 0x80, 0x9f, 0xd⟩
  else if byte < 0xf0 then some ⟨2, 0x80, 0xbf, byte.toNat - 0xe0⟩
  else if byte = 0xf0 then some ⟨3, 0x90, 0xbf, 0⟩
  else if byte < 0xf4 then some ⟨3, 0x80, 0xbf, byte.toNat - 0xf0⟩
  else if byte = 0xf4 then some ⟨3, 0x80, 0x8f, 4⟩
  else none

-- A byte at the start of a character: the parts it completes, and what is pending after it.
def start (byte : UInt8) : List (Option Char) × Option Pending :=
  match lead? byte with
  | none => ([none], none)
  | some pending =>
    if pending.more = 0 then ([some (Char.ofNat pending.bits)], none) else ([], some pending)

def step : Option Pending → UInt8 → List (Option Char) × Option Pending
  | none, byte => start byte
  | some pending, byte =>
    if pending.low ≤ byte ∧ byte ≤ pending.high then
      let bits := pending.bits * 64 + (byte.toNat - 0x80)
      if pending.more ≤ 1 then ([some (Char.ofNat bits)], none)
      else ([], some ⟨pending.more - 1, 0x80, 0xbf, bits⟩)
    else
      let (parts, next) := start byte
      (none :: parts, next)

-- Characters in order, with `none` for each invalid part.
def parts : Option Pending → Bytes → List (Option Char)
  | none, [] => []
  | some _, [] => [none]
  | state, byte :: rest =>
    let (done, next) := step state byte
    done ++ parts next rest

-- The text of valid bytes.
def decode? (bytes : Bytes) : Option (List Char) := (parts none bytes).mapM id

-- The text with U+FFFD in place of each invalid part.
def decodeLossy (bytes : Bytes) : List Char :=
  (parts none bytes).map (·.getD (Char.ofNat 0xfffd))

end BoardLink.Text.Utf8

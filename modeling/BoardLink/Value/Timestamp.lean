import BoardLink.ProtocolError
import BoardLink.Text.Utf8

-- Timestamps of the board's clock: a text of 22 characters, sent as a field of 23 bytes.
-- Only the shape of the text is checked. Whether the date exists is for the board to decide.
namespace BoardLink

open Text

structure Timestamp where
  year : UInt16
  month : UInt8
  day : UInt8
  hour : UInt8
  minute : UInt8
  second : UInt8
  fraction : UInt8
  deriving DecidableEq, Repr, Inhabited

namespace Timestamp

-- The number of characters in the text, and of bytes in the field with its final zero byte.
def textLength : Nat := 22

def fieldLength : Nat := 23

-- A place in the text is either any digit or one fixed character.
inductive Slot where
  | digit
  | mark (byte : UInt8)
  deriving DecidableEq, Repr

-- `YYYY-MM-DD HH:MM:SS.ss`
def shape : List Slot :=
  let two : List Slot := [.digit, .digit]
  two ++ two ++ [.mark 45] ++ two ++ [.mark 45] ++ two ++ [.mark 32] ++ two ++ [.mark 58] ++
    two ++ [.mark 58] ++ two ++ [.mark 46] ++ two

def isDigit (byte : UInt8) : Bool := 48 ≤ byte && byte ≤ 57

def Slot.marksOk : Slot → UInt8 → Bool
  | .digit, _ => true
  | .mark wanted, byte => byte == wanted

def Slot.digitsOk : Slot → UInt8 → Bool
  | .digit, byte => isDigit byte
  | .mark _, _ => true

-- The number written by `count` digits from place `start` on.
def numberAt (bytes : Bytes) (start count : Nat) : Nat :=
  ((bytes.drop start).take count).foldl (fun value byte => value * 10 + (byte.toNat - 48)) 0

def ofDigits (bytes : Bytes) : Timestamp where
  year := UInt16.ofNat (numberAt bytes 0 4)
  month := UInt8.ofNat (numberAt bytes 5 2)
  day := UInt8.ofNat (numberAt bytes 8 2)
  hour := UInt8.ofNat (numberAt bytes 11 2)
  minute := UInt8.ofNat (numberAt bytes 14 2)
  second := UInt8.ofNat (numberAt bytes 17 2)
  fraction := UInt8.ofNat (numberAt bytes 20 2)

-- Length first, then all separators, then all digits.
def ofText (text : String) : Except ProtocolError Timestamp :=
  let bytes := Utf8.encode text.toList
  if bytes.length ≠ textLength then .error (.invalidTimestamp text .textLength)
  else if !(shape.zip bytes).all (fun place => place.1.marksOk place.2) then
    .error (.invalidTimestamp text .missingSeparator)
  else if !(shape.zip bytes).all (fun place => place.1.digitsOk place.2) then
    .error (.invalidTimestamp text .nonDigit)
  else .ok (ofDigits bytes)

def digits (width n : Nat) : List Char := Numeral.padLeft width '0' (Numeral.decimal n)

-- Each field keeps its lowest digits, so the text always has the same length.
def characters (time : Timestamp) : List Char :=
  digits 4 (time.year.toNat % 10000) ++ '-' :: digits 2 (time.month.toNat % 100) ++
    '-' :: digits 2 (time.day.toNat % 100) ++ ' ' :: digits 2 (time.hour.toNat % 100) ++
    ':' :: digits 2 (time.minute.toNat % 100) ++ ':' :: digits 2 (time.second.toNat % 100) ++
    '.' :: digits 2 (time.fraction.toNat % 100)

def text (time : Timestamp) : String := String.ofList time.characters

-- The first 22 bytes of a text, filled up with zero bytes to the width of the field.
def field (text : String) : Bytes :=
  let shown := (Utf8.encode text.toList).take textLength
  shown ++ List.replicate (fieldLength - shown.length) 0

def toWire (time : Timestamp) : Bytes := field time.text

-- The text of a field ends at its first zero byte.
def ofWire (bytes : Bytes) : Except ProtocolError Timestamp :=
  if bytes.length ≠ fieldLength then
    .error (.invalidTimestamp (String.ofList (Utf8.decodeLossy bytes)) .fieldWidth)
  else if !bytes.contains 0 then .error .unterminated
  else
    let shown := bytes.takeWhile (· ≠ 0)
    match Utf8.decode? shown with
    | none => .error (.invalidTimestamp (String.ofList (Utf8.decodeLossy shown)) .notText)
    | some chars => ofText (String.ofList chars)

end Timestamp

-- The clock's two calibration registers.
structure CalibrationRegisters where
  digital : UInt8
  analog : UInt8
  deriving DecidableEq, Repr, Inhabited

namespace CalibrationRegisters

def toBytes (registers : CalibrationRegisters) : Bytes := [registers.digital, registers.analog]

def ofBytes? : Bytes → Option CalibrationRegisters
  | [digital, analog] => some ⟨digital, analog⟩
  | _ => none

@[simp] theorem length_toBytes (registers : CalibrationRegisters) :
    registers.toBytes.length = 2 := rfl

end CalibrationRegisters
end BoardLink

import BoardLink.Bytes
import BoardLink.ProtocolError
import BoardLink.Text.Characters

-- Colours of three channels, packed in 24 bits, and their written forms.
namespace BoardLink

open Text

structure RgbColor where
  red : UInt8
  green : UInt8
  blue : UInt8
  deriving DecidableEq, Repr, Inhabited

namespace RgbColor

-- Red is in bits 16 to 23, green in 8 to 15, blue in 0 to 7. Higher bits do not count.
def unpack (rgb : Nat) : RgbColor :=
  ⟨UInt8.ofNat (rgb / 65536), UInt8.ofNat (rgb / 256), UInt8.ofNat rgb⟩

def pack (color : RgbColor) : Nat :=
  color.red.toNat * 65536 + color.green.toNat * 256 + color.blue.toNat

-- `#` and six upper-case hexadecimal digits.
def text (color : RgbColor) : String :=
  String.ofList ('#' :: Numeral.padLeft 6 '0' (Numeral.hexUpper color.pack))

-- The number that a text stands for: six hexadecimal characters after `#`,
-- hexadecimal after `0x` or `0X`, and decimal otherwise.
def number? : List Char → Option Nat
  | '#' :: digits => if digits.length = 6 then Numeral.read? 16 0xffffffff digits else none
  | '0' :: 'x' :: digits => Numeral.read? 16 0xffffffff digits
  | '0' :: 'X' :: digits => Numeral.read? 16 0xffffffff digits
  | digits => Numeral.read? 10 0xffffffff digits

-- Blanks around the text do not count. Numbers above 24 bits are refused by their value,
-- and a text that is no number is refused with the value zero.
def ofText (text : String) : Except ProtocolError RgbColor :=
  match number? (trim text.toList) with
  | none => .error (.invalidValue .rgb 0)
  | some rgb =>
    if rgb ≤ 0xffffff then .ok (unpack rgb)
    else .error (.invalidValue .rgb (UInt32.ofNat rgb))

@[simp] theorem unpack_pack (color : RgbColor) : unpack color.pack = color := by
  obtain ⟨r, g, b⟩ := color
  have := r.toNat_lt
  have := g.toNat_lt
  have := b.toNat_lt
  simp only [unpack, pack, mk.injEq]
  refine ⟨?_, ?_, ?_⟩ <;> apply UInt8.toNat_inj.mp <;> simp <;> omega

end RgbColor

-- What a lamp shows. Brightness zero is off.
structure LedStatus where
  brightness : UInt8
  color : RgbColor
  deriving DecidableEq, Repr, Inhabited

namespace LedStatus

def isOn (status : LedStatus) : Bool := status.brightness != 0

def toBytes (status : LedStatus) : Bytes :=
  [status.brightness, status.color.red, status.color.green, status.color.blue]

def ofBytes? : Bytes → Option LedStatus
  | [brightness, red, green, blue] => some ⟨brightness, red, green, blue⟩
  | _ => none

@[simp] theorem length_toBytes (status : LedStatus) : status.toBytes.length = 4 := rfl

@[simp] theorem ofBytes?_toBytes (status : LedStatus) : ofBytes? status.toBytes = some status := rfl

end LedStatus
end BoardLink

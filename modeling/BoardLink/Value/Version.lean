import BoardLink.Bytes
import BoardLink.Text.Numeral

-- Firmware versions of four bytes, and their two written forms.
namespace BoardLink

open Text

structure FirmwareVersion where
  a : UInt8
  b : UInt8
  c : UInt8
  d : UInt8
  deriving DecidableEq, Repr, Inhabited

namespace FirmwareVersion

def toBytes (version : FirmwareVersion) : Bytes := [version.a, version.b, version.c, version.d]

def ofBytes? : Bytes → Option FirmwareVersion
  | [a, b, c, d] => some ⟨a, b, c, d⟩
  | _ => none

-- The four bytes as one big-endian number.
def toNat (version : FirmwareVersion) : Nat := BigEndian.decode version.toBytes

-- Upper-case hexadecimal groups without leading zeros, with a dot between them.
def dotted (version : FirmwareVersion) : String :=
  String.ofList (List.intercalate ['.'] (version.toBytes.map fun byte => Numeral.hexUpper byte.toNat))

-- One lower-case hexadecimal number without leading zeros.
def compact (version : FirmwareVersion) : String :=
  String.ofList (Numeral.hexLower version.toNat)

@[simp] theorem length_toBytes (version : FirmwareVersion) : version.toBytes.length = 4 := rfl

@[simp] theorem ofBytes?_toBytes (version : FirmwareVersion) :
    ofBytes? version.toBytes = some version := rfl

end FirmwareVersion
end BoardLink

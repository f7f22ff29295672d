import BoardLink.Opcode
import BoardLink.Text.Quoted

-- What can be wrong with a message or an argument, and how it is said.
namespace BoardLink

-- Arguments and reply fields whose value can be out of range.
inductive Field where
  | rgb
  | batteryConvention
  | led
  | gpioValue
  deriving DecidableEq, Repr

def Field.name : Field → String
  | .rgb => "rgb"
  | .batteryConvention => "battery_convention"
  | .led => "led"
  | .gpioValue => "gpio_value"

-- Why a text is no timestamp.
inductive TimestampFault where
  | textLength
  | missingSeparator
  | nonDigit
  | fieldWidth
  | notText
  deriving DecidableEq, Repr

def TimestampFault.message : TimestampFault → String
  | .textLength => "expected 22 characters"
  | .missingSeparator => "missing separator"
  | .nonDigit => "non-digit in numeric field"
  | .fieldWidth => "field width must be 23 bytes"
  | .notText => "not ASCII"

inductive ProtocolError where
  | invalidLength (opcode : Opcode) (expected actual : Nat)
  | tooShort (expected actual : Nat)
  | payloadTooLarge (length limit : Nat)
  | responseTooLong (length limit : Nat)
  | invalidOpcode (byte : UInt8)
  | unexpectedOpcode (expected actual : Opcode)
  | invalidValue (field : Field) (value : UInt32)
  | invalidTimestamp (text : String) (fault : TimestampFault)
  | unterminated
  deriving DecidableEq, Repr

namespace ProtocolError

open Text

-- Two upper-case digits after `0x`.
def hexByte (byte : UInt8) : String :=
  "0x" ++ String.ofList (Numeral.padLeft 2 '0' (Numeral.hexUpper byte.toNat))

def message : ProtocolError → String
  | .invalidLength opcode expected actual =>
    "Invalid payload length for " ++ opcode.label ++ ": expected " ++ toString expected ++
      ", got " ++ toString actual
  | .tooShort expected actual =>
    "Frame too short: need at least " ++ toString expected ++ " bytes, got " ++ toString actual
  | .payloadTooLarge length limit =>
    "Payload too large: " ++ toString length ++ " bytes (max " ++ toString limit ++ ")"
  | .responseTooLong length limit =>
    "Response too long: " ++ toString length ++ " bytes (max " ++ toString limit ++ ")"
  | .invalidOpcode byte => "Invalid opcode: " ++ hexByte byte
  | .unexpectedOpcode expected actual =>
    "Unexpected response opcode: expected " ++ expected.label ++ ", got " ++ actual.label
  | .invalidValue field value =>
    "Invalid value for field " ++ field.name ++ ": " ++ toString value.toNat
  | .invalidTimestamp text fault =>
    "Malformed RTC timestamp " ++ Quoted.render text ++ ": " ++ fault.message
  | .unterminated => "RTC timestamp field is not NUL-terminated"

end ProtocolError
end BoardLink

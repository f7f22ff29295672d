import BoardLink.ProtocolError
import BoardLink.Text.Characters

-- The health of the clock's battery. Firmware versions disagree on how a good battery is
-- reported, so the reading rule is chosen by the caller.
namespace BoardLink

open Text

inductive BatteryHealth where
  | good
  | lowOrAbsent
  deriving DecidableEq, Repr

namespace BatteryHealth

def isGood : BatteryHealth → Bool
  | .good => true
  | .lowOrAbsent => false

def text : BatteryHealth → String
  | .good => "Good"
  | .lowOrAbsent => "Low or not present"

def label : BatteryHealth → String
  | .good => "Good"
  | .lowOrAbsent => "LowOrAbsent"

end BatteryHealth

inductive BatteryConvention where
  | payloadNonZero
  | statusPositive
  deriving DecidableEq, Repr, Inhabited

namespace BatteryConvention

def name : BatteryConvention → String
  | .payloadNonZero => "payload_non_zero"
  | .statusPositive => "status_positive"

def label : BatteryConvention → String
  | .payloadNonZero => "PayloadNonZero"
  | .statusPositive => "StatusPositive"

-- The verdict on a reply that reports no error.
def evaluate (convention : BatteryConvention) (status : Int32) (state : UInt8) : BatteryHealth :=
  let good := match convention with
    | .payloadNonZero => state != 0
    | .statusPositive => 0 < status
  if good then .good else .lowOrAbsent

-- The full name exactly, as stored settings hold it.
def ofName? (name : String) : Option BatteryConvention :=
  if name = "payload_non_zero" then some .payloadNonZero
  else if name = "status_positive" then some .statusPositive
  else none

-- The full name or its first word, with any blanks around it.
def ofText (text : String) : Except ProtocolError BatteryConvention :=
  let word := String.ofList (trim text.toList)
  if word = "payload_non_zero" ∨ word = "payload" then .ok .payloadNonZero
  else if word = "status_positive" ∨ word = "status" then .ok .statusPositive
  else .error (.invalidValue .batteryConvention 0)

end BatteryConvention
end BoardLink

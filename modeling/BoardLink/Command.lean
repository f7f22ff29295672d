import BoardLink.Message
import BoardLink.Value.Battery
import BoardLink.Value.Color
import BoardLink.Value.Power
import BoardLink.Value.Timestamp
import BoardLink.Value.Version

-- The requests a client can make, each with the type of its answer.
namespace BoardLink

inductive Command where
  | mcuVersion
  | fpgaVersion
  | voltage (channel : UInt8)
  | ledStatus (led : UInt8)
  | setLed (led brightness : UInt8) (color : RgbColor)
  | powerThreshold
  | setPowerThreshold (threshold : PowerThreshold)
  | powerOnReason
  | powerOff (waitSeconds : UInt32)
  | clock
  | setClock (text : String)
  | calibration
  | setCalibration (registers : CalibrationRegisters)
  | clockRegister (address : UInt8)
  | setClockRegister (address value : UInt8)
  | setPin (pin : UInt16) (high : Bool)
  | pinState (pin : UInt16)
  | battery (convention : BatteryConvention)
  deriving DecidableEq, Repr

namespace Command

-- A time given by its fields is sent by its text.
def setTime (time : Timestamp) : Command := .setClock time.text

-- What an accepted reply means. Commands that only write are answered by `Unit`.
abbrev Answer : Command → Type
  | .mcuVersion => FirmwareVersion
  | .fpgaVersion => FirmwareVersion
  | .voltage _ => UInt32
  | .ledStatus _ => LedStatus
  | .setLed .. => Unit
  | .powerThreshold => PowerThreshold
  | .setPowerThreshold _ => Unit
  | .powerOnReason => PowerOnReason
  | .powerOff _ => Unit
  | .clock => Timestamp
  | .setClock _ => Unit
  | .calibration => CalibrationRegisters
  | .setCalibration _ => Unit
  | .clockRegister _ => UInt8
  | .setClockRegister .. => Unit
  | .setPin .. => Unit
  | .pinState _ => Bool
  | .battery _ => BatteryHealth

def opcode : Command → Opcode
  | .mcuVersion => .getMcuVersion
  | .fpgaVersion => .getFpgaVersion
  | .voltage _ => .getAdcOrGpiVoltage
  | .ledStatus _ => .getLedStatus
  | .setLed .. => .setLedValue
  | .powerThreshold => .getPowerOnThresholdConfig
  | .setPowerThreshold _ => .setPowerOnThresholdConfig
  | .powerOnReason => .getPowerOnReason
  | .powerOff _ => .setDevicePowerOff
  | .clock => .getRtcDateTime
  | .setClock _ => .setRtcDateTime
  | .calibration => .getRtcCalibrationRegisters
  | .setCalibration _ => .setRtcCalibrationRegisters
  | .clockRegister _ => .getRtcDebugRegister
  | .setClockRegister .. => .setRtcDebugRegister
  | .setPin .. => .setGpioDebugState
  | .pinState _ => .getGpioDebugState
  | .battery _ => .checkRtcBattery

-- Writing a lamp takes the lamp lock. Nothing else does.
def isExclusive : Command → Bool
  | .setLed .. => true
  | _ => false

-- The board has no code behind these four, so they are refused before anything is sent.
def isImplemented : Command → Bool
  | .setPowerThreshold _ | .setCalibration _ | .clockRegister _ | .setClockRegister .. => false
  | _ => true

-- The text of a new time is the only argument that is looked at before sending.
def validate : Command → Except ProtocolError Unit
  | .setClock text =>
    match Timestamp.ofText text with
    | .error fault => .error fault
    | .ok _ => .ok ()
  | _ => .ok ()

def payload : Command → Bytes
  | .voltage channel => [channel]
  | .ledStatus led => [led]
  | .setLed led brightness color => [led, brightness, color.red, color.green, color.blue]
  | .setPowerThreshold threshold => threshold.toBytes
  | .powerOff waitSeconds => BigEndian.encode 4 waitSeconds.toNat
  | .setClock text => Timestamp.field text
  | .setCalibration registers => registers.toBytes
  | .clockRegister address => [address]
  | .setClockRegister address value => [address, value]
  | .setPin pin high => BigEndian.encode 2 pin.toNat ++ [high.toUInt8]
  | .pinState pin => BigEndian.encode 2 pin.toNat
  | _ => []

def request (command : Command) : Request := ⟨command.opcode, command.payload⟩

@[simp] theorem request_opcode (command : Command) : command.request.opcode = command.opcode := rfl

@[simp] theorem request_payload (command : Command) :
    command.request.payload = command.payload := rfl

-- A payload of one exact length.
def expecting {α : Type} (opcode : Opcode) (payload : Bytes) (value : Option α) :
    Except ProtocolError α :=
  match value with
  | some value => .ok value
  | none => .error (.invalidLength opcode opcode.replyLength payload.length)

def nothing? : Bytes → Option Unit
  | [] => some ()
  | _ => none

def byte? : Bytes → Option UInt8
  | [byte] => some byte
  | _ => none

def word? (payload : Bytes) : Option UInt32 :=
  if payload.length = 4 then some (UInt32.ofNat (BigEndian.decode payload)) else none

-- The meaning of a payload that came with a status of zero or more.
-- Its length is looked at first, then its content.
def decode (status : Int32) (payload : Bytes) :
    (command : Command) → Except ProtocolError command.Answer
  | .mcuVersion => expecting .getMcuVersion payload (FirmwareVersion.ofBytes? payload)
  | .fpgaVersion => expecting .getFpgaVersion payload (FirmwareVersion.ofBytes? payload)
  | .voltage _ => expecting .getAdcOrGpiVoltage payload (word? payload)
  | .ledStatus _ => expecting .getLedStatus payload (LedStatus.ofBytes? payload)
  | .setLed .. => expecting .setLedValue payload (nothing? payload)
  | .powerThreshold => expecting .getPowerOnThresholdConfig payload (PowerThreshold.ofBytes? payload)
  | .setPowerThreshold _ => expecting .setPowerOnThresholdConfig payload (nothing? payload)
  | .powerOnReason => expecting .getPowerOnReason payload ((byte? payload).map PowerOnReason.mk)
  | .powerOff _ => expecting .setDevicePowerOff payload (nothing? payload)
  | .clock =>
    if payload.length = Timestamp.fieldLength then Timestamp.ofWire payload
    else .error (.invalidLength .getRtcDateTime Timestamp.fieldLength payload.length)
  | .setClock _ => expecting .setRtcDateTime payload (nothing? payload)
  | .calibration => expecting .getRtcCalibrationRegisters payload (CalibrationRegisters.ofBytes? payload)
  | .setCalibration _ => expecting .setRtcCalibrationRegisters payload (nothing? payload)
  | .clockRegister _ => expecting .getRtcDebugRegister payload (byte? payload)
  | .setClockRegister .. => expecting .setRtcDebugRegister payload (nothing? payload)
  | .setPin .. => expecting .setGpioDebugState payload (nothing? payload)
  | .pinState _ =>
    match payload with
    | [0] => .ok false
    | [1] => .ok true
    | [other] => .error (.invalidValue .gpioValue other.toUInt32)
    | _ => .error (.invalidLength .getGpioDebugState 1 payload.length)
  | .battery convention =>
    expecting .checkRtcBattery payload ((byte? payload).map (convention.evaluate status))

end Command
end BoardLink

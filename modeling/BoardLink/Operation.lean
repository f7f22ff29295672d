import BoardLink.Command

-- Requests chosen at run time, and the one type that holds every answer.
namespace BoardLink

open Text

-- Unlike a command, an operation takes the pin and its level as plain numbers and does not
-- say how the battery is judged.
inductive Operation where
  | mcuVersion
  | fpgaVersion
  | voltage (channel : UInt8)
  | ledStatus (led : UInt8)
  | setLed (led brightness : UInt8) (color : RgbColor)
  | powerThreshold
  | setPowerThreshold (threshold : PowerThreshold)
  | powerOnReason
  | powerOff (waitSeconds : UInt32)
  | clock
  | setClock (text : String)
  | calibration
  | setCalibration (registers : CalibrationRegisters)
  | clockRegister (address : UInt8)
  | setClockRegister (address value : UInt8)
  | setPin (pin value : UInt32)
  | pinState (pin : UInt32)
  | battery
  deriving DecidableEq, Repr

-- Pins have sixteen bits on the wire.
def maskPin (pin : UInt32) : UInt16 := pin.toUInt16

-- The level of a pin is the lowest bit of a number.
def maskLevel (value : UInt32) : Bool := value.toNat % 2 = 1

namespace Operation

def opcode : Operation → Opcode
  | .mcuVersion => .getMcuVersion
  | .fpgaVersion => .getFpgaVersion
  | .voltage _ => .getAdcOrGpiVoltage
  | .ledStatus _ => .getLedStatus
  | .setLed .. => .setLedValue
  | .powerThreshold => .getPowerOnThresholdConfig
  | .setPowerThreshold _ => .setPowerOnThresholdConfig
  | .powerOnReason => .getPowerOnReason
  | .powerOff _ => .setDevicePowerOff
  | .clock => .getRtcDateTime
  | .setClock _ => .setRtcDateTime
  | .calibration => .getRtcCalibrationRegisters
  | .setCalibration _ => .setRtcCalibrationRegisters
  | .clockRegister _ => .getRtcDebugRegister
  | .setClockRegister .. => .setRtcDebugRegister
  | .setPin .. => .setGpioDebugState
  | .pinState _ => .getGpioDebugState
  | .battery => .checkRtcBattery

def isExclusive : Operation → Bool
  | .setLed .. => true
  | _ => false

def isImplemented : Operation → Bool
  | .setPowerThreshold _ | .setCalibration _ | .clockRegister _ | .setClockRegister .. => false
  | _ => true

def text (operation : Operation) : String := operation.opcode.name

-- A lamp's colour as one number. Only its lowest 24 bits count.
def setLedRgb (led brightness : UInt8) (rgb : UInt32) : Operation :=
  .setLed led brightness (RgbColor.unpack rgb.toNat)

-- The command that carries an operation out. Pins and levels are cut to their width here.
abbrev command (convention : BatteryConvention) : Operation → Command
  | .mcuVersion => .mcuVersion
  | .fpgaVersion => .fpgaVersion
  | .voltage channel => .voltage channel
  | .ledStatus led => .ledStatus led
  | .setLed led brightness color => .setLed led brightness color
  | .powerThreshold => .powerThreshold
  | .setPowerThreshold threshold => .setPowerThreshold threshold
  | .powerOnReason => .powerOnReason
  | .powerOff waitSeconds => .powerOff waitSeconds
  | .clock => .clock
  | .setClock text => .setClock text
  | .calibration => .calibration
  | .setCalibration registers => .setCalibration registers
  | .clockRegister address => .clockRegister address
  | .setClockRegister address value => .setClockRegister address value
  | .setPin pin value => .setPin (maskPin pin) (maskLevel value)
  | .pinState pin => .pinState (maskPin pin)
  | .battery => .battery convention

end Operation

inductive Reply where
  | mcuVersion (version : FirmwareVersion)
  | fpgaVersion (version : FirmwareVersion)
  | voltage (millivolts : UInt32)
  | ledStatus (status : LedStatus)
  | done
  | powerThreshold (threshold : PowerThreshold)
  | powerOnReason (reason : PowerOnReason)
  | clock (time : Timestamp)
  | calibration (registers : CalibrationRegisters)
  | clockRegister (value : UInt8)
  | pinState (high : Bool)
  | battery (health : BatteryHealth)
  deriving DecidableEq, Repr

namespace Reply

def kind : Reply → String
  | .mcuVersion _ => "McuVersion"
  | .fpgaVersion _ => "FpgaVersion"
  | .voltage _ => "Voltage"
  | .ledStatus _ => "LedStatus"
  | .done => "Done"
  | .powerThreshold _ => "PowerThresholdConfig"
  | .powerOnReason _ => "PowerOnReason"
  | .clock _ => "RtcDateTime"
  | .calibration _ => "RtcCalibration"
  | .clockRegister _ => "RtcDebugRegister"
  | .pinState _ => "GpioState"
  | .battery _ => "RtcBattery"

def text : Reply → String
  | .mcuVersion version | .fpgaVersion version => version.dotted
  | .voltage millivolts => toString millivolts.toNat ++ " mV"
  | .ledStatus status =>
    "brightness=" ++ toString status.brightness.toNat ++ " color=" ++ status.color.text
  | .done => "ok"
  | .powerThreshold threshold =>
    "wiggle_count=" ++ toString threshold.wiggleCount.toNat ++
      " wiggle_count_sample_period_ms=" ++ toString threshold.samplePeriodMs.toNat ++
      " ignition_threshold_mv=" ++ toString threshold.ignitionMv.toNat
  | .powerOnReason reason => ProtocolError.hexByte reason.raw
  | .clock time => time.text
  | .calibration registers =>
    "digital=" ++ toString registers.digital.toNat ++ " analog=" ++ toString registers.analog.toNat
  | .clockRegister value => ProtocolError.hexByte value
  | .pinState high => if high then "1" else "0"
  | .battery health => health.text

-- Each command has one kind of reply.
def ofAnswer : (command : Command) → command.Answer → Reply
  | .mcuVersion => .mcuVersion
  | .fpgaVersion => .fpgaVersion
  | .voltage _ => .voltage
  | .ledStatus _ => .ledStatus
  | .setLed .. => fun _ => .done
  | .powerThreshold => .powerThreshold
  | .setPowerThreshold _ => fun _ => .done
  | .powerOnReason => .powerOnReason
  | .powerOff _ => fun _ => .done
  | .clock => .clock
  | .setClock _ => fun _ => .done
  | .calibration => .calibration
  | .setCalibration _ => fun _ => .done
  | .clockRegister _ => .clockRegister
  | .setClockRegister .. => fun _ => .done
  | .setPin .. => fun _ => .done
  | .pinState _ => .pinState
  | .battery _ => .battery

end Reply
end BoardLink

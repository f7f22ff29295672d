import BoardLink.Hardware

-- The board for direct callers, call by call. Each has its arguments as callers give them: channels
-- and lamps by name or by number, a colour as one number, pins and levels as plain numbers.
namespace BoardLink.Hardware

inductive Method where
  | mcuVersion
  | fpgaVersion
  | voltage (channel : AdcChannel)
  | voltageRaw (channel : UInt8)
  | ledStatus (led : UInt8)
  | setLed (led brightness : UInt8) (rgb : UInt32)
  | setLedId (led : LedId) (brightness : UInt8) (rgb : UInt32)
  | powerThreshold
  | setPowerThreshold (threshold : PowerThreshold)
  | powerOnReason
  | powerOff (waitSeconds : UInt32)
  | clock
  | setClock (text : String)
  | calibration
  | setCalibration (registers : CalibrationRegisters)
  | clockRegister (address : UInt8)
  | setClockRegister (address value : UInt8)
  | battery
  | pinState (pin : UInt32)
  | setPin (pin value : UInt32)
  | busPower
  | setBusPower (enable : Bool)
  deriving DecidableEq, Repr

namespace Method

-- The arguments that can be out of range. Channels are not looked at, that is for the board.
def check : Method → Except ProtocolError Unit
  | .ledStatus led | .setLed led .. => checkLed led
  | .setLedId led .. => checkLed led.toByte
  | .setPin _ value => checkLevel value
  | .setBusPower enable => checkLevel enable.toUInt32
  | _ => .ok ()

-- The command that a method carries out. Colours are unpacked here, and pins and levels are cut
-- to their width.
abbrev command (convention : BatteryConvention) : Method → Command
  | .mcuVersion => .mcuVersion
  | .fpgaVersion => .fpgaVersion
  | .voltage channel => .voltage channel.toByte
  | .voltageRaw channel => .voltage channel
  | .ledStatus led => .ledStatus led
  | .setLed led brightness rgb => .setLed led brightness (RgbColor.unpack rgb.toNat)
  | .setLedId led brightness rgb => .setLed led.toByte brightness (RgbColor.unpack rgb.toNat)
  | .powerThreshold => .powerThreshold
  | .setPowerThreshold threshold => .setPowerThreshold threshold
  | .powerOnReason => .powerOnReason
  | .powerOff waitSeconds => .powerOff waitSeconds
  | .clock => .clock
  | .setClock text => .setClock text
  | .calibration => .calibration
  | .setCalibration registers => .setCalibration registers
  | .clockRegister address => .clockRegister address
  | .setClockRegister address value => .setClockRegister address value
  | .battery => .battery convention
  | .pinState pin => .pinState (maskPin pin)
  | .setPin pin value => .setPin (maskPin pin) (maskLevel value)
  | .busPower => .pinState (maskPin busPowerPin)
  | .setBusPower enable => .setPin (maskPin busPowerPin) (maskLevel enable.toUInt32)

-- The method for an operation, with the colour packed again.
abbrev ofOperation : Operation → Method
  | .mcuVersion => .mcuVersion
  | .fpgaVersion => .fpgaVersion
  | .voltage channel => .voltageRaw channel
  | .ledStatus led => .ledStatus led
  | .setLed led brightness color => .setLed led brightness (UInt32.ofNat color.pack)
  | .powerThreshold => .powerThreshold
  | .setPowerThreshold threshold => .setPowerThreshold threshold
  | .powerOnReason => .powerOnReason
  | .powerOff waitSeconds => .powerOff waitSeconds
  | .clock => .clock
  | .setClock text => .setClock text
  | .calibration => .calibration
  | .setCalibration registers => .setCalibration registers
  | .clockRegister address => .clockRegister address
  | .setClockRegister address value => .setClockRegister address value
  | .battery => .battery
  | .pinState pin => .pinState pin
  | .setPin pin value => .setPin pin value

variable {σ κ : Type}

-- Make one call. A bad argument is an error without a log line, and nothing is sent.
def run (executor : Executor σ κ) (method : Method) (s : σ) :
    Outcome (Except CommandError (method.command executor.convention).Answer) × σ :=
  match method.check with
  | .error fault => (.finished (.error (.decode fault)), s)
  | .ok () => call executor (method.command executor.convention) s

end Method

variable {σ κ : Type}

-- The voltages of the given channels in order. A failed reading does not stop the next one.
def readings (executor : Executor σ κ) : List AdcChannel → σ →
    Outcome (List (AdcChannel × Except CommandError UInt32)) × σ
  | [], s => (.finished [], s)
  | channel :: rest, s =>
    match (Method.voltage channel).run executor s with
    | (.crashed, s) => (.crashed, s)
    | (.finished reading, s) =>
      let (others, s) := readings executor rest s
      (others.map ((channel, reading) :: ·), s)

def allReadings (executor : Executor σ κ) (s : σ) :
    Outcome (List (AdcChannel × Except CommandError UInt32)) × σ :=
  readings executor AdcChannel.all s

end BoardLink.Hardware

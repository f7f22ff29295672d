import BoardLink.CommandError

-- A model of the board: its registers and how it answers each request.
namespace BoardLink

-- Pins and scripts are lists of entries, and the entry nearest the front counts.
structure Device where
  mcuVersion : FirmwareVersion
  fpgaVersion : FirmwareVersion
  voltages : List UInt32
  leds : List LedStatus
  threshold : PowerThreshold
  powerOnReason : UInt8
  powerOffWait : Option UInt32
  clock : Timestamp
  calibration : CalibrationRegisters
  pins : List (UInt16 × Bool)
  batteryState : UInt8
  scripts : List (Opcode × Response)
  deriving DecidableEq, Repr

namespace Device

def initial : Device where
  mcuVersion := ⟨0x0a, 2, 3, 0⟩
  fpgaVersion := ⟨0x41, 0, 0, 2⟩
  voltages := [12000, 0, 0, 0, 0, 0, 0, 0, 12100, 4800, 2500, 1000]
  leds := [default, default, default]
  threshold := ⟨5, 500, 8000⟩
  powerOnReason := 1
  powerOffWait := none
  clock := ⟨2016, 3, 29, 19, 9, 6, 58⟩
  calibration := ⟨0x10, 0x20⟩
  pins := []
  batteryState := 1
  scripts := []

-- A channel that does not exist has no voltage to set.
def setVoltage (device : Device) (channel : Nat) (millivolts : UInt32) : Device :=
  { device with voltages := device.voltages.set channel millivolts }

def script (device : Device) (opcode : Opcode) (response : Response) : Device :=
  { device with scripts := (opcode, response) :: device.scripts.filter (·.1 ≠ opcode) }

def clearScript (device : Device) (opcode : Opcode) : Device :=
  { device with scripts := device.scripts.filter (·.1 ≠ opcode) }

def led? (device : Device) (led : Nat) : Option LedStatus := device.leds[led]?

-- Pins that were never written are low.
def pin (device : Device) (pin : UInt16) : Bool := (device.pins.lookup pin).getD false

def setPin (device : Device) (pin : UInt16) (high : Bool) : Device :=
  { device with pins := (pin, high) :: device.pins.filter (·.1 ≠ pin) }

-- The status of a refused request.
def rejected : Int32 := -1

def pinOfBytes (high low : UInt8) : UInt16 := UInt16.ofNat (BigEndian.decode [high, low])

-- The answer to a request and the board after it. A refused request changes nothing.
def respond (device : Device) (request : Request) : Response × Device :=
  let opcode := request.opcode
  let reject := (Response.failure opcode rejected, device)
  let accept (payload : Bytes) := (Response.success opcode payload, device)
  let accepted (device : Device) := (Response.success opcode [], device)
  match opcode, request.payload with
  | .getMcuVersion, [] => accept device.mcuVersion.toBytes
  | .getFpgaVersion, [] => accept device.fpgaVersion.toBytes
  | .getAdcOrGpiVoltage, [channel] =>
    match device.voltages[channel.toNat]? with
    | some millivolts => accept (BigEndian.encode 4 millivolts.toNat)
    | none => reject
  | .setLedValue, [led, brightness, red, green, blue] =>
    if led.toNat < device.leds.length then
      accepted { device with leds := device.leds.set led.toNat ⟨brightness, red, green, blue⟩ }
    else reject
  | .getLedStatus, [led] =>
    match device.led? led.toNat with
    | some status => accept status.toBytes
    | none => reject
  | .getPowerOnThresholdConfig, [] => accept device.threshold.toBytes
  | .getPowerOnReason, [] => accept [device.powerOnReason]
  | .setDevicePowerOff, [a, b, c, d] =>
    accepted { device with powerOffWait := some (UInt32.ofNat (BigEndian.decode [a, b, c, d])) }
  | .getRtcDateTime, [] => accept device.clock.toWire
  | .setRtcDateTime, field =>
    match Timestamp.ofWire field with
    | .ok clock => accepted { device with clock }
    | .error _ => reject
  | .getRtcCalibrationRegisters, [] => accept device.calibration.toBytes
  | .setGpioDebugState, [high, low, value] =>
    if value ≤ 1 then accepted (device.setPin (pinOfBytes high low) (value = 1)) else reject
  | .getGpioDebugState, [high, low] => accept [(device.pin (pinOfBytes high low)).toUInt8]
  -- Status and payload both tell the state, so that either way of reading it works.
  | .checkRtcBattery, [] =>
    (⟨opcode, if device.batteryState = 0 then 0 else 1, [device.batteryState]⟩, device)
  | _, _ => reject

-- A scripted answer is given as it is, without looking at the rest of the request.
def handle (device : Device) (body : Bytes) : Except TransportError Bytes × Device :=
  match Request.ofBytes body with
  | .error fault => (.error (.invalidResponse fault.message), device)
  | .ok request =>
    match device.scripts.lookup request.opcode with
    | some response => (.ok response.toBytes, device)
    | none =>
      let (response, device) := device.respond request
      (.ok response.toBytes, device)

end Device
end BoardLink

import BoardLink.Hardware.Method

-- The board for callers that cannot be handed an error: methods give a plain value, which is
-- zero or empty on failure, and the outcome goes to a slot that is read afterwards.
namespace BoardLink.StatusSlot

inductive Method where
  | mcuVersion
  | fpgaVersion
  | voltage (channel : AdcChannel)
  | ledStatus (led : UInt8)
  | setLed (led brightness : UInt8) (rgb : UInt32)
  | powerThreshold
  | powerOnReason
  | powerOff (waitSeconds : UInt32)
  | clock
  | setClock (text : String)
  | calibration
  | batteryGood
  | pinState (pin : UInt32)
  | setPin (pin value : UInt32)
  deriving DecidableEq, Repr

namespace Method

-- The command that a method carries out. Colours are unpacked here, and pins and levels are cut
-- to their width.
abbrev command (convention : BatteryConvention) : Method → Command
  | .mcuVersion => .mcuVersion
  | .fpgaVersion => .fpgaVersion
  | .voltage channel => .voltage channel.toByte
  | .ledStatus led => .ledStatus led
  | .setLed led brightness rgb => .setLed led brightness (RgbColor.unpack rgb.toNat)
  | .powerThreshold => .powerThreshold
  | .powerOnReason => .powerOnReason
  | .powerOff waitSeconds => .powerOff waitSeconds
  | .clock => .clock
  | .setClock text => .setClock text
  | .calibration => .calibration
  | .batteryGood => .battery convention
  | .pinState pin => .pinState (maskPin pin)
  | .setPin pin value => .setPin (maskPin pin) (maskLevel value)

-- The arguments that can be out of range. Lamps have the same numbers as for direct callers.
def check : Method → Except ProtocolError Unit
  | .ledStatus led | .setLed led .. =>
    if Hardware.maxLed < led then .error (.invalidValue .led led.toUInt32) else .ok ()
  | .setPin _ value => if 1 < value then .error (.invalidValue .gpioValue value) else .ok ()
  | _ => .ok ()

-- The method for the same call by a direct caller. Some have none.
def ofDirect? : Hardware.Method → Option Method
  | .mcuVersion => some .mcuVersion
  | .fpgaVersion => some .fpgaVersion
  | .voltage channel => some (.voltage channel)
  | .ledStatus led => some (.ledStatus led)
  | .setLed led brightness rgb => some (.setLed led brightness rgb)
  | .powerThreshold => some .powerThreshold
  | .powerOnReason => some .powerOnReason
  | .powerOff waitSeconds => some (.powerOff waitSeconds)
  | .clock => some .clock
  | .setClock text => some (.setClock text)
  | .calibration => some .calibration
  | .battery => some .batteryGood
  | .pinState pin => some (.pinState pin)
  | .setPin pin value => some (.setPin pin value)
  | .voltageRaw _ | .setLedId .. | .setPowerThreshold _ | .setCalibration _ | .clockRegister _
  | .setClockRegister .. | .busPower | .setBusPower _ => none

-- Methods that only write give their status as a number.
abbrev Value : Method → Type
  | .mcuVersion => String
  | .fpgaVersion => String
  | .voltage _ => UInt32
  | .ledStatus _ => LedStatus
  | .setLed .. => Int32
  | .powerThreshold => PowerThreshold
  | .powerOnReason => UInt8
  | .powerOff _ => Int32
  | .clock => String
  | .setClock _ => Int32
  | .calibration => CalibrationRegisters
  | .batteryGood => Bool
  | .pinState _ => Bool
  | .setPin .. => Int32

end Method

-- What a finished call writes into the slot.
def outcome {α : Type} : Except CommandError (Completed α) → LastStatus
  | .ok completed => .ok completed.status
  | .error error => .ofError error

-- The answer in plain form, or the zero of its type.
def value {α β : Type} (zero : β) (plain : α → β) : Except CommandError (Completed α) → β
  | .ok completed => plain completed.value
  | .error _ => zero

-- One number for the outcome of this very call.
def status {α : Type} (result : Except CommandError (Completed α)) : Int32 := (outcome result).code

def Method.plain (convention : BatteryConvention) : (method : Method) →
    Except CommandError (Completed (method.command convention).Answer) → method.Value
  | .mcuVersion => value "" FirmwareVersion.dotted
  | .fpgaVersion => value "" FirmwareVersion.compact
  | .voltage _ => value 0 id
  | .ledStatus _ => value default id
  | .setLed .. => status
  | .powerThreshold => value default id
  | .powerOnReason => value 0 PowerOnReason.raw
  | .powerOff _ => status
  | .clock => value "" Timestamp.text
  | .setClock _ => status
  | .calibration => value default id
  | .batteryGood => value false BatteryHealth.isGood
  | .pinState _ => value false id
  | .setPin .. => status

variable {σ κ : Type}

-- The latest outcome beside the state of the link.
structure State (σ : Type) where
  last : LastStatus
  link : σ

def settledLine {α : Type} (opcode : Opcode) : Except CommandError (Completed α) → Log.Line
  | .ok completed =>
    ⟨.debug, "mctl_client::status_slot",
      opcode.name ++ " success (status " ++ toString completed.status.toInt ++ ")"⟩
  | .error error =>
    ⟨.error, "mctl_client::status_slot", opcode.name ++ " failed: " ++ error.message⟩

-- A bad argument counts as a call that failed, though nothing is sent.
def attempt (executor : Executor σ κ) (method : Method) (s : σ) :
    Outcome (Executor.Result (method.command executor.convention)) × σ :=
  match method.check with
  | .error fault => (.finished (.error (.decode fault)), s)
  | .ok () => executor.execute (method.command executor.convention) s

-- Make a call, log it, and write its outcome into the slot. A call that broke down leaves the
-- slot as it was.
def run (executor : Executor σ κ) (method : Method) (state : State σ) :
    Outcome method.Value × State σ :=
  match attempt executor method state.link with
  | (.crashed, link) => (.crashed, { state with link })
  | (.finished result, link) =>
    (.finished (method.plain executor.convention result),
      ⟨outcome result,
        executor.log (settledLine (method.command executor.convention).opcode result) link⟩)

end BoardLink.StatusSlot

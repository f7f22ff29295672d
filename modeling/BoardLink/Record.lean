import BoardLink.Command

-- How answers are written in log lines: the name of a type with its named parts.
namespace BoardLink.Record

open Text

-- A name, and the parts between braces with commas between them.
def render (name : String) (parts : List (String × String)) : String :=
  name ++ " \x7b " ++ String.intercalate ", " (parts.map fun part => part.1 ++ ": " ++ part.2) ++
    " \x7d"

def bool (b : Bool) : String := if b then "true" else "false"

def version (version : FirmwareVersion) : String :=
  "FirmwareVersion([" ++
    String.intercalate ", " (version.toBytes.map fun byte => toString byte.toNat) ++ "])"

def color (color : RgbColor) : String :=
  render "RgbColor" [("red", toString color.red.toNat), ("green", toString color.green.toNat),
    ("blue", toString color.blue.toNat)]

def led (status : LedStatus) : String :=
  render "LedStatus" [("brightness", toString status.brightness.toNat), ("color", color status.color)]

def threshold (threshold : PowerThreshold) : String :=
  render "PowerThresholdConfig" [
    ("wiggle_count", toString threshold.wiggleCount.toNat),
    ("wiggle_count_sample_period_ms", toString threshold.samplePeriodMs.toNat),
    ("ignition_threshold_mv", toString threshold.ignitionMv.toNat)]

def reason (reason : PowerOnReason) : String :=
  render "PowerOnReason" [
    ("ignition_trigger", bool reason.ignition), ("wiggle_trigger", bool reason.wiggle),
    ("arm_lockup", bool reason.armLockup), ("watchdog_reset", bool reason.watchdog),
    ("reserved_i", toString reason.reserved)]

def time (time : Timestamp) : String :=
  render "RtcTimestamp" [
    ("year", toString time.year.toNat), ("month", toString time.month.toNat),
    ("day", toString time.day.toNat), ("hour", toString time.hour.toNat),
    ("minute", toString time.minute.toNat), ("second", toString time.second.toNat),
    ("fraction", toString time.fraction.toNat)]

def calibration (registers : CalibrationRegisters) : String :=
  render "CalibrationRegisters" [
    ("digital", toString registers.digital.toNat), ("analog", toString registers.analog.toNat)]

def answer : (command : Command) → command.Answer → String
  | .mcuVersion => version
  | .fpgaVersion => version
  | .voltage _ => fun millivolts => toString millivolts.toNat
  | .ledStatus _ => led
  | .setLed .. => fun _ => "()"
  | .powerThreshold => threshold
  | .setPowerThreshold _ => fun _ => "()"
  | .powerOnReason => reason
  | .powerOff _ => fun _ => "()"
  | .clock => time
  | .setClock _ => fun _ => "()"
  | .calibration => calibration
  | .setCalibration _ => fun _ => "()"
  | .clockRegister _ => fun value => toString value.toNat
  | .setClockRegister .. => fun _ => "()"
  | .setPin .. => fun _ => "()"
  | .pinState _ => bool
  | .battery _ => BatteryHealth.label

end BoardLink.Record

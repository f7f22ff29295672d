import BoardLink.Channel
import BoardLink.CommandError
import BoardLink.DigitalInputs
import BoardLink.Operation
import BoardLink.Settings.Reach
import BoardLink.Settings.Stored

-- What a run of the program prints, and why it may fail.
namespace BoardLink

open Text

-- What an operation is for, as it is told to the user.
def Operation.purpose : Operation → String
  | .mcuVersion => "read MCU version"
  | .fpgaVersion => "read FPGA version"
  | .voltage channel =>
    "read " ++ match AdcChannel.ofByte? channel with
      | some channel => channel.name
      | none => "channel " ++ toString channel.toNat
  | .ledStatus led => "read LED " ++ toString led.toNat
  | .setLed led .. => "set LED " ++ toString led.toNat
  | .powerThreshold => "read power-on threshold"
  | .setPowerThreshold _ => "set power-on threshold"
  | .powerOnReason => "read power-on reason"
  | .powerOff _ => "request power off"
  | .clock => "read RTC"
  | .setClock _ => "set RTC"
  | .calibration => "read RTC calibration"
  | .setCalibration _ => "set RTC calibration"
  | .clockRegister _ => "read RTC register"
  | .setClockRegister .. => "set RTC register"
  | .setPin pin _ => "set GPIO " ++ toString pin.toNat
  | .pinState pin => "read GPIO " ++ toString pin.toNat
  | .battery => "check RTC battery"

inductive Failure where
  | noConfigDirectory
  | store (error : Settings.StoreError)
  | settings (error : SettingsError)
  | reach (error : ReachError)
  | call (operation : Operation) (error : CommandError)
  | input (error : InputError)
  | channels (count : Nat)
  | inputs (count : Nat)
  deriving DecidableEq, Repr

-- What was being done and then the causes, the nearest first.
-- A fault in a reply is named twice, once as a failed call and once alone.
def Failure.messages : Failure → List String
  | .noConfigDirectory => ["Cannot determine config directory"]
  | .store error => error.messages
  | .settings error => error.messages
  | .reach error => ["Invalid endpoint configuration", error.message]
  | .call operation error =>
    ["Failed to " ++ operation.purpose, error.message] ++
      match error with
      | .decode fault => [fault.message]
      | _ => []
  | .input error => error.messages
  | .channels count => [toString count ++ " channel(s) failed"]
  | .inputs count => [toString count ++ " input(s) failed"]

inductive Ending where
  | success
  | failure (reason : Failure)
  | crash
  deriving DecidableEq, Repr

-- Lines for the user, lines about parts that went wrong, and how the run ended.
structure Report where
  output : List String
  complaints : List String
  ending : Ending
  deriving DecidableEq, Repr

namespace Report

def success (output : List String) : Report := ⟨output, [], .success⟩

def failure (reason : Failure) : Report := ⟨[], [], .failure reason⟩

def crash : Report := ⟨[], [], .crash⟩

def exitCode (report : Report) : UInt32 :=
  match report.ending with
  | .success => 0
  | .failure _ => 1
  | .crash => 101

-- The lines of a cause under its heading. Lines after the first stand below its beginning.
def indented (heading : List Char) (cause : String) : List String :=
  let blanks := List.replicate heading.length ' '
  match pieces '\n' cause.toList with
  | [] => []
  | first :: rest =>
    String.ofList (heading ++ first) :: rest.map fun line => String.ofList (blanks ++ line)

-- Causes are numbered from zero on if there are several.
def causeLines : List String → List String
  | [] => []
  | [cause] => ["", "Caused by:"] ++ indented (List.replicate 4 ' ') cause
  | causes =>
    ["", "Caused by:"] ++ (causes.zipIdx.flatMap fun (cause, number) =>
      indented (Numeral.padLeft 5 ' ' (Numeral.decimal number) ++ [':', ' ']) cause)

def errorLines : List String → List String
  | [] => []
  | message :: causes => ("Error: " ++ message) :: causeLines causes

-- All lines for the error stream.
def errors (report : Report) : List String :=
  report.complaints ++
    match report.ending with
    | .failure reason => errorLines reason.messages
    | _ => []

end Report
end BoardLink

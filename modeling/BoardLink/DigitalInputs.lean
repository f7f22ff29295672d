import BoardLink.Host
import BoardLink.Text.Characters
import BoardLink.Text.Quoted

-- The vehicle's digital inputs, which the system shows as files, one directory for each pin.
namespace BoardLink

open Text

inductive InputError where
  | outOfRange (input : UInt32)
  | exportFailed (pin : UInt32) (cause : FileError)
  | readFailed (pin : UInt32) (cause : FileError)
  | badValue (pin : UInt32) (value : String)
  deriving DecidableEq, Repr

namespace InputError

def message : InputError → String
  | .outOfRange input => "Input " ++ toString input.toNat ++ " out of range (0..8)"
  | .exportFailed pin cause =>
    "Failed to export gpio" ++ toString pin.toNat ++ ": " ++ cause.message
  | .readFailed pin cause => "Failed to read gpio" ++ toString pin.toNat ++ ": " ++ cause.message
  | .badValue pin value =>
    "Unexpected value " ++ Quoted.render value ++ " for gpio" ++ toString pin.toNat

-- The message and then its causes.
def messages : InputError → List String
  | .exportFailed pin cause => [message (.exportFailed pin cause), cause.message]
  | .readFailed pin cause => [message (.readFailed pin cause), cause.message]
  | error => [error.message]

end InputError

namespace DigitalInputs

-- Where the system keeps the pins unless told otherwise.
def defaultRoot : String := "/sys/class/gpio"

-- The pin of input zero. The other inputs follow it.
def firstPin : UInt32 := 692

def count : UInt32 := 8

def target : String := "mctl_client::sysfs"

def valuePath (root : FilePath) (pin : UInt32) : FilePath :=
  (root.join ("gpio" ++ toString pin.toNat)).join "value"

def exportPath (root : FilePath) : FilePath := root.join "export"

-- What a value file says once the blanks around it are gone.
def level? (text : String) : Option Bool :=
  if text = "0" then some false else if text = "1" then some true else none

-- Ask the system to show a pin.
def exportPin (root : FilePath) (pin : UInt32) (host : Host) : Except InputError Unit × Host :=
  let host := host.log ⟨.debug, target, "Exporting gpio" ++ toString pin.toNat⟩
  match host.files.writeText (exportPath root) (toString pin.toNat) with
  | .ok files => (.ok (), { host with files })
  | .error cause => (.error (.exportFailed pin cause), host)

def readPin (root : FilePath) (pin : UInt32) (host : Host) : Except InputError Bool × Host :=
  match host.files.readText (valuePath root pin) with
  | .error cause => (.error (.readFailed pin cause), host)
  | .ok content =>
    let value := String.ofList (trim content.toList)
    let host := host.log
      ⟨.trace, target, "gpio" ++ toString pin.toNat ++ " = " ++ Quoted.render value⟩
    match level? value with
    | some high => (.ok high, host)
    | none => (.error (.badValue pin value), host)

-- The level of a pin. A pin without a value file is asked for first.
def value (root : FilePath) (pin : UInt32) (host : Host) : Except InputError Bool × Host :=
  if host.files.exists? (valuePath root pin) then readPin root pin host
  else
    match exportPin root pin host with
    | (.error error, host) => (.error error, host)
    | (.ok (), host) => readPin root pin host

def input (root : FilePath) (number : UInt32) (host : Host) : Except InputError Bool × Host :=
  if count ≤ number then (.error (.outOfRange number), host)
  else value root (firstPin + number) host

-- The given inputs in order, each with its own outcome.
def inputs (root : FilePath) : List UInt32 → Host → List (UInt32 × Except InputError Bool) × Host
  | [], host => ([], host)
  | number :: rest, host =>
    let (outcome, host) := input root number host
    let (others, host) := inputs root rest host
    ((number, outcome) :: others, host)

def allInputs (root : FilePath) (host : Host) : List (UInt32 × Except InputError Bool) × Host :=
  inputs root [0, 1, 2, 3, 4, 5, 6, 7] host

end DigitalInputs
end BoardLink

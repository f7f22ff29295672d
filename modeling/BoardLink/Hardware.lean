import BoardLink.Channel
import BoardLink.Executor
import BoardLink.Record

-- What every call of a direct caller goes through. Arguments are checked, every outcome goes to the
-- log, and the caller gets the bare answer or the error.
namespace BoardLink.Hardware

-- The greatest lamp number.
def maxLed : UInt8 := 2

-- The pin that switches the power of the vehicle bus adapter.
def busPowerPin : UInt32 := 512

def checkLed (led : UInt8) : Except ProtocolError Unit :=
  if maxLed < led then .error (.invalidValue .led led.toUInt32) else .ok ()

def checkLevel (value : UInt32) : Except ProtocolError Unit :=
  if 1 < value then .error (.invalidValue .gpioValue value) else .ok ()

variable {σ κ : Type}

-- Carry a command out and put one line about it into the log.
def call (executor : Executor σ κ) (command : Command) (s : σ) :
    Outcome (Except CommandError command.Answer) × σ :=
  let target := "mctl_client::hardware"
  match executor.execute command s with
  | (.crashed, s) => (.crashed, s)
  | (.finished (.error error), s) =>
    (.finished (.error error),
      executor.log ⟨.error, target, command.opcode.name ++ " failed: " ++ error.message⟩ s)
  | (.finished (.ok completed), s) =>
    (.finished (.ok completed.value),
      executor.log ⟨.debug, target, command.opcode.name ++ " success: " ++
        Record.answer command completed.value ++
        " (status " ++ toString completed.status.toInt ++ ")"⟩ s)

end BoardLink.Hardware

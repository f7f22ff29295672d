import BoardLink.CommandError
import BoardLink.Log
import BoardLink.Operation

-- One command, one connection: how a command is carried out over a link.
namespace BoardLink

-- What became of a step of the other side: it came to an end, or it broke down in the middle.
inductive Outcome (α : Type) where
  | finished (value : α)
  | crashed
  deriving Repr

def Outcome.map {α β : Type} (f : α → β) : Outcome α → Outcome β
  | .finished value => .finished (f value)
  | .crashed => .crashed

@[simp] theorem Outcome.map_finished {α β : Type} (f : α → β) (value : α) :
    (finished value).map f = finished (f value) := rfl

@[simp] theorem Outcome.map_crashed {α β : Type} (f : α → β) :
    (crashed : Outcome α).map f = crashed := rfl

-- A way to reach the board, acting on a state `σ` and handing out connections `κ`.
-- `acquire` and `release` are the two ends of the lamp lock. Only letting go can break down.
structure Executor (σ κ : Type) where
  connect : σ → Option κ × σ
  exchange : κ → Bytes → σ → Outcome (Except TransportError Bytes) × σ
  disconnect : κ → σ → σ
  acquire : σ → σ
  release : σ → Outcome Unit × σ
  log : Log.Line → σ → σ
  convention : BatteryConvention

namespace Executor

variable {σ κ : Type}

abbrev Result (command : Command) := Except CommandError (Completed command.Answer)

def executorTarget : String := "mctl_driver::executor"

def guardTarget : String := "mctl_driver::guard"

def trace (executor : Executor σ κ) (target message : String) (s : σ) : σ :=
  executor.log ⟨.trace, target, message⟩ s

-- One line about one command.
def traceCommand (executor : Executor σ κ) (command : Command) (message : String) (s : σ) : σ :=
  executor.trace executorTarget (command.opcode.name ++ ": " ++ message) s

-- Open a connection, exchange one message, and close the connection before looking at the
-- reply. It is closed as well when the other side breaks down.
def converse (executor : Executor σ κ) (command : Command) (s : σ) :
    Outcome (Result command) × σ :=
  match executor.connect s with
  | (none, s) =>
    (.finished (.error .unavailable), executor.traceCommand command "endpoint unavailable" s)
  | (some connection, s) =>
    let request := command.request.toBytes
    let s := executor.trace guardTarget "Session opened" s
    let s := executor.traceCommand command
      ("sending " ++ toString request.length ++ " bytes") s
    let (response, s) := executor.exchange connection request s
    let s := executor.trace guardTarget "Session closed" (executor.disconnect connection s)
    match response with
    | .crashed => (.crashed, s)
    | .finished response =>
      match command.normalize response with
      | .error error => (.finished (.error error), executor.traceCommand command error.message s)
      | .ok completed => (.finished (.ok completed), s)

-- Commands without code behind them and commands with a bad argument are refused first.
-- The lock is held from before the connection until after it.
def execute (executor : Executor σ κ) (command : Command) (s : σ) :
    Outcome (Result command) × σ :=
  if command.isImplemented then
    match command.validate with
    | .error fault => (.finished (.error (.decode fault)), s)
    | .ok () =>
      if command.isExclusive then
        let (result, s) := executor.converse command (executor.acquire s)
        match executor.release s with
        | (.finished (), s) => (result, s)
        | (.crashed, s) => (.crashed, s)
      else executor.converse command s
  else
    (.finished (.error (.unimplemented command.opcode)),
      executor.traceCommand command "not implemented" s)

def executeOperation (executor : Executor σ κ) (operation : Operation) (s : σ) :
    Outcome (Except CommandError (Completed Reply)) × σ :=
  let command := operation.command executor.convention
  let (result, s) := executor.execute command s
  (result.map (Except.map (Completed.map (Reply.ofAnswer command))), s)

end Executor
end BoardLink

import BoardLink.Bench

-- What one call does to a bench on which no connection is open.
-- Either the call is refused and records nothing, or it records one whole block of events.
namespace BoardLink

namespace Event

def connection : Event → Nat
  | .connect number => number
  | .exchange number _ => number
  | .disconnect number => number

@[simp] theorem connection_connect (number : Nat) : (connect number).connection = number := rfl

@[simp] theorem connection_exchange (number : Nat) (opcode : UInt8) :
    (exchange number opcode).connection = number := rfl

@[simp] theorem connection_disconnect (number : Nat) :
    (disconnect number).connection = number := rfl

-- The life of one connection that carries one request.
def block (number : Nat) (opcode : Opcode) : List Event :=
  [.connect number, .exchange number opcode.toByte, .disconnect number]

theorem connection_of_mem_block {number : Nat} {opcode : Opcode} {event : Event}
    (h : event ∈ block number opcode) : event.connection = number := by
  simp only [block, List.mem_cons, List.not_mem_nil, or_false] at h
  rcases h with rfl | rfl | rfl <;> rfl

end Event

namespace Command

-- Why a command is turned away before anything is sent. A command that the board has no code
-- for is turned away first, then one with a bad argument, and a refused connection comes last.
def refusal? (command : Command) (refusing : Bool) : Option CommandError :=
  if command.isImplemented then
    match command.validate with
    | .error fault => some (.decode fault)
    | .ok () => if refusing then some .unavailable else none
  else some (.unimplemented command.opcode)

theorem refusal?_eq_none_iff {command : Command} {refusing : Bool} :
    command.refusal? refusing = none ↔
      command.isImplemented = true ∧ command.validate = .ok () ∧ refusing = false := by
  unfold refusal?
  split
  · rename_i hi
    split
    · rename_i fault hv
      simp [hv]
    · rename_i hv
      simp [hi, hv]
  · rename_i hi
    simp [hi]

-- Only lamp writes take the lock, and nothing can be wrong with their arguments.
theorem validate_of_isExclusive {command : Command} (h : command.isExclusive = true) :
    command.isImplemented = true ∧ command.validate = .ok () := by
  cases command <;> first | exact ⟨rfl, rfl⟩ | simp [isExclusive] at h

end Command

namespace Bench

-- As many connections were closed as were opened.
def Settled (bench : Bench) : Prop := bench.connectCount = bench.disconnectCount

-- The lamp lock was taken and let go once.
def countLock (exclusive : Bool) (bench : Bench) : Bench :=
  if exclusive then
    { bench with acquired := bench.acquired + 1, released := bench.released + 1 }
  else bench

-- The bench after a request was answered over the next connection.
def answered (command : Command) (bench : Bench) : Bench :=
  { bench with
    device := (bench.responder command.request.toBytes bench.device).2
    events := bench.events ++ Event.block bench.nextConnection command.opcode
    nextConnection := bench.nextConnection + 1 }

@[simp] theorem events_answered (command : Command) (bench : Bench) :
    (bench.answered command).events =
      bench.events ++ Event.block bench.nextConnection command.opcode := rfl

@[simp] theorem nextConnection_answered (command : Command) (bench : Bench) :
    (bench.answered command).nextConnection = bench.nextConnection + 1 := rfl

@[simp] theorem device_answered (command : Command) (bench : Bench) :
    (bench.answered command).device =
      (bench.responder command.request.toBytes bench.device).2 := rfl

@[simp] theorem events_countLock (exclusive : Bool) (bench : Bench) :
    (bench.countLock exclusive).events = bench.events := by
  cases exclusive <;> rfl

@[simp] theorem nextConnection_countLock (exclusive : Bool) (bench : Bench) :
    (bench.countLock exclusive).nextConnection = bench.nextConnection := by
  cases exclusive <;> rfl

@[simp] theorem device_countLock (exclusive : Bool) (bench : Bench) :
    (bench.countLock exclusive).device = bench.device := by
  cases exclusive <;> rfl

@[simp] theorem refusing_countLock (exclusive : Bool) (bench : Bench) :
    (bench.countLock exclusive).refusing = bench.refusing := by
  cases exclusive <;> rfl

@[simp] theorem responder_countLock (exclusive : Bool) (bench : Bench) :
    (bench.countLock exclusive).responder = bench.responder := by
  cases exclusive <;> rfl

@[simp] theorem events_release (bench : Bench) : bench.release.2.events = bench.events := by
  unfold release
  split <;> rfl

@[simp] theorem nextConnection_release (bench : Bench) :
    bench.release.2.nextConnection = bench.nextConnection := by
  unfold release
  split <;> rfl

@[simp] theorem device_release (bench : Bench) : bench.release.2.device = bench.device := by
  unfold release
  split <;> rfl

@[simp] theorem responder_release (bench : Bench) :
    bench.release.2.responder = bench.responder := by
  unfold release
  split <;> rfl

theorem Settled.of_events {bench other : Bench} (h : bench.Settled)
    (he : other.events = bench.events) : other.Settled := by
  simpa only [Settled, connectCount, disconnectCount, he] using h

theorem Settled.answered {bench : Bench} (h : bench.Settled) (command : Command) :
    (bench.answered command).Settled := by
  simp only [Settled, connectCount, disconnectCount] at h ⊢
  simp [Event.block, List.countP_cons, Event.isConnect, Event.isDisconnect, h]

theorem Settled.countLock {bench : Bench} (h : bench.Settled) (exclusive : Bool) :
    (bench.countLock exclusive).Settled :=
  h.of_events (events_countLock exclusive bench)

theorem openConnections?_of_settled {bench : Bench} (h : bench.Settled) :
    bench.openConnections? = some 0 := by
  unfold Settled at h
  simp [openConnections?, h]

-- The outcome of a call that lets go of the lock at its end, which may break down.
def afterRelease {α : Type} (bench : Bench) (outcome : Outcome α) : Outcome α :=
  match bench.release.1 with
  | .finished () => outcome
  | .crashed => .crashed

-- Letting go of the lock cannot break down here, because no connection is open.
theorem release_of_settled {bench : Bench} (h : bench.Settled) :
    bench.release = (.finished (), { bench with released := bench.released + 1 }) := by
  simp [release, openConnections?_of_settled h]

variable {convention : BatteryConvention} {command : Command} {bench : Bench}

theorem connect_refused (h : bench.refusing = true) : bench.connect = (none, bench) := by
  rw [connect, if_pos h]

theorem connect_allowed (h : bench.refusing = false) :
    bench.connect = (some bench.nextConnection, record (.connect bench.nextConnection)
      { bench with nextConnection := bench.nextConnection + 1 }) := by
  rw [connect, if_neg (by simp [h])]

theorem exchange_connect (h : bench.refusing = false) (request : Bytes) :
    (exchange bench.nextConnection request bench.connect.2).1 =
      (bench.responder request bench.device).1 := by
  rw [connect_allowed h]
  rfl

-- The life of a connection that carries one request, from end to end.
theorem disconnect_exchange_connect (h : bench.refusing = false) (command : Command) :
    disconnect bench.nextConnection
        (exchange bench.nextConnection command.request.toBytes bench.connect.2).2 =
      bench.answered command := by
  simp [connect_allowed h, answered, disconnect, exchange, record, Event.block, Request.toBytes]

theorem converse_refused (h : bench.refusing = true) :
    (executor convention).converse command bench = (.finished (.error .unavailable), bench) := by
  simp [Executor.converse, executor, connect_refused h, Executor.traceCommand, Executor.trace]

theorem converse_answered (h : bench.refusing = false) :
    (executor convention).converse command bench =
      ((bench.responder command.request.toBytes bench.device).1.map command.normalize,
        bench.answered command) := by
  have hexchange := exchange_connect h command.request.toBytes
  have hdisconnect := disconnect_exchange_connect h command
  rw [connect_allowed h] at hexchange hdisconnect
  simp only [Executor.converse, executor, connect_allowed h, Executor.traceCommand,
    Executor.trace, hdisconnect, hexchange]
  cases (bench.responder command.request.toBytes bench.device).1 with
  | crashed => rfl
  | finished response =>
      simp only [Outcome.map]
      cases command.normalize response <;> rfl

-- The lock is held around the whole call, so the call starts from a bench that counts it taken.
theorem execute_of_not_exclusive (hi : command.isImplemented = true)
    (hv : command.validate = .ok ()) (he : command.isExclusive = false) :
    (executor convention).execute command bench =
      (executor convention).converse command bench := by
  simp [Executor.execute, hi, hv, he]

theorem execute_of_exclusive (he : command.isExclusive = true)
    {result : Outcome (Executor.Result command)} {after : Bench}
    (hc : (executor convention).converse command bench.acquire = (result, after)) :
    (executor convention).execute command bench =
      (after.afterRelease result, after.release.2) := by
  obtain ⟨hi, hv⟩ := Command.validate_of_isExclusive he
  have hacquire : (executor convention).acquire bench = bench.acquire := rfl
  have hrelease : (executor convention).release after = after.release := rfl
  simp only [Executor.execute, hi, hv, he, if_true, hacquire, hc, hrelease, afterRelease]
  generalize after.release = release
  obtain ⟨ended, released⟩ := release
  cases ended <;> rfl

theorem execute_of_settled (he : command.isExclusive = true)
    {result : Outcome (Executor.Result command)} {after : Bench}
    (hc : (executor convention).converse command bench.acquire = (result, after))
    (hs : after.Settled) :
    (executor convention).execute command bench =
      (result, { after with released := after.released + 1 }) := by
  rw [execute_of_exclusive he hc, afterRelease, release_of_settled hs]

-- A refused call gives its reason and records no event.
theorem execute_refused (hs : bench.Settled) {error : CommandError}
    (h : command.refusal? bench.refusing = some error) :
    (executor convention).execute command bench =
      (.finished (.error error), bench.countLock command.isExclusive) := by
  cases he : command.isExclusive with
  | true =>
      obtain ⟨hi, hv⟩ := Command.validate_of_isExclusive he
      have hr : bench.refusing = true ∧ .unavailable = error := by
        simpa [Command.refusal?, hi, hv] using h
      obtain ⟨hr, rfl⟩ := hr
      exact execute_of_settled he (converse_refused hr) (hs.of_events rfl)
  | false =>
      simp only [Command.refusal?] at h
      split at h
      · rename_i hi
        split at h
        · rename_i fault hv
          cases h
          simp [Executor.execute, hi, hv, countLock]
        · rename_i hv
          split at h
          · rename_i hr
            cases h
            rw [execute_of_not_exclusive hi hv he, converse_refused hr]
            rfl
          · cases h
      · rename_i hi
        cases h
        simp [Executor.execute, hi, countLock, Executor.traceCommand, Executor.trace, executor]

-- Any other call records one block and gives what the reply comes to.
theorem execute_answered (hs : bench.Settled) (h : command.refusal? bench.refusing = none) :
    (executor convention).execute command bench =
      ((bench.responder command.request.toBytes bench.device).1.map command.normalize,
        (bench.answered command).countLock command.isExclusive) := by
  obtain ⟨hi, hv, hr⟩ := Command.refusal?_eq_none_iff.mp h
  cases he : command.isExclusive with
  | true =>
      have hc : (executor convention).converse command bench.acquire =
          ((bench.responder command.request.toBytes bench.device).1.map command.normalize,
            bench.acquire.answered command) := converse_answered hr
      exact execute_of_settled he hc (Settled.answered (hs.of_events rfl) command)
  | false =>
      rw [execute_of_not_exclusive hi hv he, converse_answered hr]
      rfl

end Bench
end BoardLink

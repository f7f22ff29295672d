import BoardLink.Proofs.Bench.Endings

-- How far a command gets on any bench, also on one whose connections were lost count of, and which
-- requests, events and counts of the lamp lock there are of it.
namespace BoardLink

namespace Executor

variable {σ κ : Type} (executor : Executor σ κ)

-- The same executor, with the requests that go over the link listed beside its state.
def recording : Executor (σ × List Bytes) κ where
  connect := fun (s, sent) => ((executor.connect s).1, ((executor.connect s).2, sent))
  exchange := fun connection request (s, sent) =>
    ((executor.exchange connection request s).1,
      ((executor.exchange connection request s).2, sent ++ [request]))
  disconnect := fun connection (s, sent) => (executor.disconnect connection s, sent)
  acquire := fun (s, sent) => (executor.acquire s, sent)
  release := fun (s, sent) => ((executor.release s).1, ((executor.release s).2, sent))
  log := fun line (s, sent) => (executor.log line s, sent)
  convention := executor.convention

-- Once it is connected, a conversation sends one request.
theorem converse_recording (command : Command) (s : σ) (sent : List Bytes) :
    executor.recording.converse command (s, sent) =
      ((executor.converse command s).1, ((executor.converse command s).2,
        sent ++ if (executor.connect s).1.isSome then [command.request.toBytes] else [])) := by
  obtain ⟨connect, exchange, disconnect, acquire, release, log, convention⟩ := executor
  simp only [converse, recording, traceCommand, trace]
  obtain ⟨connection, opened, hconnect⟩ : ∃ connection opened, connect s = (connection, opened) :=
    ⟨_, _, rfl⟩
  simp only [hconnect]
  cases connection with
  | none => simp
  | some connection =>
      simp only [Option.isSome_some, if_true]
      generalize exchange connection _ _ = talk
      obtain ⟨response, after⟩ := talk
      cases response with
      | crashed => rfl
      | finished response =>
          dsimp only
          cases command.normalize response <;> rfl

-- The state in which a command opens its connection.
def held (command : Command) (s : σ) : σ :=
  if command.isExclusive then executor.acquire s else s

-- The requests that carrying out a command sends: one, unless it is turned away before that.
def requests (command : Command) (s : σ) : List Bytes :=
  match command.refusal? (executor.connect (executor.held command s)).1.isNone with
  | some _ => []
  | none => [command.request.toBytes]

theorem requests_of_valid {command : Command} (hi : command.isImplemented = true)
    (hv : command.validate = .ok ()) (s : σ) :
    executor.requests command s =
      if (executor.connect (executor.held command s)).1.isSome then [command.request.toBytes]
      else [] := by
  simp only [requests, Command.refusal?, hi, hv, if_true]
  cases (executor.connect (executor.held command s)).1 <;> rfl

-- Listing the requests changes nothing else.
theorem execute_recording (command : Command) (s : σ) (sent : List Bytes) :
    executor.recording.execute command (s, sent) =
      ((executor.execute command s).1, ((executor.execute command s).2,
        sent ++ executor.requests command s)) := by
  cases hi : command.isImplemented with
  | false => simp [execute, requests, Command.refusal?, hi, recording, traceCommand, trace]
  | true =>
      cases hv : command.validate with
      | error fault => simp [execute, requests, Command.refusal?, hi, hv]
      | ok =>
          have hrequests := executor.requests_of_valid hi hv s
          cases he : command.isExclusive with
          | false =>
              simp only [held, he] at hrequests
              simp only [execute, hi, hv, he, if_true, hrequests]
              exact executor.converse_recording command s sent
          | true =>
              have hacquire : executor.recording.acquire (s, sent) = (executor.acquire s, sent) :=
                rfl
              simp only [held, he, if_true] at hrequests
              simp only [execute, hi, hv, he, if_true, hrequests, hacquire, converse_recording]
              generalize executor.converse command (executor.acquire s) = talk
              obtain ⟨result, after⟩ := talk
              simp only [recording]
              generalize executor.release after = release
              obtain ⟨ended, released⟩ := release
              cases ended <;> rfl

theorem executeOperation_recording (operation : Operation) (s : σ) (sent : List Bytes) :
    executor.recording.executeOperation operation (s, sent) =
      ((executor.executeOperation operation s).1, ((executor.executeOperation operation s).2,
        sent ++ executor.requests (operation.command executor.convention) s)) := by
  simp only [executeOperation, execute_recording]
  rfl

end Executor

namespace Command

-- The three reasons to turn a command away.
inductive Refuses (command : Command) (refusing : Bool) : CommandError → Prop where
  | unimplemented (hi : command.isImplemented = false) :
      Refuses command refusing (.unimplemented command.opcode)
  | invalid {fault : ProtocolError} (hi : command.isImplemented = true)
      (hv : command.validate = .error fault) : Refuses command refusing (.decode fault)
  | unavailable (hi : command.isImplemented = true) (hv : command.validate = .ok ())
      (hr : refusing = true) : Refuses command refusing .unavailable

theorem refuses_of_refusal? {command : Command} {refusing : Bool} {error : CommandError}
    (h : command.refusal? refusing = some error) : command.Refuses refusing error := by
  unfold refusal? at h
  split at h
  · rename_i hi
    split at h
    · rename_i fault hv
      cases h
      exact .invalid hi hv
    · rename_i hv
      split at h
      · rename_i hr
        cases h
        exact .unavailable hi hv hr
      · cases h
  · rename_i hi
    cases h
    exact .unimplemented (by simpa using hi)

end Command

namespace Bench

-- How far a command gets, and what the events tell of it. Letting go of the lamp lock breaks down
-- where the connections cannot be counted, and the result is lost then.
inductive Carried (command : Command) (bench : Bench) :
    Outcome (Executor.Result command) → Bench → Prop where
  | refused {error : CommandError} {ended : Outcome (Executor.Result command)} {after : Bench}
      (reason : command.refusal? bench.refusing = some error)
      (end_eq : ended = .finished (.error error) ∨ ended = .crashed)
      (events : after.events = bench.events) : Carried command bench ended after
  | answered {ended : Outcome (Executor.Result command)} {after : Bench}
      (reason : command.refusal? bench.refusing = none)
      (end_eq : ended = (bench.answer command).map command.normalize ∨ ended = .crashed)
      (events : after.events = bench.events ++ Event.block bench.nextConnection command.opcode) :
      Carried command bench ended after

variable {convention : BatteryConvention} {command : Command} {bench : Bench}

@[simp] theorem acquired_release (bench : Bench) :
    bench.release.2.acquired = bench.acquired := by
  unfold release
  split <;> rfl

-- Letting go of the lock changes the end only where it breaks down.
theorem Carried.release {ended : Outcome (Executor.Result command)} {after : Bench}
    (h : Carried command bench ended after) :
    Carried command bench (after.afterRelease ended) after.release.2 := by
  have hevents : after.release.2.events = after.events := events_release after
  unfold afterRelease
  cases after.release.1 with
  | finished =>
      cases h with
      | refused reason end_eq events => exact .refused reason end_eq (hevents.trans events)
      | answered reason end_eq events => exact .answered reason end_eq (hevents.trans events)
  | crashed =>
      cases h with
      | refused reason _ events => exact .refused reason (.inr rfl) (hevents.trans events)
      | answered reason _ events => exact .answered reason (.inr rfl) (hevents.trans events)

theorem carried_converse (hi : command.isImplemented = true) (hv : command.validate = .ok ())
    (convention : BatteryConvention) (bench : Bench) :
    Carried command bench ((executor convention).converse command bench).1
      ((executor convention).converse command bench).2 := by
  cases hr : bench.refusing with
  | true =>
      have hrefusal : command.refusal? bench.refusing = some .unavailable := by
        simp [Command.refusal?, hi, hv, hr]
      rw [converse_refused hr]
      exact .refused hrefusal (.inl rfl) rfl
  | false =>
      have hrefusal : command.refusal? bench.refusing = none :=
        Command.refusal?_eq_none_iff.mpr ⟨hi, hv, hr⟩
      rw [converse_answered hr]
      exact .answered hrefusal (.inl rfl) rfl

theorem acquired_converse (convention : BatteryConvention) (command : Command) (bench : Bench) :
    ((executor convention).converse command bench).2.acquired = bench.acquired := by
  cases hr : bench.refusing with
  | true => rw [converse_refused hr]
  | false =>
      rw [converse_answered hr]
      rfl

-- The four ways to carry out a command: two end at once, and of the two that converse with the
-- other side one holds the lamp lock meanwhile.
inductive Way (convention : BatteryConvention) (command : Command) (bench : Bench) :
    Outcome (Executor.Result command) × Bench → Prop where
  | unimplemented (hi : command.isImplemented = false) :
      Way convention command bench
        (.finished (.error (.unimplemented command.opcode)), bench)
  | invalid {fault : ProtocolError} (hi : command.isImplemented = true)
      (hv : command.validate = .error fault) (he : command.isExclusive = false) :
      Way convention command bench (.finished (.error (.decode fault)), bench)
  | free (hi : command.isImplemented = true) (hv : command.validate = .ok ())
      (he : command.isExclusive = false) :
      Way convention command bench ((executor convention).converse command bench)
  | locked {result : Outcome (Executor.Result command)} {after : Bench}
      (hi : command.isImplemented = true) (hv : command.validate = .ok ())
      (he : command.isExclusive = true)
      (hc : (executor convention).converse command bench.acquire = (result, after)) :
      Way convention command bench (after.afterRelease result, after.release.2)

theorem way_execute (convention : BatteryConvention) (command : Command) (bench : Bench) :
    Way convention command bench ((executor convention).execute command bench) := by
  cases hi : command.isImplemented with
  | false =>
      simp only [Executor.execute, hi]
      exact .unimplemented hi
  | true =>
      cases he : command.isExclusive with
      | true =>
          obtain ⟨-, hv⟩ := Command.validate_of_isExclusive he
          obtain ⟨result, after, hconverse⟩ : ∃ result after,
              (executor convention).converse command bench.acquire = (result, after) := ⟨_, _, rfl⟩
          rw [execute_of_exclusive he hconverse]
          exact .locked hi hv he hconverse
      | false =>
          cases hv : command.validate with
          | error fault =>
              simp only [Executor.execute, hi, hv, if_true]
              exact .invalid hi hv he
          | ok =>
              rw [execute_of_not_exclusive hi hv he]
              exact .free hi hv he

theorem execute_unimplemented (hi : command.isImplemented = false) :
    (executor convention).execute command bench =
      (.finished (.error (.unimplemented command.opcode)), bench) := by
  have hway := way_execute convention command bench
  generalize (executor convention).execute command bench = talk at hway
  cases hway with
  | unimplemented => rfl
  | _ hi' => simp [hi] at hi'

theorem carried_execute (convention : BatteryConvention) (command : Command) (bench : Bench) :
    Carried command bench ((executor convention).execute command bench).1
      ((executor convention).execute command bench).2 := by
  have hway := way_execute convention command bench
  generalize (executor convention).execute command bench = talk at hway
  cases hway with
  | unimplemented hi => exact .refused (by simp [Command.refusal?, hi]) (.inl rfl) rfl
  | invalid hi hv he => exact .refused (by simp [Command.refusal?, hi, hv]) (.inl rfl) rfl
  | free hi hv he => exact carried_converse hi hv convention bench
  | @locked result after hi hv he hc =>
      have hcarried := carried_converse hi hv convention bench.acquire
      rw [hc] at hcarried
      have hbench : Carried command bench result after := by
        cases hcarried with
        | refused reason end_eq events => exact .refused reason end_eq events
        | answered reason end_eq events => exact .answered reason end_eq events
      exact hbench.release

-- The lock is taken before the conversation, which does not touch it.
theorem acquired_execute (convention : BatteryConvention) (command : Command) (bench : Bench) :
    ((executor convention).execute command bench).2.acquired =
      bench.acquired + command.isExclusive.toNat := by
  have hway := way_execute convention command bench
  generalize (executor convention).execute command bench = talk at hway
  cases hway with
  | unimplemented hi =>
      cases he : command.isExclusive with
      | false => rfl
      | true => simp [(Command.validate_of_isExclusive he).1] at hi
  | invalid hi hv he =>
      rw [he]
      rfl
  | free hi hv he =>
      rw [acquired_converse, he]
      rfl
  | @locked result after hi hv he hc =>
      have hacquired := acquired_converse convention command bench.acquire
      rw [hc] at hacquired
      rw [acquired_release, hacquired, he]
      rfl

theorem requests_executor (convention : BatteryConvention) (command : Command) (bench : Bench) :
    (executor convention).requests command bench =
      match command.refusal? bench.refusing with
      | some _ => []
      | none => [command.request.toBytes] := by
  have hconnect : ((executor convention).connect
      ((executor convention).held command bench)).1.isNone = bench.refusing := by
    cases hr : bench.refusing <;> cases he : command.isExclusive <;>
      simp [Executor.held, executor, connect, acquire, hr, he]
  rw [Executor.requests, hconnect]

-- A request and a block of events go together.
theorem Carried.sent {ended : Outcome (Executor.Result command)} {after : Bench}
    (h : Carried command bench ended after) (convention : BatteryConvention) :
    (executor convention).requests command bench = [] ∧ after.events = bench.events ∨
      (executor convention).requests command bench = [command.request.toBytes] ∧
        after.events = bench.events ++ Event.block bench.nextConnection command.opcode := by
  rw [requests_executor]
  cases h with
  | refused reason end_eq events =>
      rw [reason]
      exact .inl ⟨rfl, events⟩
  | answered reason end_eq events =>
      rw [reason]
      exact .inr ⟨rfl, events⟩

-- A failure is either the reason for which a command was turned away, or what a reply came to.
theorem Carried.failed {error : CommandError} {after : Bench}
    (h : Carried command bench (.finished (.error error)) after) :
    command.refusal? bench.refusing = some error ∨
      ∃ reply, bench.answer command = .finished reply ∧ command.normalize reply = .error error := by
  cases h with
  | refused reason end_eq events =>
      rcases end_eq with hended | hended
      · cases hended
        exact .inl reason
      · cases hended
  | answered reason end_eq events =>
      rcases end_eq with hended | hended
      · cases hanswer : bench.answer command with
        | crashed =>
            rw [hanswer] at hended
            cases hended
        | finished reply =>
            rw [hanswer, Outcome.map, Outcome.finished.injEq] at hended
            exact .inr ⟨reply, rfl, hended.symm⟩
      · cases hended

end Bench

end BoardLink

import BoardLink.Proofs.Bench.Carrying
import BoardLink.Proofs.Message.Requests
import BoardLink.Proofs.Session.Run
import BoardLink.Proofs.Wire.Reply

-- What is known of an operation without carrying it out, and that it tells what carrying it out
-- does: on any bench, also on one whose connections were lost count of.
namespace BoardLink

namespace Bench

-- No reply is called unimplemented.
theorem Carried.isImplemented {command : Command} {bench after : Bench} {opcode : Opcode}
    (h : Carried command bench (.finished (.error (.unimplemented opcode))) after) :
    command.isImplemented = false := by
  rcases h.failed with hrefusal | ⟨reply, -, hreply⟩
  · cases Command.refuses_of_refusal? hrefusal with
    | unimplemented hi => exact hi
  · exact absurd rfl ((Command.ofReply_of_normalize hreply).ne_unimplemented opcode)

end Bench

section Unexpected

variable {command : Command} {body wire : Bytes} {fault : ProtocolError} {expected actual : Opcode}

theorem ProtocolError.OfPayload.ne_unexpectedOpcode (h : fault.OfPayload)
    (expected actual : Opcode) : fault ≠ .unexpectedOpcode expected actual := by
  cases h <;> simp

theorem Response.ne_unexpectedOpcode_of_ofBytes (h : Response.ofBytes body = .error fault)
    (expected actual : Opcode) : fault ≠ .unexpectedOpcode expected actual := by
  unfold Response.ofBytes at h
  split at h
  · split at h
    · cases h
      simp
    · split at h
      · cases h
        simp
      · cases h
  · cases h
    simp

theorem Command.ofPayload_of_validate (h : command.validate = .error fault) :
    fault.OfPayload := by
  cases command with
  | setClock text =>
      simp only [validate] at h
      split at h
      · rename_i reason htext
        cases h
        exact Timestamp.ofPayload_of_ofText htext
      · cases h
  | _ => cases h

-- The opcodes are compared in one place only.
theorem Command.expected_of_judge
    (h : command.judge body = .error (.decode (.unexpectedOpcode expected actual))) :
    expected = command.opcode := by
  unfold judge at h
  split at h
  · rename_i fault hread
    cases h
    exact absurd rfl (Response.ne_unexpectedOpcode_of_ofBytes hread expected actual)
  · split at h
    · rename_i response _ fault hcompare
      cases h
      unfold Response.expectOpcode at hcompare
      split at hcompare
      · cases hcompare
      · cases hcompare
        rfl
    · split at h
      · cases h
      · split at h
        · rename_i fault hdecode
          cases h
          exact absurd rfl ((ofPayload_of_decode hdecode).ne_unexpectedOpcode expected actual)
        · cases h

-- The length of a frame is all that can be wrong with it.
theorem Frame.ne_unexpectedOpcode_of_read (h : (Frame.read wire).1 = .error (.malformed fault))
    (expected actual : Opcode) : fault ≠ .unexpectedOpcode expected actual := by
  unfold Frame.read at h
  split at h
  · simp only at h
    split at h
    · cases h
      simp
    · split at h
      · cases h
        simp
      · split at h <;> cases h
  · cases h

theorem Command.expected_of_normalize {reply : Except TransportError Bytes}
    (h : command.normalize reply = .error (.decode (.unexpectedOpcode expected actual))) :
    expected = command.opcode ∨ reply = .error (.malformed (.unexpectedOpcode expected actual)) := by
  cases reply with
  | ok body => exact .inl (expected_of_judge h)
  | error failure =>
      cases failure <;> cases h
      exact .inr rfl

theorem Bench.Carried.expected_eq {bench after : Bench}
    (h : Carried command bench (.finished (.error (.decode (.unexpectedOpcode expected actual))))
      after) :
    expected = command.opcode ∨
      bench.answer command = .finished (.error (.malformed (.unexpectedOpcode expected actual))) := by
  rcases h.failed with hrefusal | ⟨reply, hanswer, hreply⟩
  · cases Command.refuses_of_refusal? hrefusal with
    | invalid hi hv =>
        exact absurd rfl ((Command.ofPayload_of_validate hv).ne_unexpectedOpcode expected actual)
  · rcases Command.expected_of_normalize hreply with hexpected | hreply
    · exact .inl hexpected
    · rw [hanswer, hreply]
      exact .inr rfl

end Unexpected

-- The kind of reply that each opcode has.
inductive Reply.Fits : Opcode → Reply → Prop where
  | mcuVersion (version : FirmwareVersion) : Fits .getMcuVersion (.mcuVersion version)
  | fpgaVersion (version : FirmwareVersion) : Fits .getFpgaVersion (.fpgaVersion version)
  | voltage (millivolts : UInt32) : Fits .getAdcOrGpiVoltage (.voltage millivolts)
  | ledStatus (status : LedStatus) : Fits .getLedStatus (.ledStatus status)
  | setLed : Fits .setLedValue .done
  | powerThreshold (threshold : PowerThreshold) :
      Fits .getPowerOnThresholdConfig (.powerThreshold threshold)
  | setPowerThreshold : Fits .setPowerOnThresholdConfig .done
  | powerOnReason (reason : PowerOnReason) : Fits .getPowerOnReason (.powerOnReason reason)
  | powerOff : Fits .setDevicePowerOff .done
  | clock (time : Timestamp) : Fits .getRtcDateTime (.clock time)
  | setClock : Fits .setRtcDateTime .done
  | calibration (registers : CalibrationRegisters) :
      Fits .getRtcCalibrationRegisters (.calibration registers)
  | setCalibration : Fits .setRtcCalibrationRegisters .done
  | clockRegister (value : UInt8) : Fits .getRtcDebugRegister (.clockRegister value)
  | setClockRegister : Fits .setRtcDebugRegister .done
  | setPin : Fits .setGpioDebugState .done
  | pinState (high : Bool) : Fits .getGpioDebugState (.pinState high)
  | battery (health : BatteryHealth) : Fits .checkRtcBattery (.battery health)

theorem Reply.fits_ofAnswer (command : Command) (answer : command.Answer) :
    (Reply.ofAnswer command answer).Fits command.opcode := by
  cases command <;> constructor

namespace Session

variable {command : Command} {result : Outcome (Executor.Result command)}

-- Making a reply of an answer changes no failure.
theorem eq_error_of_reply {error : CommandError}
    (h : reply command result = .finished (.error error)) : result = .finished (.error error) := by
  cases result with
  | crashed => cases h
  | finished result =>
      cases result with
      | ok completed => cases h
      | error reason =>
          cases h
          rfl

theorem fits_of_reply {completed : Completed Reply}
    (h : reply command result = .finished (.ok completed)) :
    completed.value.Fits command.opcode := by
  cases result with
  | crashed => cases h
  | finished result =>
      cases result with
      | error reason => cases h
      | ok answered =>
          cases h
          exact Reply.fits_ofAnswer command answered.value

end Session

namespace Operation

theorem isImplemented_command (convention : BatteryConvention) (operation : Operation) :
    (operation.command convention).isImplemented = operation.isImplemented := by
  cases operation <;> rfl

theorem isExclusive_command (convention : BatteryConvention) (operation : Operation) :
    (operation.command convention).isExclusive = operation.isExclusive := by
  cases operation <;> rfl

theorem executeOperation_eq (convention : BatteryConvention) (operation : Operation)
    (bench : Bench) :
    (Bench.executor convention).executeOperation operation bench =
      (Session.reply (operation.command convention)
        ((Bench.executor convention).execute (operation.command convention) bench).1,
      ((Bench.executor convention).execute (operation.command convention) bench).2) :=
  rfl

-- `isImplemented`, `isExclusive` and the opcode of an operation tell what carrying it out comes to,
-- whatever the other side makes of the request. A failure that the other side hands in as it is
-- may name any opcodes. No frame that is read from a wire gives such a failure.
theorem metadata_tells_execution (convention : BatteryConvention) (operation : Operation)
    (bench : Bench) :
    ∃ ended after sent,
      (Bench.executor convention).executeOperation operation bench = (ended, after) ∧
      (Bench.executor convention).recording.executeOperation operation (bench, []) =
        (ended, (after, sent)) ∧
      (operation.isImplemented = false ↔
        ended = .finished (.error (.unimplemented operation.opcode)) ∧ after = bench ∧
          sent = []) ∧
      (∀ opcode, ended = .finished (.error (.unimplemented opcode)) →
        operation.isImplemented = false) ∧
      (sent = [] ∧ after.events = bench.events ∨
        ∃ request, sent = [request] ∧ request.head? = some operation.opcode.toByte ∧
          after.events = bench.events ++ Event.block bench.nextConnection operation.opcode) ∧
      after.acquired = bench.acquired +
        (if operation.isExclusive = true ∧ (operation.command convention).validate = .ok () then 1
        else 0) ∧
      (∀ expected actual,
        ended = .finished (.error (.decode (.unexpectedOpcode expected actual))) →
          expected = operation.opcode ∨
            bench.answer (operation.command convention) =
                .finished (.error (.malformed (.unexpectedOpcode expected actual))) ∧
              ∀ wire, (Frame.read wire).1 ≠
                .error (.malformed (.unexpectedOpcode expected actual))) ∧
      ∀ completed, ended = .finished (.ok completed) → completed.value.Fits operation.opcode := by
  have hopcode := operation.opcode_command convention
  have hcarried := Bench.carried_execute convention (operation.command convention) bench
  have hrecording : (Bench.executor convention).recording.executeOperation operation (bench, []) =
      (Session.reply (operation.command convention)
        ((Bench.executor convention).execute (operation.command convention) bench).1,
      (((Bench.executor convention).execute (operation.command convention) bench).2,
        (Bench.executor convention).requests (operation.command convention) bench)) :=
    Executor.executeOperation_recording ..
  have hunimplemented : ∀ opcode, Session.reply (operation.command convention)
      ((Bench.executor convention).execute (operation.command convention) bench).1 =
        .finished (.error (.unimplemented opcode)) → operation.isImplemented = false := by
    intro opcode h
    rw [Session.eq_error_of_reply h] at hcarried
    exact (isImplemented_command convention operation).symm.trans hcarried.isImplemented
  refine ⟨_, _, _, executeOperation_eq convention operation bench, hrecording,
    ⟨fun hi => ?unimplemented, fun h => hunimplemented operation.opcode h.1⟩, hunimplemented, ?sent,
    ?lock, fun expected actual h => ?expected, fun completed h => ?reply⟩
  case unimplemented =>
    have hcommand := (isImplemented_command convention operation).trans hi
    rw [Bench.execute_unimplemented hcommand, Bench.requests_executor, Command.refusal?, hcommand,
      hopcode]
    exact ⟨rfl, rfl, rfl⟩
  case sent =>
    have hsent := hcarried.sent convention
    rw [hopcode] at hsent
    rcases hsent with ⟨hnone, hevents⟩ | ⟨hone, hevents⟩
    · exact .inl ⟨hnone, hevents⟩
    · refine .inr ⟨_, hone, ?_, hevents⟩
      rw [← hopcode]
      rfl
  case lock =>
    rw [Bench.acquired_execute, isExclusive_command]
    cases he : operation.isExclusive with
    | false => rfl
    | true =>
        have hcommand := (isExclusive_command convention operation).trans he
        rw [if_pos ⟨rfl, (Command.validate_of_isExclusive hcommand).2⟩]
        rfl
  case expected =>
    rw [Session.eq_error_of_reply h] at hcarried
    rcases hcarried.expected_eq with hexpected | hanswer
    · exact .inl (hexpected.trans hopcode)
    · exact .inr ⟨hanswer, fun wire hread =>
        absurd rfl (Frame.ne_unexpectedOpcode_of_read hread expected actual)⟩
  case reply =>
    rw [← hopcode]
    exact Session.fits_of_reply h

end Operation

end BoardLink

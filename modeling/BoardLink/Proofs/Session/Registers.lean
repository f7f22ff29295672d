import BoardLink.Proofs.Device.Answers
import BoardLink.Proofs.Session.Run

-- Sessions with the board itself on the other side. Every operation is answered as the settings
-- and the operations before it tell, whatever else was asked in between.
namespace BoardLink.Session

open Device

-- The board answers, and every connection is granted and was closed.
structure Ready (bench : Bench) : Prop where
  settled : bench.Settled
  responder : bench.responder = Responder.device
  refusing : bench.refusing = false

variable {convention : BatteryConvention} {settings : List Setting} {earlier : List Operation}
  {bench : Bench} {operation : Operation}

theorem ready_new (device : Device) : Ready (Bench.new device) := ⟨rfl, rfl, rfl⟩

theorem Ready.countLock (h : Ready bench) (exclusive : Bool) : Ready (bench.countLock exclusive) :=
  ⟨h.settled.countLock exclusive, by rw [Bench.responder_countLock, h.responder],
    by rw [Bench.refusing_countLock, h.refusing]⟩

theorem Ready.answered (h : Ready bench) (command : Command) : Ready (bench.answered command) :=
  ⟨h.settled.answered command, h.responder, h.refusing⟩

-- Without scripts, every call that is not turned away gets to the registers of the board.
theorem Ready.execute (h : Ready bench) (hs : bench.device.scripts = [])
    (convention : BatteryConvention) {command : Command}
    (hr : command.refusal? bench.refusing = none) :
    ∃ after, (Bench.executor convention).execute command bench =
        (.finished (command.judge (bench.device.respond command.request).1.toBytes), after) ∧
      Ready after ∧ after.device = (bench.device.respond command.request).2 := by
  refine ⟨(bench.answered command).countLock command.isExclusive, ?_,
    (h.answered command).countLock _, ?_⟩
  · rw [Bench.execute_answered h.settled hr, h.responder, responder_request hs]
    rfl
  · rw [Bench.device_countLock, Bench.device_answered, h.responder, responder_request hs]

-- With connections granted, only a missing implementation or a bad time is left to refuse a call.
theorem answers_of_refusal {error : CommandError}
    (h : (operation.command convention).refusal? false = some error) :
    Answers settings earlier operation (.error error) ∧ Quiet operation := by
  cases operation with
  | setPowerThreshold threshold =>
      cases h
      exact ⟨.setPowerThreshold, quiet_of_isWrite rfl⟩
  | setCalibration registers =>
      cases h
      exact ⟨.setCalibration, quiet_of_isWrite rfl⟩
  | clockRegister address =>
      cases h
      exact ⟨.clockRegister, quiet_of_isWrite rfl⟩
  | setClockRegister address value =>
      cases h
      exact ⟨.setClockRegister, quiet_of_isWrite rfl⟩
  | setClock text =>
      cases ht : Timestamp.ofText text with
      | ok time =>
          simp [Command.refusal?, Command.isImplemented, Command.validate, ht] at h
      | error fault =>
          have herror : CommandError.decode fault = error := by
            simpa [Command.refusal?, Command.isImplemented, Command.validate, ht] using h
          subst herror
          have hfields : ∀ fields : Timestamp.Fields, fields.text ≠ text := by
            rintro fields rfl
            rw [Timestamp.ofText_text] at ht
            cases ht
          have hclock : Operation.clock? (.setClock text) = none := by
            rw [Operation.clock?, ht]
            rfl
          exact ⟨.noTime hfields ht, fun _ _ => rfl, fun _ => rfl, hclock, rfl⟩
  | _ => cases h

-- One call: it is answered as it should be, and the bench is ready for the next.
theorem executeOperation_ready (convention : BatteryConvention) (operation : Operation)
    (h : Ready bench) (ht : Tracks settings earlier bench.device) :
    ∃ result after, (Bench.executor convention).executeOperation operation bench =
        (.finished result, after) ∧
      Answers settings earlier operation result ∧ Ready after ∧
      Tracks settings (earlier ++ [operation]) after.device := by
  have hconvention : (Bench.executor convention).convention = convention := rfl
  cases hr : (operation.command convention).refusal? bench.refusing with
  | some error =>
      have hexecute : (Bench.executor convention).execute (operation.command convention) bench =
          (.finished (.error error), _) := Bench.execute_refused h.settled hr
      rw [h.refusing] at hr
      obtain ⟨hanswers, hquiet⟩ := answers_of_refusal hr
      refine ⟨.error error, bench.countLock (operation.command convention).isExclusive, ?_,
        hanswers, h.countLock _, ?_⟩
      · rw [Executor.executeOperation, hconvention, hexecute]
        rfl
      · rw [Bench.device_countLock]
        exact ht.quiet hquiet
  | none =>
      obtain ⟨hi, hv, -⟩ := Command.refusal?_eq_none_iff.mp hr
      obtain ⟨response, device, hrespond, hanswers, htracks⟩ := ht.serves hi hv
      obtain ⟨after, hexecute, hready, hdevice⟩ := h.execute ht.configured.scripts convention hr
      rw [hrespond] at hexecute hdevice
      refine ⟨outcome convention operation response, after, ?_, hanswers, hready, ?_⟩
      · rw [Executor.executeOperation, hconvention, hexecute]
        rfl
      · rw [hdevice]
        exact htracks

-- Each call of a session is answered from the calls before it, and the last board tracks them all.
theorem run_ready (convention : BatteryConvention) (operations : List Operation) {bench : Bench}
    {earlier : List Operation} (h : Ready bench)
    (ht : Tracks settings earlier bench.device) :
    ∃ visits after, run convention bench (operations.map .operate) = (visits, after) ∧
      visits.length = operations.length ∧
      (∀ before operation later, operations = before ++ operation :: later →
        ∃ visit result, visits[before.length]? = some visit ∧
          visit.outcome = .finished result ∧
          Answers settings (earlier ++ before) operation result) ∧
      Tracks settings (earlier ++ operations) after.device := by
  -- Each call moves one operation from what is to come to what the board tracks.
  induction operations generalizing bench earlier with
  | nil =>
      refine ⟨[], bench, rfl, rfl, ?_, by rwa [List.append_nil]⟩
      intro before operation later hsplit
      cases before <;> cases hsplit
  | cons first rest ih =>
      obtain ⟨result, between, hcall, hanswers, hready, htracks⟩ :=
        executeOperation_ready convention first h ht
      obtain ⟨visits, after, hrun, hlen, hvisits, hafter⟩ := ih hready htracks
      refine ⟨⟨first.command convention, bench.refusing, .finished result⟩ :: visits, after,
        ?_, ?_, ?_, ?_⟩
      · simp only [List.map_cons, run, take, hcall, hrun]
        rfl
      · rw [List.length_cons, List.length_cons, hlen]
      · intro before operation later hsplit
        cases before with
        | nil =>
            cases hsplit
            rw [List.append_nil]
            exact ⟨_, result, rfl, rfl, hanswers⟩
        | cons other before =>
            cases hsplit
            have hlater := hvisits before operation later rfl
            rwa [List.append_assoc, List.singleton_append] at hlater
      · rwa [List.append_assoc, List.singleton_append] at hafter

-- Lamps, pins, the clock and the waiting time hold what was last written to them, and all else
-- is as it was set, at every reading and at the end.
theorem registers_of_run (convention : BatteryConvention) (settings : List Setting)
    (operations : List Operation) :
    ∃ visits after,
      run convention (Bench.new (configured settings)) (operations.map .operate) =
        (visits, after) ∧
      visits.length = operations.length ∧
      (∀ earlier operation later, operations = earlier ++ operation :: later →
        ∃ visit result, visits[earlier.length]? = some visit ∧
          visit.outcome = .finished result ∧ Answers settings earlier operation result) ∧
      (∀ lamp, lamp < 3 → after.device.led? lamp = some (lampAfter operations lamp)) ∧
      (∀ pin : UInt16, after.device.pin pin = pinAfter operations pin.toNat) ∧
      after.device.clock.text = clockAfter operations ∧
      after.device.powerOffWait = waitAfter operations ∧
      Configured settings after.device := by
  have ht : Tracks settings [] (Bench.new (configured settings)).device :=
    ⟨configured_spec settings, holds_configured settings⟩
  obtain ⟨visits, after, hrun, hlen, hvisits, htracks⟩ :=
    run_ready convention operations (ready_new _) ht
  have hholds := htracks.holds
  exact ⟨visits, after, hrun, hlen, hvisits, hholds.lamp, hholds.pin,
    Timestamp.text_of_ofText hholds.clock, hholds.wait, htracks.configured⟩

end BoardLink.Session

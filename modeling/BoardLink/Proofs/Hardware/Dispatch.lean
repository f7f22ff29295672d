import BoardLink.Hardware.Method
import BoardLink.Proofs.StatusSlot.Agreement

-- The same request made in two ways: through a method, which takes its arguments as callers have
-- them, and as an operation chosen at run time. From one bench both do the same on the link and
-- come to the same answer or error, unless the method turns its argument away.
namespace BoardLink.Hardware

namespace Method

-- The operation that names the same request.
abbrev operation : Method → Operation
  | .mcuVersion => .mcuVersion
  | .fpgaVersion => .fpgaVersion
  | .voltage channel => .voltage channel.toByte
  | .voltageRaw channel => .voltage channel
  | .ledStatus led => .ledStatus led
  | .setLed led brightness rgb => .setLedRgb led brightness rgb
  | .setLedId led brightness rgb => .setLedRgb led.toByte brightness rgb
  | .powerThreshold => .powerThreshold
  | .setPowerThreshold threshold => .setPowerThreshold threshold
  | .powerOnReason => .powerOnReason
  | .powerOff waitSeconds => .powerOff waitSeconds
  | .clock => .clock
  | .setClock text => .setClock text
  | .calibration => .calibration
  | .setCalibration registers => .setCalibration registers
  | .clockRegister address => .clockRegister address
  | .setClockRegister address value => .setClockRegister address value
  | .battery => .battery
  | .pinState pin => .pinState pin
  | .setPin pin value => .setPin pin value
  | .busPower => .pinState busPowerPin
  | .setBusPower enable => .setPin busPowerPin enable.toUInt32

-- The reply that holds a method's answer. Of methods that only write it says that they are done.
def reply (convention : BatteryConvention) :
    (method : Method) → (method.command convention).Answer → Reply
  | .mcuVersion => fun version => .mcuVersion version
  | .fpgaVersion => fun version => .fpgaVersion version
  | .voltage _ | .voltageRaw _ => fun millivolts => .voltage millivolts
  | .ledStatus _ => fun lamp => .ledStatus lamp
  | .powerThreshold => fun threshold => .powerThreshold threshold
  | .powerOnReason => fun reason => .powerOnReason reason
  | .clock => fun time => .clock time
  | .calibration => fun registers => .calibration registers
  | .clockRegister _ => fun value => .clockRegister value
  | .battery => fun health => .battery health
  | .pinState _ | .busPower => fun high => .pinState high
  | .setLed .. | .setLedId .. | .setPowerThreshold _ | .powerOff _ | .setClock _
  | .setCalibration _ | .setClockRegister .. | .setPin .. | .setBusPower _ => fun _ => .done

theorem toNat_pack (color : RgbColor) : (UInt32.ofNat color.pack).toNat = color.pack := by
  have := color.red.toNat_lt
  have := color.green.toNat_lt
  have := color.blue.toNat_lt
  rw [UInt32.toNat_ofNat', Nat.mod_eq_of_lt]
  unfold RgbColor.pack
  omega

-- A colour that is packed and unpacked again is the same.
theorem unpack_toNat_pack (color : RgbColor) :
    RgbColor.unpack (UInt32.ofNat color.pack).toNat = color := by
  rw [toNat_pack, RgbColor.unpack_pack]

theorem operation_ofOperation (operation : Operation) :
    (ofOperation operation).operation = operation := by
  cases operation with
  | setLed led brightness color =>
      simp only [Method.operation, Operation.setLedRgb, unpack_toNat_pack]
  | _ => rfl

-- The argument that a method turns away, by its name and its value. There are three lamps and two
-- levels, and nothing else is looked at.
inductive OutOfRange : Method → Field → UInt32 → Prop where
  | ledStatus {led : UInt8} (h : 2 < led) : OutOfRange (.ledStatus led) .led led.toUInt32
  | setLed {led brightness : UInt8} {rgb : UInt32} (h : 2 < led) :
      OutOfRange (.setLed led brightness rgb) .led led.toUInt32
  | setPin {pin value : UInt32} (h : 1 < value) : OutOfRange (.setPin pin value) .gpioValue value

variable {convention : BatteryConvention} {method : Method} {bench : Bench}

theorem check_of_outOfRange {field : Field} {value : UInt32} (h : method.OutOfRange field value) :
    method.check = .error (.invalidValue field value) := by
  cases h with
  | ledStatus h => exact if_pos h
  | setLed h => exact if_pos h
  | setPin h => exact if_pos h

-- Lamps by name and switches are always in range.
theorem check_of_inRange (h : ∀ field value, ¬ method.OutOfRange field value) :
    method.check = .ok () := by
  cases method with
  | ledStatus led => exact if_neg fun hled => h .led led.toUInt32 (.ledStatus hled)
  | setLed led brightness rgb => exact if_neg fun hled => h .led led.toUInt32 (.setLed hled)
  | setPin pin value => exact if_neg fun hvalue => h .gpioValue value (.setPin hvalue)
  | setLedId led brightness rgb => cases led <;> rfl
  | setBusPower enable => cases enable <;> rfl
  | _ => rfl

theorem run_of_check (h : method.check = .ok ()) :
    method.run (Bench.executor convention) bench =
      (((Bench.executor convention).execute (method.command convention) bench).1.map
          (Except.map Completed.value),
        ((Bench.executor convention).execute (method.command convention) bench).2) := by
  unfold run
  rw [h]
  exact StatusSlot.call_directly convention (method.command convention) bench

-- Both ways come to one command, and what is told of its outcome differs in the status alone.
theorem execute_as_operation (convention : BatteryConvention) (method : Method) (bench : Bench) :
    ((Bench.executor convention).execute (method.command convention) bench).1.map
          (Except.map fun completed => method.reply convention completed.value) =
        ((Bench.executor convention).executeOperation method.operation bench).1.map
          (Except.map Completed.value) ∧
      ((Bench.executor convention).execute (method.command convention) bench).2 =
        ((Bench.executor convention).executeOperation method.operation bench).2 := by
  unfold Executor.executeOperation
  -- The command of an operation and the type of its answer are known once the method is.
  cases method <;>
  · dsimp only [operation, command, Operation.command, Operation.setLedRgb, Bench.executor]
    generalize Executor.execute _ _ _ = talk
    obtain ⟨outcome, after⟩ := talk
    cases outcome with
    | crashed => exact ⟨rfl, rfl⟩
    | finished result => cases result <;> exact ⟨rfl, rfl⟩

-- What a method answers is what the reply holds, unless it turns its argument away.
theorem run_as_operation (convention : BatteryConvention) (bench : Bench)
    (h : method.check = .ok ()) :
    (method.run (Bench.executor convention) bench).1.map (Except.map (method.reply convention)) =
        ((Bench.executor convention).executeOperation method.operation bench).1.map
          (Except.map Completed.value) ∧
      (method.run (Bench.executor convention) bench).2 =
        ((Bench.executor convention).executeOperation method.operation bench).2 := by
  obtain ⟨hvalue, hbench⟩ := execute_as_operation convention method bench
  rw [run_of_check h, ← hvalue, ← hbench]
  generalize (Bench.executor convention).execute (method.command convention) bench = talk
  obtain ⟨outcome, after⟩ := talk
  cases outcome with
  | crashed => exact ⟨rfl, rfl⟩
  | finished result => cases result <;> exact ⟨rfl, rfl⟩

end Method

-- Operations carried out one after another, until one of them breaks down.
def operateAll (convention : BatteryConvention) :
    List Operation → Bench → Outcome (List (Except CommandError Reply)) × Bench
  | [], bench => (.finished [], bench)
  | operation :: rest, bench =>
    match (Bench.executor convention).executeOperation operation bench with
    | (.crashed, bench) => (.crashed, bench)
    | (.finished result, bench) =>
      let (results, bench) := operateAll convention rest bench
      (results.map (result.map Completed.value :: ·), bench)

-- Reading several voltages is one operation for each, in the same order.
theorem readings_as_operations (convention : BatteryConvention) (channels : List AdcChannel)
    (bench : Bench) :
    (readings (Bench.executor convention) channels bench).1.map
          (List.map fun reading => (reading.1, reading.2.map Reply.voltage)) =
        (operateAll convention (channels.map fun channel => .voltage channel.toByte) bench).1.map
          (channels.zip ·) ∧
      (readings (Bench.executor convention) channels bench).2 =
        (operateAll convention (channels.map fun channel => .voltage channel.toByte) bench).2 := by
  induction channels generalizing bench with
  | nil => exact ⟨rfl, rfl⟩
  | cons channel rest ih =>
      have hcheck : (Method.voltage channel).check = .ok () := rfl
      have hread := Method.run_as_operation convention bench hcheck
      simp only [readings, operateAll, List.map_cons]
      generalize (Method.voltage channel).run (Bench.executor convention) bench = read at hread ⊢
      generalize (Bench.executor convention).executeOperation (.voltage channel.toByte) bench =
        done at hread ⊢
      obtain ⟨reading, after⟩ := read
      obtain ⟨result, same⟩ := done
      obtain ⟨hvalue, rfl⟩ : reading.map (Except.map Reply.voltage) =
          result.map (Except.map Completed.value) ∧ after = same := hread
      cases reading with
      | crashed =>
          cases result with
          | crashed => exact ⟨rfl, rfl⟩
          | finished result => cases hvalue
      | finished reading =>
          cases result with
          | crashed => cases hvalue
          | finished result =>
              have hfirst : reading.map Reply.voltage = result.map Completed.value :=
                Outcome.finished.inj hvalue
              obtain ⟨hothers, hafter⟩ := ih after
              refine ⟨?_, hafter⟩
              dsimp only
              generalize (readings (Bench.executor convention) rest after).1 = others at hothers ⊢
              generalize (operateAll convention
                (rest.map fun channel => .voltage channel.toByte) after).1 = results at hothers ⊢
              calc (others.map ((channel, reading) :: ·)).map
                    (List.map fun reading => (reading.1, reading.2.map Reply.voltage))
                  = (others.map (List.map fun reading =>
                      (reading.1, reading.2.map Reply.voltage))).map
                        ((channel, reading.map Reply.voltage) :: ·) := by cases others <;> rfl
                _ = (results.map (rest.zip ·)).map ((channel, result.map Completed.value) :: ·) := by
                    rw [hothers, hfirst]
                _ = (results.map (result.map Completed.value :: ·)).map
                      ((channel :: rest).zip ·) := by cases results <;> rfl

-- Every method does what the operation for its request does, from any bench: the same events, locks
-- and registers, the same error, and for an answer the reply that holds it. An argument out of
-- range is an error that names it, and nothing is done. Every operation is that of some method.
-- The method that reads all voltages does one operation for each channel.
theorem methods_do_as_operations (convention : BatteryConvention) :
    (∀ (method : Method) (bench : Bench), (∀ field value, ¬ method.OutOfRange field value) →
      (method.run (Bench.executor convention) bench).1.map (Except.map (method.reply convention)) =
          ((Bench.executor convention).executeOperation method.operation bench).1.map
            (Except.map Completed.value) ∧
        (method.run (Bench.executor convention) bench).2 =
          ((Bench.executor convention).executeOperation method.operation bench).2) ∧
      (∀ (method : Method) (bench : Bench) field value, method.OutOfRange field value →
        method.run (Bench.executor convention) bench =
          (.finished (.error (.decode (.invalidValue field value))), bench)) ∧
      (∀ operation : Operation, ∃ method : Method, method.operation = operation) ∧
      ∀ bench : Bench, (allReadings (Bench.executor convention) bench).1.map
            (List.map fun reading => (reading.1, reading.2.map Reply.voltage)) =
          (operateAll convention (AdcChannel.all.map fun channel => .voltage channel.toByte)
            bench).1.map (AdcChannel.all.zip ·) ∧
        (allReadings (Bench.executor convention) bench).2 =
          (operateAll convention (AdcChannel.all.map fun channel => .voltage channel.toByte)
            bench).2 := by
  refine ⟨fun method bench h => Method.run_as_operation convention bench
      (Method.check_of_inRange h), ?_,
    fun operation => ⟨.ofOperation operation, Method.operation_ofOperation operation⟩,
    fun bench => readings_as_operations convention AdcChannel.all bench⟩
  intro method bench field value h
  rw [Method.run, Method.check_of_outOfRange h]

end BoardLink.Hardware

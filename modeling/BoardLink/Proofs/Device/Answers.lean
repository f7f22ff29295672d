import BoardLink.CommandError
import BoardLink.Proofs.Device.Registers
import BoardLink.Proofs.Device.Respond

-- What the board makes of every operation, told by its settings and the operations before.
namespace BoardLink.Device

section

variable (settings : List Setting) (earlier : List Operation)

-- First come the operations that fail: the board has no code for four of them, one text is no
-- time, and there are three lamps and twelve channels. All others succeed.
inductive Answers : Operation → Except CommandError (Completed Reply) → Prop where
  | setPowerThreshold {threshold} :
      Answers (.setPowerThreshold threshold) (.error (.unimplemented .setPowerOnThresholdConfig))
  | setCalibration {registers} :
      Answers (.setCalibration registers) (.error (.unimplemented .setRtcCalibrationRegisters))
  | clockRegister {address} :
      Answers (.clockRegister address) (.error (.unimplemented .getRtcDebugRegister))
  | setClockRegister {address value} :
      Answers (.setClockRegister address value) (.error (.unimplemented .setRtcDebugRegister))
  | noTime {text fault} (h : ∀ fields : Timestamp.Fields, fields.text ≠ text)
      (hf : Timestamp.ofText text = .error fault) :
      Answers (.setClock text) (.error (.decode fault))
  | noLamp {led} (h : 2 < led.toNat) : Answers (.ledStatus led) (.error (.device (-1)))
  | noLampToSet {led brightness color} (h : 2 < led.toNat) :
      Answers (.setLed led brightness color) (.error (.device (-1)))
  | noChannel {channel} (h : 11 < channel.toNat) :
      Answers (.voltage channel) (.error (.device (-1)))
  | mcuVersion : Answers .mcuVersion (.ok ⟨0, .mcuVersion (mcuVersionOf settings)⟩)
  | fpgaVersion : Answers .fpgaVersion (.ok ⟨0, .fpgaVersion (fpgaVersionOf settings)⟩)
  | voltage {channel} (h : channel.toNat ≤ 11) :
      Answers (.voltage channel) (.ok ⟨0, .voltage (voltageOf settings channel.toNat)⟩)
  | ledStatus {led} (h : led.toNat ≤ 2) :
      Answers (.ledStatus led) (.ok ⟨0, .ledStatus (lampAfter earlier led.toNat)⟩)
  | setLed {led brightness color} (h : led.toNat ≤ 2) :
      Answers (.setLed led brightness color) (.ok ⟨0, .done⟩)
  | powerThreshold : Answers .powerThreshold (.ok ⟨0, .powerThreshold initial.threshold⟩)
  | powerOnReason : Answers .powerOnReason (.ok ⟨0, .powerOnReason ⟨powerOnReasonOf settings⟩⟩)
  | powerOff {waitSeconds} : Answers (.powerOff waitSeconds) (.ok ⟨0, .done⟩)
  | clock {time} (h : time.text = clockAfter earlier) : Answers .clock (.ok ⟨0, .clock time⟩)
  | setClock {fields : Timestamp.Fields} : Answers (.setClock fields.text) (.ok ⟨0, .done⟩)
  | calibration : Answers .calibration (.ok ⟨0, .calibration initial.calibration⟩)
  | setPin {pin value} : Answers (.setPin pin value) (.ok ⟨0, .done⟩)
  | pinState {pin} : Answers (.pinState pin) (.ok ⟨0, .pinState (pinAfter earlier pin.toNat)⟩)
  | noBattery (h : batteryStateOf settings = 0) :
      Answers .battery (.ok ⟨0, .battery .lowOrAbsent⟩)
  | battery (h : batteryStateOf settings ≠ 0) : Answers .battery (.ok ⟨1, .battery .good⟩)

end

-- The board as it was made, with what was written since.
structure Tracks (settings : List Setting) (earlier : List Operation) (device : Device) : Prop where
  configured : Configured settings device
  holds : Holds earlier device

variable {settings : List Setting} {earlier : List Operation} {device : Device}
  {operation : Operation} {convention : BatteryConvention}

theorem Tracks.quiet (h : Tracks settings earlier device) (hq : Quiet operation) :
    Tracks settings (earlier ++ [operation]) device :=
  ⟨h.configured, h.holds.quiet hq⟩

-- What the reader of a response makes of it.
def outcome (convention : BatteryConvention) (operation : Operation) (response : Response) :
    Except CommandError (Completed Reply) :=
  ((operation.command convention).judge response.toBytes).map
    (Completed.map (Reply.ofAnswer (operation.command convention)))

-- The board answers an operation as it should, and goes on as it should.
def Serves (convention : BatteryConvention) (settings : List Setting) (earlier : List Operation)
    (device : Device) (operation : Operation) : Prop :=
  ∃ response after, device.respond (operation.command convention).request = (response, after) ∧
    Answers settings earlier operation (outcome convention operation response) ∧
    Tracks settings (earlier ++ [operation]) after

theorem outcome_toBytes {status : Int32} {payload : Bytes}
    {value : (operation.command convention).Answer} (hs : 0 ≤ status)
    (hp : payload.length ≤ maxPayload)
    (hd : (operation.command convention).decode status payload = .ok value) :
    outcome convention operation ⟨(operation.command convention).opcode, status, payload⟩ =
      .ok ⟨status, Reply.ofAnswer _ value⟩ := by
  rw [outcome, Command.judge_toBytes hs hp hd]
  rfl

theorem outcome_rejected :
    outcome convention operation (.failure (operation.command convention).opcode rejected) =
      .error (.device (-1)) := by
  rw [outcome, Command.judge_rejected]
  rfl

-- Reading leaves the board as it is.
theorem Tracks.read (h : Tracks settings earlier device) (hw : operation.isWrite = false)
    {status : Int32} {payload : Bytes} {value : (operation.command convention).Answer}
    (hr : device.respond (operation.command convention).request =
      (⟨(operation.command convention).opcode, status, payload⟩, device))
    (hs : 0 ≤ status) (hp : payload.length ≤ maxPayload)
    (hd : (operation.command convention).decode status payload = .ok value)
    (ha : Answers settings earlier operation (.ok ⟨status, Reply.ofAnswer _ value⟩)) :
    Serves convention settings earlier device operation := by
  refine ⟨_, _, hr, ?_, h.quiet (quiet_of_isWrite hw)⟩
  rwa [outcome_toBytes hs hp hd]

-- So does what the board rejects.
theorem Tracks.reject (h : Tracks settings earlier device) (hq : Quiet operation)
    (hr : device.respond (operation.command convention).request =
      (.failure (operation.command convention).opcode rejected, device))
    (ha : Answers settings earlier operation (.error (.device (-1)))) :
    Serves convention settings earlier device operation := by
  refine ⟨_, _, hr, ?_, h.quiet hq⟩
  rwa [outcome_rejected]

-- A write is answered without a payload.
theorem Tracks.write {after : Device} (h : Tracks settings (earlier ++ [operation]) after)
    {value : (operation.command convention).Answer}
    (hr : device.respond (operation.command convention).request =
      (.success (operation.command convention).opcode [], after))
    (hd : (operation.command convention).decode 0 [] = .ok value)
    (ha : Answers settings earlier operation (.ok ⟨0, Reply.ofAnswer _ value⟩)) :
    Serves convention settings earlier device operation := by
  have hok : outcome convention operation
      (.success (operation.command convention).opcode []) = .ok ⟨0, Reply.ofAnswer _ value⟩ :=
    outcome_toBytes (by decide) (Nat.zero_le _) hd
  refine ⟨_, _, hr, ?_, h⟩
  rwa [hok]

theorem Tracks.voltage (h : Tracks settings earlier device) (channel : UInt8) :
    Serves convention settings earlier device (.voltage channel) := by
  by_cases hc : channel.toNat < 12
  · have hv := h.configured.voltage channel.toNat hc
    have hd : Command.decode 0 (BigEndian.encode 4 (voltageOf settings channel.toNat).toNat)
        (.voltage channel) = .ok (voltageOf settings channel.toNat) := by
      simp [Command.decode, Command.word?, BigEndian.ofNat_decode_encode_four, Command.expecting]
    exact h.read rfl (respond_voltage hv) (by decide)
      (by simp [maxPayload]) hd (.voltage (by omega))
  · have hv : device.voltages[channel.toNat]? = none := by
      rw [List.getElem?_eq_none_iff, h.configured.channels]
      omega
    exact h.reject (quiet_of_isWrite rfl) (respond_voltage_of_none hv) (.noChannel (by omega))

theorem Tracks.ledStatus (h : Tracks settings earlier device) (led : UInt8) :
    Serves convention settings earlier device (.ledStatus led) := by
  by_cases hl : led.toNat < 3
  · exact h.read rfl (respond_ledStatus (h.holds.lamp led.toNat hl)) (by decide)
      (by simp [maxPayload]) rfl (.ledStatus (by omega))
  · have hnone : device.led? led.toNat = none := by
      rw [led?, List.getElem?_eq_none_iff, h.holds.lamps]
      omega
    exact h.reject (quiet_of_isWrite rfl) (respond_ledStatus_of_none hnone) (.noLamp (by omega))

theorem Tracks.setLed (h : Tracks settings earlier device) (led brightness : UInt8)
    (color : RgbColor) :
    Serves convention settings earlier device (.setLed led brightness color) := by
  by_cases hl : led.toNat < 3
  · have hlt : led.toNat < device.leds.length := by rwa [h.holds.lamps]
    have hafter : Tracks settings (earlier ++ [Operation.setLed led brightness color])
        { device with leds := device.leds.set led.toNat ⟨brightness, color⟩ } :=
      ⟨h.configured.write _ _ _ _, h.holds.setLed brightness color hlt⟩
    exact hafter.write (respond_setLed hlt) rfl (.setLed (by omega))
  · have hq : Quiet (.setLed led brightness color) := by
      refine ⟨fun lamp hlamp => ?_, fun _ => rfl, rfl, rfl⟩
      exact if_neg (by omega)
    have hle : device.leds.length ≤ led.toNat := by
      rw [h.holds.lamps]
      omega
    exact h.reject hq (respond_setLed_of_le hle) (.noLampToSet (by omega))

theorem Tracks.powerOff (h : Tracks settings earlier device) (waitSeconds : UInt32) :
    Serves convention settings earlier device (.powerOff waitSeconds) := by
  have hafter : Tracks settings (earlier ++ [Operation.powerOff waitSeconds])
      { device with powerOffWait := some waitSeconds } :=
    ⟨h.configured.write _ _ _ _, h.holds.powerOff waitSeconds⟩
  exact hafter.write (respond_powerOff waitSeconds) rfl .powerOff

theorem Tracks.setPin (h : Tracks settings earlier device) (pin value : UInt32) :
    Serves convention settings earlier device (.setPin pin value) := by
  have hafter : Tracks settings (earlier ++ [Operation.setPin pin value])
      (device.setPin (maskPin pin) (maskLevel value)) :=
    ⟨h.configured.write _ _ _ _, h.holds.setPin pin value⟩
  exact hafter.write (respond_setPin (maskPin pin) (maskLevel value)) rfl .setPin

theorem Tracks.setClock (h : Tracks settings earlier device) (fields : Timestamp.Fields) :
    Serves convention settings earlier device (.setClock fields.text) := by
  have hafter : Tracks settings (earlier ++ [Operation.setClock fields.text])
      { device with clock := fields.time } :=
    ⟨h.configured.write _ _ _ _, h.holds.setClock fields⟩
  exact hafter.write (respond_setClock (Timestamp.ofText_text fields)) rfl .setClock

theorem Tracks.clock (h : Tracks settings earlier device) :
    Serves convention settings earlier device .clock := by
  have htext := Timestamp.text_of_ofText h.holds.clock
  have hlen := Timestamp.length_field (clockAfter earlier)
  have hwire : device.clock.toWire = Timestamp.field (clockAfter earlier) := by
    rw [Timestamp.toWire, htext]
  have hd : Command.decode 0 device.clock.toWire .clock = .ok device.clock := by
    rw [hwire, Command.decode, if_pos hlen]
    exact Timestamp.ofWire_field h.holds.clock
  have hp : device.clock.toWire.length ≤ maxPayload := by
    rw [hwire, hlen]
    decide
  exact h.read rfl rfl (by decide) hp hd (.clock htext)

theorem Tracks.pinState (h : Tracks settings earlier device) (pin : UInt32) :
    Serves convention settings earlier device (.pinState pin) := by
  have hd : Command.decode 0 [(device.pin (maskPin pin)).toUInt8] (.pinState (maskPin pin)) =
      .ok (device.pin (maskPin pin)) := by
    cases device.pin (maskPin pin) <;> rfl
  have hpin : device.pin (maskPin pin) = pinAfter earlier pin.toNat := by
    rw [h.holds.pin, ← pinAfter_mod pin.toNat]
    rfl
  have ha : Answers settings earlier (.pinState pin)
      (.ok ⟨0, .pinState (device.pin (maskPin pin))⟩) := hpin ▸ .pinState
  exact h.read rfl (respond_pinState (maskPin pin)) (by decide) (by simp [maxPayload]) hd ha

-- Status and payload agree, so both ways of judging a battery come to the same.
theorem Tracks.battery (h : Tracks settings earlier device) :
    Serves convention settings earlier device .battery := by
  have hstate := h.configured.batteryState
  by_cases hzero : device.batteryState = 0
  · have hr : device.respond (Operation.command convention .battery).request =
        (⟨.checkRtcBattery, 0, [0]⟩, device) := by
      rw [respond_battery, if_pos hzero, hzero]
    have hd : (Operation.command convention .battery).decode 0 [0] = .ok .lowOrAbsent := by
      cases convention <;> rfl
    exact h.read rfl hr (by decide) (by decide) hd (.noBattery (hstate ▸ hzero))
  · have hr : device.respond (Operation.command convention .battery).request =
        (⟨.checkRtcBattery, 1, [device.batteryState]⟩, device) := by
      rw [respond_battery, if_neg hzero]
    have hd : (Operation.command convention .battery).decode 1 [device.batteryState] =
        .ok .good := by
      cases convention <;>
        simp [Command.decode, Command.expecting, Command.byte?, BatteryConvention.evaluate, hzero]
    exact h.read rfl hr (by decide) (by simp [maxPayload]) hd (.battery (hstate ▸ hzero))

-- Only operations that get to the board are answered by it.
theorem Tracks.serves (h : Tracks settings earlier device)
    (hi : (operation.command convention).isImplemented = true)
    (hv : (operation.command convention).validate = .ok ()) :
    Serves convention settings earlier device operation := by
  cases operation with
  | mcuVersion =>
      exact h.read rfl rfl (by decide) (by simp [maxPayload]) rfl
        (h.configured.mcuVersion ▸ .mcuVersion)
  | fpgaVersion =>
      exact h.read rfl rfl (by decide) (by simp [maxPayload]) rfl
        (h.configured.fpgaVersion ▸ .fpgaVersion)
  | voltage channel => exact h.voltage channel
  | ledStatus led => exact h.ledStatus led
  | setLed led brightness color => exact h.setLed led brightness color
  | powerThreshold =>
      have hp : device.threshold.toBytes.length ≤ maxPayload := by
        simp [maxPayload]
      have hd : Command.decode 0 device.threshold.toBytes .powerThreshold =
          .ok device.threshold := by
        rw [Command.decode, PowerThreshold.ofBytes?_toBytes]
        rfl
      exact h.read rfl rfl (by decide) hp hd (h.configured.threshold ▸ .powerThreshold)
  | powerOnReason =>
      exact h.read rfl rfl (by decide) (by simp [maxPayload]) rfl
        (h.configured.powerOnReason ▸ .powerOnReason)
  | powerOff waitSeconds => exact h.powerOff waitSeconds
  | clock => exact h.clock
  | setClock text =>
      have hok : (Timestamp.ofText text).isOk = true := by
        simp only [Command.validate] at hv
        cases ht : Timestamp.ofText text with
        | error fault => simp [ht] at hv
        | ok time => rfl
      obtain ⟨fields, rfl⟩ := Timestamp.isOk_ofText_iff.mp hok
      exact h.setClock fields
  | calibration =>
      exact h.read rfl rfl (by decide) (by simp [maxPayload]) rfl
        (h.configured.calibration ▸ .calibration)
  | setPin pin value => exact h.setPin pin value
  | pinState pin => exact h.pinState pin
  | battery => exact h.battery
  | setPowerThreshold threshold => cases hi
  | setCalibration registers => cases hi
  | clockRegister address => cases hi
  | setClockRegister address value => cases hi

end BoardLink.Device

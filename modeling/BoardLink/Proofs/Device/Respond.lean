import BoardLink.Bench
import BoardLink.Proofs.Lookup
import BoardLink.Proofs.Message.Codec
import BoardLink.Proofs.Value.Spelling

-- How the board answers each command, and what becomes of its answers.
namespace BoardLink

namespace Command

variable {command : Command} {payload : Bytes}

theorem judge_toBytes {status : Int32} (hs : 0 ≤ status) (hp : payload.length ≤ maxPayload)
    {value : command.Answer} (hd : command.decode status payload = .ok value) :
    command.judge (Response.toBytes ⟨command.opcode, status, payload⟩) = .ok ⟨status, value⟩ := by
  have hread := @Response.ofBytes_toBytes ⟨command.opcode, status, payload⟩ hp
  have hsign : ¬ status < 0 := Int32.not_lt.mpr hs
  simp [judge, hread, Response.expectOpcode, hsign, hd]

theorem judge_rejected :
    command.judge (Response.failure command.opcode Device.rejected).toBytes =
      .error (.device (-1)) := by
  have hread : Response.ofBytes (Response.failure command.opcode Device.rejected).toBytes =
      .ok ⟨command.opcode, -1, []⟩ := Response.ofBytes_toBytes (Nat.zero_le _)
  have hsign : (-1 : Int32) < 0 := by decide
  rw [judge, hread]
  simp [Response.expectOpcode, hsign]

end Command

namespace Device

variable {device : Device}

-- Without a script, every request that is sent gets to the registers.
theorem handle_unscripted {command : Command}
    (hs : device.scripts.lookup command.opcode = none) :
    device.handle command.request.toBytes =
      (.ok (device.respond command.request).1.toBytes, (device.respond command.request).2) := by
  have hread := @Request.ofBytes_toBytes command.request command.length_payload_le
  have hlookup : device.scripts.lookup command.request.opcode = none := hs
  simp only [handle, hread, hlookup]

theorem responder_unscripted {command : Command} (hs : device.scripts.lookup command.opcode = none) :
    Responder.device command.request.toBytes device =
      (.finished (.ok (device.respond command.request).1.toBytes),
        (device.respond command.request).2) := by
  rw [Responder.device, handle_unscripted hs]

theorem responder_request (hs : device.scripts = []) (command : Command) :
    Responder.device command.request.toBytes device =
      (.finished (.ok (device.respond command.request).1.toBytes),
        (device.respond command.request).2) := by
  apply responder_unscripted
  rw [hs]
  rfl

-- The board looks the channel up. Here and in the next few lemmas the request is known, so that
-- all that is left of the answer is what the arguments decide.
theorem respond_voltage_eq (device : Device) (channel : UInt8) :
    device.respond (Command.voltage channel).request =
      match device.voltages[channel.toNat]? with
      | some millivolts =>
        (.success .getAdcOrGpiVoltage (BigEndian.encode 4 millivolts.toNat), device)
      | none => (.failure .getAdcOrGpiVoltage rejected, device) :=
  rfl

theorem respond_voltage {channel : UInt8} {millivolts : UInt32}
    (h : device.voltages[channel.toNat]? = some millivolts) :
    device.respond (Command.voltage channel).request =
      (.success .getAdcOrGpiVoltage (BigEndian.encode 4 millivolts.toNat), device) := by
  rw [respond_voltage_eq, h]

theorem respond_voltage_of_none {channel : UInt8} (h : device.voltages[channel.toNat]? = none) :
    device.respond (Command.voltage channel).request =
      (.failure .getAdcOrGpiVoltage rejected, device) := by
  rw [respond_voltage_eq, h]

theorem respond_ledStatus_eq (device : Device) (led : UInt8) :
    device.respond (Command.ledStatus led).request =
      match device.led? led.toNat with
      | some status => (.success .getLedStatus status.toBytes, device)
      | none => (.failure .getLedStatus rejected, device) :=
  rfl

theorem respond_ledStatus {led : UInt8} {status : LedStatus}
    (h : device.led? led.toNat = some status) :
    device.respond (Command.ledStatus led).request =
      (.success .getLedStatus status.toBytes, device) := by
  rw [respond_ledStatus_eq, h]

theorem respond_ledStatus_of_none {led : UInt8} (h : device.led? led.toNat = none) :
    device.respond (Command.ledStatus led).request =
      (.failure .getLedStatus rejected, device) := by
  rw [respond_ledStatus_eq, h]

theorem respond_setLed_eq (device : Device) (led brightness : UInt8) (color : RgbColor) :
    device.respond (Command.setLed led brightness color).request =
      if led.toNat < device.leds.length then
        (.success .setLedValue [],
          { device with leds := device.leds.set led.toNat ⟨brightness, color⟩ })
      else (.failure .setLedValue rejected, device) :=
  rfl

theorem respond_setLed {led brightness : UInt8} {color : RgbColor}
    (h : led.toNat < device.leds.length) :
    device.respond (Command.setLed led brightness color).request =
      (.success .setLedValue [],
        { device with leds := device.leds.set led.toNat ⟨brightness, color⟩ }) := by
  rw [respond_setLed_eq, if_pos h]

theorem respond_setLed_of_le {led brightness : UInt8} {color : RgbColor}
    (h : device.leds.length ≤ led.toNat) :
    device.respond (Command.setLed led brightness color).request =
      (.failure .setLedValue rejected, device) := by
  rw [respond_setLed_eq, if_neg (Nat.not_lt.mpr h)]

theorem respond_powerOff (waitSeconds : UInt32) :
    device.respond (Command.powerOff waitSeconds).request =
      (.success .setDevicePowerOff [], { device with powerOffWait := some waitSeconds }) := by
  have hrespond : device.respond (Command.powerOff waitSeconds).request =
      (.success .setDevicePowerOff [], { device with
        powerOffWait := some (UInt32.ofNat
          (BigEndian.decode (BigEndian.encode 4 waitSeconds.toNat))) }) := rfl
  rw [hrespond, BigEndian.ofNat_decode_encode_four]

theorem respond_setClock {text : String} {clock : Timestamp}
    (h : Timestamp.ofText text = .ok clock) :
    device.respond (Command.setClock text).request =
      (.success .setRtcDateTime [], { device with clock }) := by
  simp [respond, Command.opcode, Command.payload, Timestamp.ofWire_field h]

theorem pinOfBytes_encode (pin : UInt16) :
    pinOfBytes (UInt8.ofNat (pin.toNat / 256)) (UInt8.ofNat pin.toNat) = pin := by
  have hpin := BigEndian.ofNat_decode_encode_two pin
  rwa [BigEndian.encode_two] at hpin

theorem respond_setPin (pin : UInt16) (high : Bool) :
    device.respond (Command.setPin pin high).request =
      (.success .setGpioDebugState [], device.setPin pin high) := by
  have hrespond : device.respond (Command.setPin pin high).request =
      if high.toUInt8 ≤ 1 then
        (.success .setGpioDebugState [],
          device.setPin (pinOfBytes (UInt8.ofNat (pin.toNat / 256)) (UInt8.ofNat pin.toNat))
            (high.toUInt8 = 1))
      else (.failure .setGpioDebugState rejected, device) := rfl
  have hlevel : high.toUInt8 ≤ 1 ∧ decide (high.toUInt8 = 1) = high := by
    cases high <;> decide
  rw [hrespond, if_pos hlevel.1, hlevel.2, pinOfBytes_encode]

theorem respond_pinState (pin : UInt16) :
    device.respond (Command.pinState pin).request =
      (.success .getGpioDebugState [(device.pin pin).toUInt8], device) := by
  have hrespond : device.respond (Command.pinState pin).request =
      (.success .getGpioDebugState [(device.pin
        (pinOfBytes (UInt8.ofNat (pin.toNat / 256)) (UInt8.ofNat pin.toNat))).toUInt8],
        device) := rfl
  rw [hrespond, pinOfBytes_encode]

theorem respond_battery (device : Device) (convention : BatteryConvention) :
    device.respond (Command.battery convention).request =
      (⟨.checkRtcBattery, if device.batteryState = 0 then 0 else 1, [device.batteryState]⟩,
        device) :=
  rfl

-- The pin that was written is the only one that changes.
theorem pin_setPin (pin target : UInt16) (high : Bool) :
    (device.setPin target high).pin pin = if target = pin then high else device.pin pin := by
  rw [Device.pin, setPin, lookup_replace]
  split <;> rfl

-- So is the lamp that was written.
theorem led?_set {target : Nat} (h : target < device.leds.length) (status : LedStatus)
    (lamp : Nat) : led? { device with leds := device.leds.set target status } lamp =
      if target = lamp then some status else device.led? lamp := by
  rw [led?, List.getElem?_set]
  by_cases heq : target = lamp
  · rw [if_pos heq, if_pos heq, if_pos h]
  · rw [if_neg heq, if_neg heq, led?]

end Device

end BoardLink

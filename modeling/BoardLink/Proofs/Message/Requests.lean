import BoardLink.Operation
import BoardLink.Proofs.Value.Timestamp
import BoardLink.Proofs.Wire.Stream

-- Requests tell everything about the operation that was asked for, except what is cut off a pin
-- and its level on purpose. The operation is read back from the bytes, which settles all pairs of
-- operations at once.
namespace BoardLink

namespace Operation

-- The body that is sent for an operation.
def body (convention : BatteryConvention) (operation : Operation) : Bytes :=
  (operation.command convention).request.toBytes

-- What is left of an operation on the wire: a pin counts modulo 65536 and a level modulo 2.
def masked : Operation → Operation
  | .setPin pin value => .setPin (pin % 65536) (value % 2)
  | .pinState pin => .pinState (pin % 65536)
  | operation => operation

-- The operation that a request asks for.
def ofRequest? (request : Request) : Option Operation :=
  match request.opcode, request.payload with
  | .getMcuVersion, [] => some .mcuVersion
  | .getFpgaVersion, [] => some .fpgaVersion
  | .getAdcOrGpiVoltage, [channel] => some (.voltage channel)
  | .setLedValue, [led, brightness, red, green, blue] =>
    some (.setLed led brightness ⟨red, green, blue⟩)
  | .getLedStatus, [led] => some (.ledStatus led)
  | .getPowerOnThresholdConfig, [] => some .powerThreshold
  | .setPowerOnThresholdConfig, payload =>
    (PowerThreshold.ofBytes? payload).map .setPowerThreshold
  | .getPowerOnReason, [] => some .powerOnReason
  | .setDevicePowerOff, [a, b, c, d] =>
    some (.powerOff (UInt32.ofNat (BigEndian.decode [a, b, c, d])))
  | .getRtcDateTime, [] => some .clock
  | .setRtcDateTime, field =>
    match Timestamp.ofWire field with
    | .ok time => some (.setClock time.text)
    | .error _ => none
  | .getRtcCalibrationRegisters, [] => some .calibration
  | .setRtcCalibrationRegisters, payload =>
    (CalibrationRegisters.ofBytes? payload).map .setCalibration
  | .getRtcDebugRegister, [address] => some (.clockRegister address)
  | .setRtcDebugRegister, [address, value] => some (.setClockRegister address value)
  | .setGpioDebugState, [high, low, value] =>
    some (.setPin (UInt32.ofNat (BigEndian.decode [high, low])) value.toUInt32)
  | .getGpioDebugState, [high, low] =>
    some (.pinState (UInt32.ofNat (BigEndian.decode [high, low])))
  | .checkRtcBattery, [] => some .battery
  | _, _ => none

variable {convention : BatteryConvention}

theorem opcode_command (convention : BatteryConvention) (operation : Operation) :
    (operation.command convention).opcode = operation.opcode := by
  cases operation <;> rfl

theorem ofNat_decode_maskPin (pin : UInt32) :
    UInt32.ofNat (BigEndian.decode (BigEndian.encode 2 (maskPin pin).toNat)) = pin % 65536 := by
  have hmask : (maskPin pin).toNat = pin.toNat % 65536 := rfl
  have hwidth : (65536 : UInt32).toNat = 65536 := rfl
  apply UInt32.toNat_inj.mp
  rw [BigEndian.decode_encode, hmask, UInt32.toNat_ofNat', UInt32.toNat_mod, hwidth]
  omega

theorem toUInt32_maskLevel (value : UInt32) :
    (maskLevel value).toUInt8.toUInt32 = value % 2 := by
  have hwidth : (2 : UInt32).toNat = 2 := rfl
  apply UInt32.toNat_inj.mp
  rw [UInt32.toNat_mod, hwidth]
  by_cases hodd : value.toNat % 2 = 1
  · rw [maskLevel, decide_eq_true hodd, hodd]
    rfl
  · have heven : value.toNat % 2 = 0 := by omega
    rw [maskLevel, decide_eq_false hodd, heven]
    rfl

-- The level and the pin are cut before they are sent, so cutting them twice changes nothing.
theorem request_masked (operation : Operation) :
    (operation.masked.command convention).request = (operation.command convention).request := by
  have hpin : ∀ pin : UInt32, maskPin (pin % 65536) = maskPin pin := by
    intro pin
    apply UInt16.toNat_inj.mp
    have hmask : ∀ n : UInt32, (maskPin n).toNat = n.toNat % 65536 := fun _ => rfl
    rw [hmask, hmask, UInt32.toNat_mod]
    exact Nat.mod_mod ..
  have hlevel : ∀ value : UInt32, maskLevel (value % 2) = maskLevel value := by
    intro value
    have hmod : value.toNat % (2 : UInt32).toNat % 2 = value.toNat % 2 := Nat.mod_mod ..
    rw [maskLevel, maskLevel, UInt32.toNat_mod, hmod]
  cases operation with
  | setPin pin value => simp only [masked, command, hpin, hlevel]
  | pinState pin => simp only [masked, command, hpin]
  | _ => rfl

-- The battery is judged by the reader of the answer, and the request does not tell how.
theorem request_convention (other : BatteryConvention) (operation : Operation) :
    (operation.command convention).request = (operation.command other).request := by
  cases operation <;> rfl

theorem ofRequest?_request {operation : Operation}
    (h : (operation.command convention).validate = .ok ()) :
    ofRequest? (operation.command convention).request = some operation.masked := by
  cases operation with
  | setPowerThreshold threshold =>
      simp only [ofRequest?, Command.request, Command.opcode, Command.payload,
        PowerThreshold.ofBytes?_toBytes, Option.map_some, masked]
  | powerOff waitSeconds =>
      have hwait := BigEndian.ofNat_decode_encode_four waitSeconds
      rw [BigEndian.encode_four] at hwait
      simp only [ofRequest?, Command.request, Command.opcode, Command.payload,
        BigEndian.encode_four, hwait, masked]
  | setClock text =>
      obtain ⟨time, htext⟩ : ∃ time, Timestamp.ofText text = .ok time := by
        cases htext : Timestamp.ofText text with
        | error fault => simp [Command.validate, htext] at h
        | ok time => exact ⟨time, rfl⟩
      simp only [ofRequest?, Command.request, Command.opcode, Command.payload,
        Timestamp.ofWire_field htext, Timestamp.text_of_ofText htext, masked]
  | setPin pin value =>
      have hpin := ofNat_decode_maskPin pin
      rw [BigEndian.encode_two] at hpin
      simp only [ofRequest?, Command.request, Command.opcode, Command.payload,
        BigEndian.encode_two, List.cons_append, List.nil_append, hpin, toUInt32_maskLevel, masked]
  | pinState pin =>
      have hpin := ofNat_decode_maskPin pin
      rw [BigEndian.encode_two] at hpin
      simp only [ofRequest?, Command.request, Command.opcode, Command.payload,
        BigEndian.encode_two, hpin, masked]
  | _ => rfl

-- A time is the longest thing that is ever sent.
theorem length_body_le (convention : BatteryConvention) (operation : Operation) :
    (operation.body convention).length ≤ 24 := by
  have hpayload := (operation.command convention).length_payload_le_field
  exact Nat.succ_le_succ hpayload

theorem ofBytes_body (operation : Operation) :
    Request.ofBytes (operation.body convention) =
      .ok ⟨operation.opcode, (operation.command convention).payload⟩ := by
  rw [← opcode_command convention]
  exact Request.ofBytes_toBytes (operation.command convention).length_payload_le

theorem request_of_body {other : BatteryConvention} {a b : Operation}
    (h : a.body convention = b.body other) :
    (a.command convention).request = (b.command other).request := by
  have hbytes := congrArg Request.ofBytes h
  rw [body, body, Request.ofBytes_toBytes (Command.length_payload_le _),
    Request.ofBytes_toBytes (Command.length_payload_le _)] at hbytes
  exact Except.ok.inj hbytes

end Operation

-- Every request fits into a frame and is read back, and equal requests ask for the same.
theorem requests_tell_operations_apart :
    (∀ (convention : BatteryConvention) (operation : Operation),
      (operation.body convention).length ≤ 24 ∧
        (∀ sink : Sink, sink.Endless →
          (sink.writeFrame (operation.body convention)).1 = .ok () ∧
            (sink.writeFrame (operation.body convention)).2.written =
              sink.written ++ Frame.encode (operation.body convention)) ∧
        Request.ofBytes (operation.body convention) =
          .ok ⟨operation.opcode, (operation.command convention).payload⟩) ∧
      ∀ (convention other : BatteryConvention) (a b : Operation),
        (a.command convention).validate = .ok () → (b.command other).validate = .ok () →
          (a.body convention = b.body other ↔ a.masked = b.masked) := by
  constructor
  · intro convention operation
    have hlen := operation.length_body_le convention
    refine ⟨hlen, fun sink hsink => ?_, operation.ofBytes_body⟩
    have hfits : (operation.body convention).length ≤ 37 := Nat.le_trans hlen (by decide)
    obtain ⟨after, hwrite, hwritten, -⟩ := Sink.writeFrame_of_endless hsink hfits
    rw [hwrite]
    exact ⟨rfl, hwritten⟩
  · intro convention other a b ha hb
    have hreada := Operation.ofRequest?_request ha
    have hreadb := Operation.ofRequest?_request hb
    constructor
    · intro hbody
      rw [Operation.request_of_body hbody, hreadb] at hreada
      exact (Option.some.inj hreada).symm
    · intro hmasked
      have hrequests : (a.command convention).request = (b.command other).request := by
        rw [← Operation.request_masked a, ← Operation.request_masked b, hmasked]
        exact Operation.request_convention other b.masked
      rw [Operation.body, Operation.body, hrequests]

-- A hundredth of a second makes another request. Pin 65541 is pin 5 for the board, and 3 is high.
theorem times_differ_and_pins_wrap :
    (Command.setClock "2016-03-29 19:09:06.58").validate = .ok () ∧
      (Command.setClock "2016-03-29 19:09:06.59").validate = .ok () ∧
      (Operation.setClock "2016-03-29 19:09:06.58").body .payloadNonZero ≠
        (Operation.setClock "2016-03-29 19:09:06.59").body .payloadNonZero ∧
      (Operation.setPin 65541 3).body .payloadNonZero =
        (Operation.setPin 5 1).body .statusPositive := by
  have hearly : (Command.setClock "2016-03-29 19:09:06.58").validate = .ok () := rfl
  have hlate : (Command.setClock "2016-03-29 19:09:06.59").validate = .ok () := rfl
  have htimes := requests_tell_operations_apart.2 .payloadNonZero .payloadNonZero
    (.setClock "2016-03-29 19:09:06.58") (.setClock "2016-03-29 19:09:06.59") hearly hlate
  have hpins := requests_tell_operations_apart.2 .payloadNonZero .statusPositive
    (.setPin 65541 3) (.setPin 5 1) rfl rfl
  exact ⟨hearly, hlate, fun h => absurd (htimes.mp h) (by decide), hpins.mpr (by decide)⟩

end BoardLink

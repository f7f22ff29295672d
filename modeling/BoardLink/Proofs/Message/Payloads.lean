import BoardLink.Proofs.Message.Reading
import BoardLink.Proofs.Value.Timestamp

-- What the board's answers say. Almost every answer is a value of fixed width, which is read from
-- all payloads of that width and shows every byte of them. A pin and the clock take fewer, and the
-- health of the battery shows less.
namespace BoardLink

open Text

-- Every payload of one width is what some value is written as, and is read as that value again.
-- Payloads of another width are not read at all.
structure FixedWidth {α : Type} (width : Nat) (write : α → Bytes) (read : Bytes → Option α) :
    Prop where
  covers : ∀ payload, payload.length = width → ∃ value, write value = payload
  read_write : ∀ value, read (write value) = some value
  strict : ∀ payload, payload.length ≠ width → read payload = none

namespace FixedWidth

variable {α : Type} {width : Nat} {write : α → Bytes} {read : Bytes → Option α} {payload : Bytes}

theorem exists_read (h : FixedWidth width write read) (hlen : payload.length = width) :
    ∃ value, read payload = some value := by
  obtain ⟨value, rfl⟩ := h.covers payload hlen
  exact ⟨value, h.read_write value⟩

-- No two payloads are read as one value, because a value is written in one way.
theorem write_of_read (h : FixedWidth width write read) {value : α}
    (hread : read payload = some value) : write value = payload := by
  by_cases hlen : payload.length = width
  · obtain ⟨found, rfl⟩ := h.covers payload hlen
    rw [h.read_write] at hread
    cases hread
    rfl
  · rw [h.strict payload hlen] at hread
    cases hread

end FixedWidth

section Layouts

theorem fixedWidth_nothing : FixedWidth 0 (fun _ => []) Command.nothing? where
  covers := fun _ h => ⟨(), (List.length_eq_zero_iff.mp h).symm⟩
  read_write := fun _ => rfl
  strict := by
    intro payload h
    unfold Command.nothing?
    split
    · exact absurd rfl h
    · rfl

theorem fixedWidth_byte : FixedWidth 1 (fun byte => [byte]) Command.byte? where
  covers := by
    intro payload h
    match payload, h with
    | [byte], _ => exact ⟨byte, rfl⟩
  read_write := fun _ => rfl
  strict := by
    intro payload h
    unfold Command.byte?
    split
    · exact absurd rfl h
    · rfl

theorem fixedWidth_reason : FixedWidth 1 (fun reason => [reason.raw])
    fun payload => (Command.byte? payload).map PowerOnReason.mk where
  covers := by
    intro payload h
    obtain ⟨byte, hbyte⟩ := fixedWidth_byte.covers payload h
    exact ⟨⟨byte⟩, hbyte⟩
  read_write := fun _ => rfl
  strict := by
    intro payload h
    rw [fixedWidth_byte.strict payload h]
    rfl

theorem fixedWidth_word :
    FixedWidth 4 (fun number => BigEndian.encode 4 number.toNat) Command.word? where
  covers := by
    intro payload h
    have hlt := BigEndian.decode_lt payload
    have hbytes := BigEndian.encode_decode payload
    rw [h] at hlt hbytes
    refine ⟨UInt32.ofNat (BigEndian.decode payload), ?_⟩
    rw [UInt32.toNat_ofNat_of_lt' hlt, hbytes]
  read_write := by
    intro number
    rw [Command.word?, if_pos (BigEndian.length_encode ..), BigEndian.ofNat_decode_encode_four]
  strict := fun _ h => if_neg h

theorem fixedWidth_version :
    FixedWidth 4 FirmwareVersion.toBytes FirmwareVersion.ofBytes? where
  covers := by
    intro payload h
    match payload, h with
    | [a, b, c, d], _ => exact ⟨⟨a, b, c, d⟩, rfl⟩
  read_write := FirmwareVersion.ofBytes?_toBytes
  strict := by
    intro payload h
    unfold FirmwareVersion.ofBytes?
    split
    · exact absurd rfl h
    · rfl

theorem fixedWidth_lamp : FixedWidth 4 LedStatus.toBytes LedStatus.ofBytes? where
  covers := by
    intro payload h
    match payload, h with
    | [brightness, red, green, blue], _ => exact ⟨⟨brightness, red, green, blue⟩, rfl⟩
  read_write := LedStatus.ofBytes?_toBytes
  strict := by
    intro payload h
    unfold LedStatus.ofBytes?
    split
    · exact absurd rfl h
    · rfl

theorem fixedWidth_calibration :
    FixedWidth 2 CalibrationRegisters.toBytes CalibrationRegisters.ofBytes? where
  covers := by
    intro payload h
    match payload, h with
    | [digital, analog], _ => exact ⟨⟨digital, analog⟩, rfl⟩
  read_write := fun _ => rfl
  strict := by
    intro payload h
    unfold CalibrationRegisters.ofBytes?
    split
    · exact absurd rfl h
    · rfl

theorem encode_two_decode (a b : UInt8) :
    BigEndian.encode 2 (UInt16.ofNat (BigEndian.decode [a, b])).toNat = [a, b] := by
  have hlt : BigEndian.decode [a, b] < UInt16.size := by simpa using BigEndian.decode_lt [a, b]
  rw [UInt16.toNat_ofNat_of_lt' hlt]
  exact BigEndian.encode_decode [a, b]

theorem fixedWidth_threshold :
    FixedWidth 6 PowerThreshold.toBytes PowerThreshold.ofBytes? where
  covers := by
    intro payload h
    match payload, h with
    | [a, b, c, d, e, f], _ =>
        refine ⟨⟨UInt16.ofNat (BigEndian.decode [a, b]), UInt16.ofNat (BigEndian.decode [c, d]),
          UInt16.ofNat (BigEndian.decode [e, f])⟩, ?_⟩
        simp only [PowerThreshold.toBytes, encode_two_decode, List.cons_append, List.nil_append]
  read_write := PowerThreshold.ofBytes?_toBytes
  strict := by
    intro payload h
    unfold PowerThreshold.ofBytes?
    split
    · exact absurd rfl h
    · rfl

end Layouts

namespace Opcode

-- The lengths of the answers in the order of the opcodes' numbers.
def answerLengths : List Nat := [4, 4, 4, 0, 4, 6, 0, 1, 0, 23, 0, 2, 0, 1, 0, 0, 1, 1]

def answerLength (opcode : Opcode) : Nat := answerLengths.getD (opcode.toByte.toNat - 1) 0

theorem replyLength_eq (opcode : Opcode) : opcode.replyLength = opcode.answerLength := by
  cases opcode <;> rfl

end Opcode

namespace Command

-- What an answer says beside its length: a pin is low or high, and the clock shows a time.
def Meaningful : Command → Bytes → Prop
  | .pinState _, payload => payload = [0] ∨ payload = [1]
  | .clock, payload =>
    ∃ text, Timestamp.Shaped text ∧ payload = Utf8.encode text.toList ++ [0]
  | _, _ => True

theorem meaningful_pinState (pin : UInt16) (payload : Bytes) :
    (Command.pinState pin).Meaningful payload ↔ payload = [0] ∨ payload = [1] := Iff.rfl

-- The answer is a value of fixed width and nothing else counts.
def Laid (command : Command) : Prop :=
  ∃ (write : command.Answer → Bytes) (read : Bytes → Option command.Answer),
    FixedWidth command.opcode.replyLength write read ∧
      (∀ payload, command.Meaningful payload) ∧
      ∀ status payload,
        command.decode status payload = expecting command.opcode payload (read payload)

theorem laid_or (command : Command) :
    command = .clock ∨ (∃ pin, command = .pinState pin) ∨
      (∃ convention, command = .battery convention) ∨ command.Laid := by
  cases command with
  | clock => exact .inl rfl
  | pinState pin => exact .inr (.inl ⟨pin, rfl⟩)
  | battery convention => exact .inr (.inr (.inl ⟨convention, rfl⟩))
  | mcuVersion | fpgaVersion =>
      exact .inr (.inr (.inr ⟨_, _, fixedWidth_version, fun _ => trivial, fun _ _ => rfl⟩))
  | voltage channel =>
      exact .inr (.inr (.inr ⟨_, _, fixedWidth_word, fun _ => trivial, fun _ _ => rfl⟩))
  | ledStatus led =>
      exact .inr (.inr (.inr ⟨_, _, fixedWidth_lamp, fun _ => trivial, fun _ _ => rfl⟩))
  | powerThreshold =>
      exact .inr (.inr (.inr ⟨_, _, fixedWidth_threshold, fun _ => trivial, fun _ _ => rfl⟩))
  | powerOnReason =>
      exact .inr (.inr (.inr ⟨_, _, fixedWidth_reason, fun _ => trivial, fun _ _ => rfl⟩))
  | calibration =>
      exact .inr (.inr (.inr ⟨_, _, fixedWidth_calibration, fun _ => trivial, fun _ _ => rfl⟩))
  | clockRegister address =>
      exact .inr (.inr (.inr ⟨_, _, fixedWidth_byte, fun _ => trivial, fun _ _ => rfl⟩))
  | setLed | setPowerThreshold | powerOff | setClock | setCalibration | setClockRegister | setPin =>
      exact .inr (.inr (.inr ⟨_, _, fixedWidth_nothing, fun _ => trivial, fun _ _ => rfl⟩))

variable {command : Command} {status : Int32} {payload : Bytes}

-- The length is looked at first, so nothing else can be wrong with a payload of another length.
theorem decode_of_length_ne (h : payload.length ≠ command.opcode.replyLength) :
    command.decode status payload =
      .error (.invalidLength command.opcode command.opcode.replyLength payload.length) := by
  rcases command.laid_or with rfl | ⟨pin, rfl⟩ | ⟨convention, rfl⟩ | ⟨write, read, hwidth, -, hread⟩
  · exact if_neg h
  · match payload with
    | [] | _ :: _ :: _ => simp only [decode, opcode, Opcode.replyLength]
    | [_] => exact absurd rfl h
  · have hnone := fixedWidth_byte.strict payload h
    rw [decode, hnone]
    rfl
  · rw [hread, hwidth.strict payload h]
    rfl

theorem isOk_decode_clock_iff (hlen : payload.length = Timestamp.fieldLength) :
    (Command.clock.decode status payload).isOk = true ↔ Command.clock.Meaningful payload := by
  rw [decode, if_pos hlen]
  constructor
  · intro h
    cases hread : Timestamp.ofWire payload with
    | error fault =>
        rw [hread] at h
        cases h
    | ok time =>
        obtain ⟨text, htext, hpayload⟩ := Timestamp.exists_text_of_ofWire hread
        refine ⟨text, Timestamp.isOk_ofText_iff_shaped.mp ?_, hpayload⟩
        rw [htext]
        rfl
  · rintro ⟨text, hshaped, hpayload⟩
    have hok := Timestamp.isOk_ofText_iff_shaped.mpr hshaped
    cases htext : Timestamp.ofText text with
    | error fault =>
        rw [htext] at hok
        cases hok
    | ok time =>
        rw [Timestamp.ofWire_eq_ok_iff.mpr ⟨text, htext, hpayload⟩]
        rfl

theorem decode_pinState (pin : UInt16) (status : Int32) (byte : UInt8) :
    (Command.pinState pin).decode status [byte] =
      if byte = 0 then .ok false else if byte = 1 then .ok true
      else .error (.invalidValue .gpioValue byte.toUInt32) := by
  simp only [decode]
  split <;> simp_all

theorem isOk_decode_pinState_iff {pin : UInt16} (hlen : payload.length = 1) :
    ((Command.pinState pin).decode status payload).isOk = true ↔
      (Command.pinState pin).Meaningful payload := by
  obtain ⟨byte, hbyte⟩ := fixedWidth_byte.covers payload hlen
  subst hbyte
  rw [decode_pinState, meaningful_pinState, List.singleton_inj, List.singleton_inj]
  by_cases hlow : byte = 0
  · rw [if_pos hlow]
    exact ⟨fun _ => .inl hlow, fun _ => rfl⟩
  · by_cases hhigh : byte = 1
    · rw [if_neg hlow, if_pos hhigh]
      exact ⟨fun _ => .inr hhigh, fun _ => rfl⟩
    · rw [if_neg hlow, if_neg hhigh]
      exact ⟨fun h => absurd h Bool.false_ne_true, fun h => absurd h (not_or.mpr ⟨hlow, hhigh⟩)⟩

theorem isOk_decode_iff_meaningful (hlen : payload.length = command.opcode.replyLength) :
    (command.decode status payload).isOk = true ↔ command.Meaningful payload := by
  rcases command.laid_or with rfl | ⟨pin, rfl⟩ | ⟨convention, rfl⟩ |
    ⟨write, read, hwidth, hmeaning, hread⟩
  · exact isOk_decode_clock_iff hlen
  · exact isOk_decode_pinState_iff hlen
  · obtain ⟨byte, hbyte⟩ := fixedWidth_byte.exists_read hlen
    rw [decode, hbyte]
    exact ⟨fun _ => trivial, fun _ => rfl⟩
  · obtain ⟨value, hvalue⟩ := hwidth.exists_read hlen
    rw [hread, hvalue]
    exact ⟨fun _ => hmeaning payload, fun _ => rfl⟩

theorem isOk_decode_iff :
    (command.decode status payload).isOk = true ↔
      payload.length = command.opcode.replyLength ∧ command.Meaningful payload := by
  by_cases hlen : payload.length = command.opcode.replyLength
  · rw [isOk_decode_iff_meaningful hlen, and_iff_right hlen]
  · rw [decode_of_length_ne hlen]
    exact ⟨fun h => absurd h Bool.false_ne_true, fun h => absurd h.1 hlen⟩

theorem payload_of_pinState {pin : UInt16} {high : Bool}
    (h : (Command.pinState pin).decode status payload = .ok high) : payload = [high.toUInt8] := by
  by_cases hlen : payload.length = 1
  · obtain ⟨byte, hbyte⟩ := fixedWidth_byte.covers payload hlen
    subst hbyte
    rw [decode_pinState] at h
    split at h
    · rename_i hlow
      cases h
      rw [hlow]
      rfl
    · split at h
      · rename_i hhigh
        cases h
        rw [hhigh]
        rfl
      · cases h
  · rw [decode_of_length_ne hlen] at h
    cases h

-- The answer shows all of its payload. Of the battery it tells only one of two things.
theorem exists_payload (hb : ∀ convention, command ≠ .battery convention)
    (value : command.Answer) :
    ∃ shown, ∀ status payload, command.decode status payload = .ok value → payload = shown := by
  rcases command.laid_or with rfl | ⟨pin, rfl⟩ | ⟨convention, rfl⟩ | ⟨write, read, hwidth, -, hread⟩
  · refine ⟨Timestamp.toWire value, fun status payload h => ?_⟩
    by_cases hlen : payload.length = Timestamp.fieldLength
    · rw [decode, if_pos hlen] at h
      exact (Timestamp.toWire_of_ofWire h).symm
    · rw [decode_of_length_ne hlen] at h
      cases h
  · exact ⟨_, fun status payload => payload_of_pinState⟩
  · exact absurd rfl (hb convention)
  · refine ⟨write value, fun status payload h => ?_⟩
    rw [hread] at h
    cases hvalue : read payload with
    | none =>
        rw [hvalue] at h
        cases h
    | some found =>
        rw [hvalue] at h
        cases h
        exact (hwidth.write_of_read hvalue).symm

end Command

-- An answer is read if and only if its length is the one of the table and its content makes
-- sense. Another length is always told as such, and nothing of an answer is lost.
theorem answers_read_strictly :
    (∀ (command : Command) (status : Int32) (payload : Bytes),
      (command.decode status payload).isOk = true ↔
        payload.length = command.opcode.answerLength ∧ command.Meaningful payload) ∧
      (∀ (command : Command) (status : Int32) (payload : Bytes),
        payload.length ≠ command.opcode.answerLength →
          command.decode status payload = .error
            (.invalidLength command.opcode command.opcode.answerLength payload.length)) ∧
      ∀ command : Command, (∀ convention, command ≠ .battery convention) →
        ∀ (status other : Int32) (payload copy : Bytes) (value : command.Answer),
          command.decode status payload = .ok value → command.decode other copy = .ok value →
            payload = copy := by
  refine ⟨?_, ?_, ?_⟩
  · intro command status payload
    rw [← Opcode.replyLength_eq]
    exact Command.isOk_decode_iff
  · intro command status payload h
    rw [← Opcode.replyLength_eq] at h ⊢
    exact Command.decode_of_length_ne h
  · intro command hb status other payload copy value hpayload hcopy
    obtain ⟨shown, hshown⟩ := Command.exists_payload hb value
    exact (hshown status payload hpayload).trans (hshown other copy hcopy).symm

-- Two bytes are no time, and a time comes in one field only.
theorem one_field_for_a_time :
    Command.clock.decode 0 [1, 2] = .error (.invalidLength .getRtcDateTime 23 2) ∧
      Command.clock.decode 0 (Timestamp.toWire ⟨2016, 3, 29, 19, 9, 6, 58⟩) =
        .ok ⟨2016, 3, 29, 19, 9, 6, 58⟩ ∧
      Command.clock.decode 1 (Timestamp.field "2016-03-29 19:09:06.58") =
        .ok ⟨2016, 3, 29, 19, 9, 6, 58⟩ ∧
      Timestamp.toWire ⟨2016, 3, 29, 19, 9, 6, 58⟩ = Timestamp.field "2016-03-29 19:09:06.58" := by
  have hshort := answers_read_strictly.2.1 .clock 0 [1, 2] (by decide)
  have hwire : Command.clock.decode 0 (Timestamp.toWire ⟨2016, 3, 29, 19, 9, 6, 58⟩) =
      .ok ⟨2016, 3, 29, 19, 9, 6, 58⟩ := rfl
  have hfield : Command.clock.decode 1 (Timestamp.field "2016-03-29 19:09:06.58") =
      .ok ⟨2016, 3, 29, 19, 9, 6, 58⟩ := rfl
  have hsame := answers_read_strictly.2.2 .clock (by simp) 0 1 _ _ _ hwire hfield
  exact ⟨hshort, hwire, hfield, hsame⟩

end BoardLink

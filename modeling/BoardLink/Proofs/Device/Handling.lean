import BoardLink.Proofs.Device.Respond
import BoardLink.Proofs.Device.Setup
import BoardLink.Proofs.Message.Payloads

-- What the board makes of any bytes at all, after any history of settings, scripts and requests.
-- Bytes that are no request and requests that it rejects leave it as it was, and whatever it says
-- without a script is said in the form that the reader of that command expects.
namespace BoardLink

namespace Timestamp

-- The text of a time has room for what is in range and for nothing more.
theorem inRange_of_ofText {text : String} {time : Timestamp} (h : ofText text = .ok time) :
    time.InRange := by
  have hread := ofText_text_eq time
  rw [text_of_ofText h, h] at hread
  exact reduced_eq_iff.mp (Except.ok.inj hread).symm

theorem inRange_of_ofWire {field : Bytes} {time : Timestamp} (h : ofWire field = .ok time) :
    time.InRange := by
  obtain ⟨text, htext, -⟩ := exists_text_of_ofWire h
  exact inRange_of_ofText htext

theorem InRange.ofWire_toWire {time : Timestamp} (h : time.InRange) :
    ofWire time.toWire = .ok time := by
  have hread := ofWire_field (ofText_text_eq time)
  rwa [reduced_eq_iff.mpr h] at hread

end Timestamp

namespace Device

-- What the reader of any command with this opcode takes for an answer.
def Readable (opcode : Opcode) (status : Int32) (payload : Bytes) : Prop :=
  ∀ command : Command, command.opcode = opcode → (command.decode status payload).isOk = true

-- Requests that ask for a register to be written, if they are accepted.
def writes (opcode : Opcode) : Bool :=
  opcode = .setLedValue || opcode = .setDevicePowerOff || opcode = .setRtcDateTime ||
    opcode = .setGpioDebugState

-- The board after an accepted request. The register that the request is about has the value that it
-- asks for, and all else is as before.
inductive Applied (device : Device) : Request → Device → Prop where
  | read {request : Request} (quiet : writes request.opcode = false) :
      Applied device request device
  | lamp {led brightness red green blue : UInt8} (present : led.toNat < device.leds.length) :
      Applied device ⟨.setLedValue, [led, brightness, red, green, blue]⟩
        { device with leds := device.leds.set led.toNat ⟨brightness, red, green, blue⟩ }
  | powerOff {a b c d : UInt8} :
      Applied device ⟨.setDevicePowerOff, [a, b, c, d]⟩
        { device with powerOffWait := some (UInt32.ofNat (BigEndian.decode [a, b, c, d])) }
  | clock {field : Bytes} {clock : Timestamp} (reads : Timestamp.ofWire field = .ok clock) :
      Applied device ⟨.setRtcDateTime, field⟩ { device with clock }
  | pin {high low value : UInt8} (level : value ≤ 1) :
      Applied device ⟨.setGpioDebugState, [high, low, value]⟩
        (device.setPin (pinOfBytes high low) (value = 1))

-- What can come of a request: it is refused and changes nothing, or it is answered and applied.
inductive Replied (device : Device) (request : Request) : Response × Device → Prop where
  | refused : Replied device request (.failure request.opcode rejected, device)
  | accepted {status : Int32} {payload : Bytes} {after : Device}
      (done : status = 0 ∨ request.opcode = .checkRtcBattery ∧ status = 1)
      (length : payload.length = request.opcode.replyLength)
      (readable : Readable request.opcode status payload) (applied : Applied device request after) :
      Replied device request (⟨request.opcode, status, payload⟩, after)

section Readable

variable {opcode : Opcode} {status : Int32} {payload : Bytes}

theorem readable_of_meaningful (hlen : payload.length = opcode.replyLength)
    (hm : ∀ command : Command, command.opcode = opcode → command.Meaningful payload) :
    Readable opcode status payload := by
  rintro command rfl
  exact Command.isOk_decode_iff.mpr ⟨hlen, hm command rfl⟩

-- Of all commands but two, only the length of the answer counts.
theorem readable_of_length (hlen : payload.length = opcode.replyLength)
    (hc : opcode ≠ .getRtcDateTime) (hp : opcode ≠ .getGpioDebugState) :
    Readable opcode status payload := by
  refine readable_of_meaningful hlen fun command h => ?_
  cases command with
  | clock => exact absurd h.symm hc
  | pinState pin => exact absurd h.symm hp
  | _ => trivial

theorem readable_clock (time : Timestamp) : Readable .getRtcDateTime status time.toWire := by
  intro command h
  have hlen : time.toWire.length = Timestamp.fieldLength := Timestamp.length_field _
  cases command with
  | clock =>
      rw [Command.decode, if_pos hlen, Timestamp.toWire,
        Timestamp.ofWire_field (Timestamp.ofText_text_eq time)]
      rfl
  | _ => cases h

theorem readable_pin (high : Bool) : Readable .getGpioDebugState status [high.toUInt8] := by
  refine readable_of_meaningful rfl fun command h => ?_
  cases command with
  | pinState pin =>
      rw [Command.meaningful_pinState]
      cases high <;> decide
  | _ => cases h

end Readable

variable {device : Device} {opcode : Opcode} {payload : Bytes}

-- An answer without a change.
theorem replied_accept {request : Bytes} (hquiet : writes opcode = false)
    (hlen : payload.length = opcode.replyLength) (hr : Readable opcode 0 payload) :
    Replied device ⟨opcode, request⟩ (.success opcode payload, device) :=
  .accepted (.inl rfl) hlen hr (.read hquiet)

-- A change, answered without a payload.
theorem replied_accepted {request : Bytes} {after : Device} (hlen : opcode.replyLength = 0)
    (happlied : Applied device ⟨opcode, request⟩ after) :
    Replied device ⟨opcode, request⟩ (.success opcode [], after) := by
  have hnil : ([] : Bytes).length = opcode.replyLength := hlen.symm
  have hr : Readable opcode 0 [] := by
    refine readable_of_length hnil ?_ ?_
    · rintro rfl
      cases hlen
    · rintro rfl
      cases hlen
  exact .accepted (.inl rfl) hnil hr happlied

theorem replied_voltage (device : Device) (channel : UInt8) :
    Replied device ⟨.getAdcOrGpiVoltage, [channel]⟩
      (device.respond ⟨.getAdcOrGpiVoltage, [channel]⟩) := by
  change Replied device _ (device.respond (Command.voltage channel).request)
  cases h : device.voltages[channel.toNat]? with
  | none =>
      rw [respond_voltage_of_none h]
      exact .refused
  | some millivolts =>
      have hlen := BigEndian.length_encode 4 millivolts.toNat
      rw [respond_voltage h]
      exact replied_accept rfl hlen (readable_of_length hlen (by decide) (by decide))

theorem replied_setLed (device : Device) (led brightness : UInt8) (color : RgbColor) :
    Replied device (Command.setLed led brightness color).request
      (device.respond (Command.setLed led brightness color).request) := by
  by_cases h : led.toNat < device.leds.length
  · rw [respond_setLed h]
    exact replied_accepted rfl (.lamp h)
  · rw [respond_setLed_of_le (Nat.le_of_not_lt h)]
    exact .refused

theorem replied_ledStatus (device : Device) (led : UInt8) :
    Replied device ⟨.getLedStatus, [led]⟩ (device.respond ⟨.getLedStatus, [led]⟩) := by
  change Replied device _ (device.respond (Command.ledStatus led).request)
  cases h : device.led? led.toNat with
  | none =>
      rw [respond_ledStatus_of_none h]
      exact .refused
  | some status =>
      rw [respond_ledStatus h]
      exact replied_accept rfl rfl (readable_of_length rfl (by decide) (by decide))

theorem replied_setClock (device : Device) (field : Bytes) :
    Replied device ⟨.setRtcDateTime, field⟩ (device.respond ⟨.setRtcDateTime, field⟩) := by
  cases h : Timestamp.ofWire field with
  | error fault =>
      have hr : device.respond ⟨.setRtcDateTime, field⟩ =
          (.failure .setRtcDateTime rejected, device) := by simp only [respond, h]
      rw [hr]
      exact .refused
  | ok clock =>
      have hr : device.respond ⟨.setRtcDateTime, field⟩ =
          (.success .setRtcDateTime [], { device with clock }) := by simp only [respond, h]
      rw [hr]
      exact replied_accepted rfl (.clock h)

theorem replied_setPin (device : Device) (high low value : UInt8) :
    Replied device ⟨.setGpioDebugState, [high, low, value]⟩
      (device.respond ⟨.setGpioDebugState, [high, low, value]⟩) := by
  simp only [respond]
  split
  · rename_i hlevel
    exact replied_accepted rfl (.pin hlevel)
  · exact .refused

theorem replied_battery (device : Device) :
    Replied device ⟨.checkRtcBattery, []⟩ (device.respond ⟨.checkRtcBattery, []⟩) := by
  refine .accepted ?_ rfl (readable_of_length rfl (by decide) (by decide)) (.read rfl)
  split
  · exact .inl rfl
  · exact .inr ⟨rfl, rfl⟩

-- A payload of another length is refused, whatever the opcode.
theorem replied_respond (device : Device) (request : Request) :
    Replied device request (device.respond request) := by
  obtain ⟨opcode, payload⟩ := request
  cases opcode with
  | getMcuVersion | getFpgaVersion | getPowerOnThresholdConfig | getPowerOnReason
  | getRtcCalibrationRegisters =>
      cases payload with
      | nil => exact replied_accept rfl rfl (readable_of_length rfl (by decide) (by decide))
      | cons => exact .refused
  | getAdcOrGpiVoltage =>
      match payload with
      | [channel] => exact replied_voltage device channel
      | [] | _ :: _ :: _ => exact .refused
  | setLedValue =>
      match payload with
      | [led, brightness, red, green, blue] =>
          exact replied_setLed device led brightness ⟨red, green, blue⟩
      | [] | [_] | [_, _] | [_, _, _] | [_, _, _, _] | _ :: _ :: _ :: _ :: _ :: _ :: _ =>
          exact .refused
  | getLedStatus =>
      match payload with
      | [led] => exact replied_ledStatus device led
      | [] | _ :: _ :: _ => exact .refused
  | setDevicePowerOff =>
      match payload with
      | [_, _, _, _] => exact replied_accepted rfl .powerOff
      | [] | [_] | [_, _] | [_, _, _] | _ :: _ :: _ :: _ :: _ :: _ => exact .refused
  | getRtcDateTime =>
      cases payload with
      | nil => exact replied_accept rfl (Timestamp.length_field _) (readable_clock device.clock)
      | cons => exact .refused
  | setRtcDateTime => exact replied_setClock device payload
  | setGpioDebugState =>
      match payload with
      | [high, low, value] => exact replied_setPin device high low value
      | [] | [_] | [_, _] | _ :: _ :: _ :: _ :: _ => exact .refused
  | getGpioDebugState =>
      match payload with
      | [_, _] => exact replied_accept rfl rfl (readable_pin _)
      | [] | [_] | _ :: _ :: _ :: _ => exact .refused
  | checkRtcBattery =>
      cases payload with
      | nil => exact replied_battery device
      | cons => exact .refused
  | setPowerOnThresholdConfig | setRtcCalibrationRegisters | getRtcDebugRegister
  | setRtcDebugRegister => exact .refused

-- What can happen to a board in its life.
inductive Step where
  | configure (setting : Setting)
  | script (opcode : Opcode) (response : Response)
  | clearScript (opcode : Opcode)
  | handle (body : Bytes)

-- Whether a step sets the script of an opcode, and to what.
def Step.script? (opcode : Opcode) : Step → Option (Option Response)
  | .script target response => if target = opcode then some (some response) else none
  | .clearScript target => if target = opcode then some none else none
  | _ => none

def step (device : Device) : Step → Device
  | .configure setting => device.configure setting
  | .script opcode response => device.script opcode response
  | .clearScript opcode => device.clearScript opcode
  | .handle body => (device.handle body).2

def reached (steps : List Step) : Device := steps.foldl step initial

-- The last script for an opcode, if it has not been cleared since.
def scriptOf (steps : List Step) (opcode : Opcode) : Option Response :=
  (last? (Step.script? opcode) steps).join

-- What holds of a board at any time of its life.
structure Lived (steps : List Step) (device : Device) : Prop where
  scripts : ∀ opcode, device.scripts.lookup opcode = scriptOf steps opcode
  clock : device.clock.InRange

-- The answer to a body, and the board after it.
inductive Handled (scripts : Opcode → Option Response) (device : Device) (body : Bytes) :
    Except TransportError Bytes × Device → Prop where
  | noRequest {fault : ProtocolError} (unread : Request.ofBytes body = .error fault) :
      Handled scripts device body (.error (.invalidResponse fault.message), device)
  | scripted {request : Request} {response : Response}
      (read : Request.ofBytes body = .ok request)
      (script : scripts request.opcode = some response) :
      Handled scripts device body (.ok response.toBytes, device)
  | refused {request : Request} {reply : Bytes} (read : Request.ofBytes body = .ok request)
      (script : scripts request.opcode = none)
      (told : Response.ofBytes reply = .ok ⟨request.opcode, -1, []⟩) :
      Handled scripts device body (.ok reply, device)
  | answered {request : Request} {reply : Bytes} {response : Response} {after : Device}
      (read : Request.ofBytes body = .ok request) (script : scripts request.opcode = none)
      (told : Response.ofBytes reply = .ok response) (opcode : response.opcode = request.opcode)
      (done : response.status = 0 ∨ request.opcode = .checkRtcBattery ∧ response.status = 1)
      (readable : Readable request.opcode response.status response.payload)
      (applied : Applied device request after) :
      Handled scripts device body (.ok reply, after)

section Lived

variable {steps : List Step}

theorem scriptOf_concat (next : Step) (opcode : Opcode) :
    scriptOf (steps ++ [next]) opcode =
      ((next.script? opcode).or (last? (Step.script? opcode) steps)).join := by
  rw [scriptOf, last?_concat]

theorem lived_initial : Lived [] initial where
  scripts := fun _ => rfl
  clock := Timestamp.reduced_eq_iff.mp (by decide)

theorem lookup_clearScript (target opcode : Opcode) :
    (device.clearScript target).scripts.lookup opcode =
      if target = opcode then none else device.scripts.lookup opcode := by
  by_cases h : target = opcode
  · subst h
    rw [if_pos rfl, clearScript, List.lookup_eq_none_iff]
    simpa using fun entry _ _ => Ne.symm
  · rw [if_neg h, clearScript]
    exact lookup_filter_ne h device.scripts

theorem lookup_script (target opcode : Opcode) (response : Response) :
    (device.script target response).scripts.lookup opcode =
      if target = opcode then some response else device.scripts.lookup opcode :=
  lookup_replace target opcode response device.scripts

-- A request touches no scripts, and the clock only with a time that was read.
theorem quiet_handle (device : Device) (body : Bytes) :
    (device.handle body).2.scripts = device.scripts ∧
      (device.clock.InRange → (device.handle body).2.clock.InRange) := by
  unfold handle
  split
  · exact ⟨rfl, id⟩
  · rename_i request _
    split
    · exact ⟨rfl, id⟩
    · have hreplied := replied_respond device request
      generalize device.respond request = talk at hreplied ⊢
      cases hreplied with
      | refused => exact ⟨rfl, id⟩
      | accepted _ _ _ applied =>
          cases applied with
          | read | lamp | powerOff | pin => exact ⟨rfl, id⟩
          | clock reads => exact ⟨rfl, fun _ => Timestamp.inRange_of_ofWire reads⟩

theorem Lived.step (h : Lived steps device) (next : Step) :
    Lived (steps ++ [next]) (device.step next) := by
  obtain ⟨hscripts, hclock⟩ := h
  refine ⟨fun opcode => ?_, ?_⟩
  · rw [scriptOf_concat]
    cases next with
    | configure setting => cases setting <;> exact hscripts opcode
    | script target response =>
        simp only [Device.step, Step.script?, lookup_script]
        split
        · rfl
        · exact hscripts opcode
    | clearScript target =>
        simp only [Device.step, Step.script?, lookup_clearScript]
        split
        · rfl
        · exact hscripts opcode
    | handle body =>
        rw [Device.step, (quiet_handle device body).1]
        exact hscripts opcode
  · cases next with
    | configure setting => cases setting <;> exact hclock
    | script | clearScript => exact hclock
    | handle body => exact (quiet_handle device body).2 hclock

theorem lived_reached (steps : List Step) : Lived steps (reached steps) := by
  induction steps using List.reverseRecOn with
  | nil => exact lived_initial
  | append_singleton steps next ih =>
      rw [reached, List.foldl_append]
      exact ih.step next

end Lived

theorem Replied.handled {scripts : Opcode → Option Response} {body : Bytes} {request : Request}
    {talk : Response × Device} (h : Replied device request talk)
    (read : Request.ofBytes body = .ok request) (script : scripts request.opcode = none) :
    Handled scripts device body (.ok talk.1.toBytes, talk.2) := by
  cases h with
  | refused => exact .refused read script (Response.ofBytes_toBytes (Nat.zero_le _))
  | @accepted status payload after done length readable applied =>
      have hle : request.opcode.replyLength ≤ maxPayload := by
        cases request.opcode <;> decide
      have hread := @Response.ofBytes_toBytes ⟨request.opcode, status, payload⟩ (by rwa [length])
      exact .answered read script hread rfl done readable applied

theorem Lived.handled {steps : List Step} (h : Lived steps device) (body : Bytes) :
    Handled (scriptOf steps) device body (device.handle body) := by
  unfold handle
  split
  · rename_i unread
    exact .noRequest unread
  · rename_i request read
    have hscripts := h.scripts request.opcode
    split
    · rename_i response script
      exact .scripted read (hscripts ▸ script)
    · rename_i script
      exact (replied_respond device request).handled read (hscripts ▸ script)

-- At any time of its life the board has an answer to any body, and it makes all of the change that
-- an accepted request asks for, or else none. Its clock always shows a time in range, which is read
-- as it was sent.
theorem every_body_handled (steps : List Step) (body : Bytes) :
    Handled (scriptOf steps) (reached steps) body ((reached steps).handle body) ∧
      ((∃ text, ((reached steps).handle body).1 = .error (.invalidResponse text)) ↔
        ∃ fault, Request.ofBytes body = .error fault) ∧
      (reached steps).clock.InRange ∧
      (scriptOf steps .getRtcDateTime = none →
        ∃ field, (reached steps).handle Command.clock.request.toBytes =
            (.ok (Response.success .getRtcDateTime field).toBytes, reached steps) ∧
          Timestamp.ofWire field = .ok (reached steps).clock) := by
  have hlived := lived_reached steps
  have hhandled := hlived.handled body
  refine ⟨hhandled, ?_, hlived.clock, fun script => ?_⟩
  · generalize (reached steps).handle body = talk at hhandled
    constructor
    · rintro ⟨text, h⟩
      cases hhandled with
      | noRequest unread => exact ⟨_, unread⟩
      | scripted | refused | answered => cases h
    · rintro ⟨fault, unread⟩
      cases hhandled with
      | noRequest => exact ⟨_, rfl⟩
      | scripted read | refused read | answered read =>
          rw [unread] at read
          cases read
  · have hlookup := (hlived.scripts .getRtcDateTime).trans script
    exact ⟨_, handle_unscripted hlookup, hlived.clock.ofWire_toWire⟩

end Device
end BoardLink

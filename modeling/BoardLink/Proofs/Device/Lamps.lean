import BoardLink.Proofs.Device.Registers

-- The lamps of the board, each told by the commands that the board has answered.
namespace BoardLink

namespace Command

-- What a command writes to a lamp.
def lamp? (lamp : Nat) : Command → Option LedStatus
  | .setLed led brightness color => if led.toNat = lamp then some ⟨brightness, color⟩ else none
  | _ => none

theorem lamp?_of_not_isExclusive {command : Command} (h : command.isExclusive = false)
    (lamp : Nat) : command.lamp? lamp = none := by
  cases command with
  | setLed => cases h
  | _ => rfl

end Command

-- A lamp as the last command for it leaves it. It begins off and black.
def litAfter (commands : List Command) (lamp : Nat) : LedStatus :=
  (last? (Command.lamp? lamp) commands).getD ⟨0, ⟨0, 0, 0⟩⟩

theorem litAfter_concat (commands : List Command) (command : Command) (lamp : Nat) :
    litAfter (commands ++ [command]) lamp =
      (command.lamp? lamp).getD (litAfter commands lamp) := by
  rw [litAfter, last?_concat]
  cases command.lamp? lamp <;> rfl

-- Only lamp writes matter.
theorem litAfter_filter (commands : List Command) (lamp : Nat) :
    litAfter (commands.filter Command.isExclusive) lamp = litAfter commands lamp := by
  have h : (fun command : Command => if command.isExclusive then command.lamp? lamp else none) =
      Command.lamp? lamp := by
    funext command
    cases he : command.isExclusive with
    | true => rfl
    | false => exact (Command.lamp?_of_not_isExclusive he lamp).symm
  rw [litAfter, last?, List.filterMap_filter, h]
  rfl

namespace Device

-- A board without scripts whose lamps are as some commands leave them.
structure Shines (commands : List Command) (device : Device) : Prop where
  scripts : device.scripts = []
  lamps : device.leds.length = 3
  lamp : ∀ lamp, lamp < 3 → device.led? lamp = some (litAfter commands lamp)

theorem shines_configured (settings : List Setting) : Shines [] (configured settings) :=
  ⟨(configured_spec settings).scripts, (holds_configured settings).lamps,
    (holds_configured settings).lamp⟩

-- Nothing but a lamp write changes a lamp, and nothing at all changes the scripts.
theorem respond_of_not_isExclusive {command : Command} (h : command.isExclusive = false)
    (device : Device) :
    (device.respond command.request).2.scripts = device.scripts ∧
      (device.respond command.request).2.leds = device.leds := by
  cases command with
  | setLed => cases h
  | voltage channel =>
      cases hv : device.voltages[channel.toNat]? with
      | none =>
          rw [respond_voltage_of_none hv]
          exact ⟨rfl, rfl⟩
      | some millivolts =>
          rw [respond_voltage hv]
          exact ⟨rfl, rfl⟩
  | ledStatus led =>
      cases hl : device.led? led.toNat with
      | none =>
          rw [respond_ledStatus_of_none hl]
          exact ⟨rfl, rfl⟩
      | some status =>
          rw [respond_ledStatus hl]
          exact ⟨rfl, rfl⟩
  | setClock text =>
      simp only [respond, Command.request, Command.opcode, Command.payload]
      cases Timestamp.ofWire (Timestamp.field text) <;> exact ⟨rfl, rfl⟩
  | powerOff waitSeconds =>
      rw [respond_powerOff]
      exact ⟨rfl, rfl⟩
  | setPin pin high =>
      rw [respond_setPin]
      exact ⟨rfl, rfl⟩
  | pinState pin =>
      rw [respond_pinState]
      exact ⟨rfl, rfl⟩
  | _ => exact ⟨rfl, rfl⟩

variable {commands : List Command} {device : Device}

-- A write beyond the last lamp is rejected, and a write to a lamp reaches that lamp alone.
theorem Shines.setLed (h : Shines commands device) (led brightness : UInt8) (color : RgbColor) :
    Shines (commands ++ [.setLed led brightness color])
      (device.respond (Command.setLed led brightness color).request).2 := by
  by_cases hled : led.toNat < device.leds.length
  · rw [respond_setLed hled]
    refine ⟨h.scripts, by rw [List.length_set, h.lamps], fun lamp hlt => ?_⟩
    rw [litAfter_concat, led?_set hled, Command.lamp?]
    by_cases heq : led.toNat = lamp
    · simp [heq]
    · simpa [heq] using h.lamp lamp hlt
  · rw [respond_setLed_of_le (Nat.not_lt.mp hled)]
    refine ⟨h.scripts, h.lamps, fun lamp hlt => ?_⟩
    have hne : led.toNat ≠ lamp := fun heq => hled (by rw [heq, h.lamps]; exact hlt)
    rw [litAfter_concat, Command.lamp?, if_neg hne]
    exact h.lamp lamp hlt

theorem Shines.respond (h : Shines commands device) (command : Command) :
    Shines (commands ++ [command]) (device.respond command.request).2 := by
  cases he : command.isExclusive with
  | true =>
      cases command with
      | setLed led brightness color => exact h.setLed led brightness color
      | _ => cases he
  | false =>
      obtain ⟨hscripts, hleds⟩ := respond_of_not_isExclusive he device
      refine ⟨hscripts ▸ h.scripts, hleds ▸ h.lamps, fun lamp hlt => ?_⟩
      rw [litAfter_concat, Command.lamp?_of_not_isExclusive he, led?, hleds]
      exact h.lamp lamp hlt

-- Asking for a lamp gives all that one command wrote to it.
theorem Shines.judge_ledStatus (h : Shines commands device) (led : UInt8) :
    (Command.ledStatus led).judge (device.respond (Command.ledStatus led).request).1.toBytes =
      if led.toNat < 3 then .ok ⟨0, litAfter commands led.toNat⟩ else .error (.device (-1)) := by
  by_cases hled : led.toNat < 3
  · rw [respond_ledStatus (h.lamp led.toNat hled), if_pos hled]
    exact Command.judge_toBytes (by decide) (by simp [maxPayload]) rfl
  · have hnone : device.led? led.toNat = none := by
      rw [led?, List.getElem?_eq_none_iff, h.lamps]
      exact Nat.not_lt.mp hled
    rw [respond_ledStatus_of_none hnone, if_neg hled]
    exact Command.judge_rejected

end Device

end BoardLink

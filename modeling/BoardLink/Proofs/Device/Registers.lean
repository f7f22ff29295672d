import BoardLink.Operation
import BoardLink.Proofs.Device.Setup
import BoardLink.Proofs.Device.Respond

-- The registers of the board that operations write, each told by the operations before.
namespace BoardLink

-- What an operation writes to each register. A lamp that does not exist is not written, and
-- neither is the clock by a text that is no time.
namespace Operation

def lamp? (lamp : Nat) : Operation → Option LedStatus
  | .setLed led brightness color => if led.toNat = lamp then some ⟨brightness, color⟩ else none
  | _ => none

def pin? (pin : Nat) : Operation → Option Bool
  | .setPin target value =>
    if target.toNat % 65536 = pin % 65536 then some (value.toNat % 2 = 1) else none
  | _ => none

def clock? : Operation → Option String
  | .setClock text => if (Timestamp.ofText text).isOk then some text else none
  | _ => none

def wait? : Operation → Option UInt32
  | .powerOff waitSeconds => some waitSeconds
  | _ => none

def isWrite : Operation → Bool
  | .setLed .. | .powerOff _ | .setClock _ | .setPin .. => true
  | _ => false

end Operation

namespace Device

def lampAfter (earlier : List Operation) (lamp : Nat) : LedStatus :=
  (last? (Operation.lamp? lamp) earlier).getD ⟨0, ⟨0, 0, 0⟩⟩

def pinAfter (earlier : List Operation) (pin : Nat) : Bool :=
  (last? (Operation.pin? pin) earlier).getD false

def clockAfter (earlier : List Operation) : String :=
  (last? Operation.clock? earlier).getD "2016-03-29 19:09:06.58"

def waitAfter (earlier : List Operation) : Option UInt32 := last? Operation.wait? earlier

-- Every register holds what was last written to it.
structure Holds (earlier : List Operation) (device : Device) : Prop where
  lamps : device.leds.length = 3
  lamp : ∀ lamp, lamp < 3 → device.led? lamp = some (lampAfter earlier lamp)
  pin : ∀ pin : UInt16, device.pin pin = pinAfter earlier pin.toNat
  clock : Timestamp.ofText (clockAfter earlier) = .ok device.clock
  wait : device.powerOffWait = waitAfter earlier

variable {earlier : List Operation} {device : Device} {operation : Operation}

-- 2016-03-29 19:09:06.58
def initialClock : Timestamp.Fields :=
  ⟨⟨2, 0⟩, ⟨1, 6⟩, ⟨0, 3⟩, ⟨2, 9⟩, ⟨1, 9⟩, ⟨0, 9⟩, ⟨0, 6⟩, ⟨5, 8⟩⟩

theorem ofText_clockAfter_nil : Timestamp.ofText (clockAfter []) = .ok initial.clock := by
  have htext : clockAfter [] = initialClock.text := by decide
  have htime : initialClock.time = initial.clock := by decide
  rw [htext, Timestamp.ofText_text, htime]

theorem holds_initial : Holds [] initial where
  lamps := rfl
  lamp := by
    intro lamp h
    match lamp, h with
    | 0, _ => rfl
    | 1, _ => rfl
    | 2, _ => rfl
  pin := fun _ => rfl
  clock := ofText_clockAfter_nil
  wait := rfl

theorem Holds.configure (h : Holds earlier device) (setting : Setting) :
    Holds earlier (device.configure setting) := by
  obtain ⟨hlamps, hlamp, hpin, hclock, hwait⟩ := h
  cases setting <;> exact ⟨hlamps, hlamp, hpin, hclock, hwait⟩

theorem holds_configured (settings : List Setting) : Holds [] (configured settings) := by
  have hfold : ∀ (more : List Setting) (device : Device), Holds [] device →
      Holds [] (more.foldl configure device) := by
    intro more
    induction more with
    | nil => exact fun _ h => h
    | cons setting more ih => exact fun device h => ih _ (h.configure setting)
  exact hfold settings initial holds_initial

-- What one operation makes of each register.
theorem lampAfter_concat (lamp : Nat) : lampAfter (earlier ++ [operation]) lamp =
    (operation.lamp? lamp).getD (lampAfter earlier lamp) := by
  rw [lampAfter, last?_concat]
  cases operation.lamp? lamp <;> rfl

theorem pinAfter_concat (pin : Nat) : pinAfter (earlier ++ [operation]) pin =
    (operation.pin? pin).getD (pinAfter earlier pin) := by
  rw [pinAfter, last?_concat]
  cases operation.pin? pin <;> rfl

theorem clockAfter_concat : clockAfter (earlier ++ [operation]) =
    operation.clock?.getD (clockAfter earlier) := by
  rw [clockAfter, last?_concat]
  cases operation.clock? <;> rfl

theorem waitAfter_concat : waitAfter (earlier ++ [operation]) =
    operation.wait?.or (waitAfter earlier) :=
  last?_concat ..

-- Pins of the same sixteen bits are one pin.
theorem pinAfter_mod (pin : Nat) : pinAfter earlier (pin % 65536) = pinAfter earlier pin := by
  have hpin : Operation.pin? (pin % 65536) = Operation.pin? pin := by
    funext operation
    cases operation <;> simp [Operation.pin?]
  rw [pinAfter, pinAfter, hpin]

-- Each register after one operation more is the one it was before, or what was written.
theorem Holds.concat (h : Holds earlier device) {after : Device} (hlamps : after.leds.length = 3)
    (hlamp : ∀ lamp, lamp < 3 → after.led? lamp = (operation.lamp? lamp).or (device.led? lamp))
    (hpin : ∀ pin : UInt16, after.pin pin = (operation.pin? pin.toNat).getD (device.pin pin))
    (hclock : Timestamp.ofText (operation.clock?.getD (clockAfter earlier)) = .ok after.clock)
    (hwait : after.powerOffWait = operation.wait?.or device.powerOffWait) :
    Holds (earlier ++ [operation]) after where
  lamps := hlamps
  lamp := by
    intro lamp hlt
    rw [hlamp lamp hlt, h.lamp lamp hlt, lampAfter_concat]
    cases operation.lamp? lamp <;> rfl
  pin := by
    intro pin
    rw [hpin, h.pin, pinAfter_concat]
  clock := by
    rw [clockAfter_concat]
    exact hclock
  wait := by
    rw [hwait, h.wait, waitAfter_concat]

-- Nothing is written to any register.
structure Quiet (operation : Operation) : Prop where
  lamp : ∀ lamp, lamp < 3 → operation.lamp? lamp = none
  pin : ∀ pin, operation.pin? pin = none
  clock : operation.clock? = none
  wait : operation.wait? = none

theorem quiet_of_isWrite (h : operation.isWrite = false) : Quiet operation := by
  cases operation with
  | setLed | powerOff | setClock | setPin => cases h
  | _ => exact ⟨fun _ _ => rfl, fun _ => rfl, rfl, rfl⟩

theorem Holds.quiet (h : Holds earlier device) (hq : Quiet operation) :
    Holds (earlier ++ [operation]) device := by
  refine h.concat h.lamps ?_ ?_ ?_ ?_
  · intro lamp hlt
    rw [hq.lamp lamp hlt]
    rfl
  · intro pin
    rw [hq.pin]
    rfl
  · rw [hq.clock]
    exact h.clock
  · rw [hq.wait]
    rfl

theorem Holds.setLed (h : Holds earlier device) {led : UInt8} (brightness : UInt8)
    (color : RgbColor) (hled : led.toNat < device.leds.length) :
    Holds (earlier ++ [.setLed led brightness color])
      { device with leds := device.leds.set led.toNat ⟨brightness, color⟩ } := by
  refine h.concat ?_ ?_ (fun _ => rfl) h.clock rfl
  · rw [List.length_set]
    exact h.lamps
  · intro lamp hlt
    rw [led?_set hled, Operation.lamp?]
    by_cases heq : led.toNat = lamp <;> simp [heq]

theorem Holds.powerOff (h : Holds earlier device) (waitSeconds : UInt32) :
    Holds (earlier ++ [.powerOff waitSeconds]) { device with powerOffWait := some waitSeconds } :=
  h.concat h.lamps (fun _ _ => rfl) (fun _ => rfl) h.clock rfl

theorem Holds.setClock (h : Holds earlier device) (fields : Timestamp.Fields) :
    Holds (earlier ++ [.setClock fields.text]) { device with clock := fields.time } := by
  have hok : (Timestamp.ofText fields.text).isOk = true :=
    Timestamp.isOk_ofText_iff.mpr ⟨fields, rfl⟩
  refine h.concat h.lamps (fun _ _ => rfl) (fun _ => rfl) ?_ rfl
  rw [Operation.clock?, if_pos hok]
  exact Timestamp.ofText_text fields

theorem maskPin_eq_iff {pin : UInt32} {other : UInt16} :
    maskPin pin = other ↔ pin.toNat % 65536 = other.toNat % 65536 := by
  have hmask : (maskPin pin).toNat = pin.toNat % 65536 := rfl
  have hother : other.toNat % 65536 = other.toNat := Nat.mod_eq_of_lt other.toNat_lt
  rw [← UInt16.toNat_inj, hmask, hother]

theorem Holds.setPin (h : Holds earlier device) (pin value : UInt32) :
    Holds (earlier ++ [.setPin pin value]) (device.setPin (maskPin pin) (maskLevel value)) := by
  refine h.concat h.lamps (fun _ _ => rfl) ?_ h.clock rfl
  intro other
  rw [pin_setPin, Operation.pin?]
  by_cases heq : maskPin pin = other
  · rw [if_pos heq, if_pos (maskPin_eq_iff.mp heq)]
    rfl
  · rw [if_neg heq, if_neg fun hmod => heq (maskPin_eq_iff.mpr hmod)]
    rfl

end Device

end BoardLink

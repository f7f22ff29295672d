import BoardLink.Device

-- Boards as they are made: the initial board and any settings after it, in any order.
namespace BoardLink

-- The last value that a history writes, if it writes one.
def last? {α β : Type} (written : β → Option α) (history : List β) : Option α :=
  (history.filterMap written).getLast?

theorem last?_concat {α β : Type} (written : β → Option α) (history : List β) (entry : β) :
    last? written (history ++ [entry]) = (written entry).or (last? written history) := by
  cases h : written entry <;> simp [last?, List.filterMap_append, h]

namespace Device

inductive Setting where
  | mcuVersion (version : FirmwareVersion)
  | fpgaVersion (version : FirmwareVersion)
  | voltage (channel : Nat) (millivolts : UInt32)
  | powerOnReason (raw : UInt8)
  | batteryState (state : UInt8)

def configure (device : Device) : Setting → Device
  | .mcuVersion version => { device with mcuVersion := version }
  | .fpgaVersion version => { device with fpgaVersion := version }
  | .voltage channel millivolts => device.setVoltage channel millivolts
  | .powerOnReason raw => { device with powerOnReason := raw }
  | .batteryState state => { device with batteryState := state }

def configured (settings : List Setting) : Device := settings.foldl configure initial

namespace Setting

def mcuVersion? : Setting → Option FirmwareVersion
  | .mcuVersion version => some version
  | _ => none

def fpgaVersion? : Setting → Option FirmwareVersion
  | .fpgaVersion version => some version
  | _ => none

def voltage? (channel : Nat) : Setting → Option UInt32
  | .voltage target millivolts => if target = channel then some millivolts else none
  | _ => none

def powerOnReason? : Setting → Option UInt8
  | .powerOnReason raw => some raw
  | _ => none

def batteryState? : Setting → Option UInt8
  | .batteryState state => some state
  | _ => none

end Setting

-- The last value of each register that was set, and the initial one if it was never set.
def mcuVersionOf (settings : List Setting) : FirmwareVersion :=
  (last? Setting.mcuVersion? settings).getD initial.mcuVersion

def fpgaVersionOf (settings : List Setting) : FirmwareVersion :=
  (last? Setting.fpgaVersion? settings).getD initial.fpgaVersion

def voltageOf (settings : List Setting) (channel : Nat) : UInt32 :=
  (last? (Setting.voltage? channel) settings).getD (initial.voltages.getD channel 0)

def powerOnReasonOf (settings : List Setting) : UInt8 :=
  (last? Setting.powerOnReason? settings).getD initial.powerOnReason

def batteryStateOf (settings : List Setting) : UInt8 :=
  (last? Setting.batteryState? settings).getD initial.batteryState

-- The registers that no request writes. Two of them cannot be set either.
structure Configured (settings : List Setting) (device : Device) : Prop where
  scripts : device.scripts = []
  mcuVersion : device.mcuVersion = mcuVersionOf settings
  fpgaVersion : device.fpgaVersion = fpgaVersionOf settings
  channels : device.voltages.length = 12
  voltage : ∀ channel, channel < 12 →
    device.voltages[channel]? = some (voltageOf settings channel)
  threshold : device.threshold = initial.threshold
  powerOnReason : device.powerOnReason = powerOnReasonOf settings
  calibration : device.calibration = initial.calibration
  batteryState : device.batteryState = batteryStateOf settings

-- The registers that requests do write play no part in this.
theorem Configured.write {settings : List Setting} {device : Device}
    (h : Configured settings device) (leds : List LedStatus) (pins : List (UInt16 × Bool))
    (clock : Timestamp) (wait : Option UInt32) :
    Configured settings { device with leds, pins, clock, powerOffWait := wait } :=
  ⟨h.scripts, h.mcuVersion, h.fpgaVersion, h.channels, h.voltage, h.threshold, h.powerOnReason,
    h.calibration, h.batteryState⟩

theorem configured_initial : Configured [] initial where
  scripts := rfl
  mcuVersion := rfl
  fpgaVersion := rfl
  channels := rfl
  voltage := by
    intro channel h
    have hlen : channel < initial.voltages.length := h
    simp [voltageOf, last?, List.getElem?_eq_getElem hlen]
  threshold := rfl
  powerOnReason := rfl
  calibration := rfl
  batteryState := rfl

variable {settings : List Setting} {device : Device}

theorem getElem?_setVoltage {channel target : Nat} {millivolts : UInt32}
    (hlen : device.voltages.length = 12) (hc : channel < 12) :
    (device.setVoltage target millivolts).voltages[channel]? =
      if target = channel then some millivolts else device.voltages[channel]? := by
  have hlt : channel < device.voltages.length := by omega
  by_cases heq : target = channel
  · subst heq
    simp [setVoltage, hlt]
  · simp [setVoltage, heq]

-- One setting more changes one register and no other.
theorem Configured.configure (h : Configured settings device) (setting : Setting) :
    Configured (settings ++ [setting]) (device.configure setting) := by
  obtain ⟨hscripts, hmcu, hfpga, hlen, hvoltage, hthreshold, hreason, hcalibration, hbattery⟩ := h
  constructor
  case voltage =>
    intro channel hc
    rw [voltageOf, last?_concat]
    cases setting with
    | voltage target millivolts =>
        simp only [Device.configure, Setting.voltage?, getElem?_setVoltage hlen hc]
        by_cases heq : target = channel
        · simp [heq]
        · simp [heq, hvoltage channel hc, voltageOf]
    | _ => exact hvoltage channel hc
  case channels =>
    cases setting with
    | voltage target millivolts => simpa [Device.configure, setVoltage] using hlen
    | _ => exact hlen
  case scripts => cases setting <;> exact hscripts
  case threshold => cases setting <;> exact hthreshold
  case calibration => cases setting <;> exact hcalibration
  case mcuVersion =>
    rw [mcuVersionOf, last?_concat]
    cases setting with
    | mcuVersion version => rfl
    | _ => exact hmcu
  case fpgaVersion =>
    rw [fpgaVersionOf, last?_concat]
    cases setting with
    | fpgaVersion version => rfl
    | _ => exact hfpga
  case powerOnReason =>
    rw [powerOnReasonOf, last?_concat]
    cases setting with
    | powerOnReason raw => rfl
    | _ => exact hreason
  case batteryState =>
    rw [batteryStateOf, last?_concat]
    cases setting with
    | batteryState state => rfl
    | _ => exact hbattery

theorem Configured.foldl (h : Configured settings device) (more : List Setting) :
    Configured (settings ++ more) (more.foldl Device.configure device) := by
  induction more generalizing settings device with
  | nil => simpa using h
  | cons setting more ih =>
      have hmore := ih (h.configure setting)
      rwa [List.append_assoc, List.singleton_append] at hmore

theorem configured_spec (settings : List Setting) : Configured settings (configured settings) :=
  configured_initial.foldl settings

end Device

end BoardLink

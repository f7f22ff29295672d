-- The operations of the control endpoint and their numbers.
namespace BoardLink

inductive Opcode where
  | getMcuVersion
  | getFpgaVersion
  | getAdcOrGpiVoltage
  | setLedValue
  | getLedStatus
  | getPowerOnThresholdConfig
  | setPowerOnThresholdConfig
  | getPowerOnReason
  | setDevicePowerOff
  | getRtcDateTime
  | setRtcDateTime
  | getRtcCalibrationRegisters
  | setRtcCalibrationRegisters
  | getRtcDebugRegister
  | setRtcDebugRegister
  | setGpioDebugState
  | getGpioDebugState
  | checkRtcBattery
  deriving DecidableEq, Repr

namespace Opcode

-- In the order of their numbers.
def all : List Opcode := [
  .getMcuVersion, .getFpgaVersion, .getAdcOrGpiVoltage, .setLedValue, .getLedStatus,
  .getPowerOnThresholdConfig, .setPowerOnThresholdConfig, .getPowerOnReason, .setDevicePowerOff,
  .getRtcDateTime, .setRtcDateTime, .getRtcCalibrationRegisters, .setRtcCalibrationRegisters,
  .getRtcDebugRegister, .setRtcDebugRegister, .setGpioDebugState, .getGpioDebugState,
  .checkRtcBattery]

def toByte : Opcode → UInt8
  | .getMcuVersion => 1
  | .getFpgaVersion => 2
  | .getAdcOrGpiVoltage => 3
  | .setLedValue => 4
  | .getLedStatus => 5
  | .getPowerOnThresholdConfig => 6
  | .setPowerOnThresholdConfig => 7
  | .getPowerOnReason => 8
  | .setDevicePowerOff => 9
  | .getRtcDateTime => 10
  | .setRtcDateTime => 11
  | .getRtcCalibrationRegisters => 12
  | .setRtcCalibrationRegisters => 13
  | .getRtcDebugRegister => 14
  | .setRtcDebugRegister => 15
  | .setGpioDebugState => 16
  | .getGpioDebugState => 17
  | .checkRtcBattery => 18

def ofByte? (byte : UInt8) : Option Opcode := all.find? (·.toByte = byte)

-- The name shown to people and in logs.
def name : Opcode → String
  | .getMcuVersion => "get_mcu_version"
  | .getFpgaVersion => "get_fpga_version"
  | .getAdcOrGpiVoltage => "get_adc_or_gpi_voltage"
  | .setLedValue => "set_led_value"
  | .getLedStatus => "get_led_status"
  | .getPowerOnThresholdConfig => "get_power_on_threshold_cfg"
  | .setPowerOnThresholdConfig => "set_power_on_threshold_cfg"
  | .getPowerOnReason => "get_power_on_reason"
  | .setDevicePowerOff => "set_device_power_off"
  | .getRtcDateTime => "get_rtc_date_time"
  | .setRtcDateTime => "set_rtc_date_time"
  | .getRtcCalibrationRegisters => "get_rtc_cal_reg"
  | .setRtcCalibrationRegisters => "set_rtc_cal_reg"
  | .getRtcDebugRegister => "get_rtc_reg_dbg"
  | .setRtcDebugRegister => "set_rtc_reg_dbg"
  | .setGpioDebugState => "set_gpio_state_dbg"
  | .getGpioDebugState => "get_gpio_state_dbg"
  | .checkRtcBattery => "check_rtc_battery"

-- The name used inside error messages and in stored values.
def label : Opcode → String
  | .getMcuVersion => "GetMcuVersion"
  | .getFpgaVersion => "GetFpgaVersion"
  | .getAdcOrGpiVoltage => "GetAdcOrGpiVoltage"
  | .setLedValue => "SetLedValue"
  | .getLedStatus => "GetLedStatus"
  | .getPowerOnThresholdConfig => "GetPowerOnThresholdConfig"
  | .setPowerOnThresholdConfig => "SetPowerOnThresholdConfig"
  | .getPowerOnReason => "GetPowerOnReason"
  | .setDevicePowerOff => "SetDevicePowerOff"
  | .getRtcDateTime => "GetRtcDateTime"
  | .setRtcDateTime => "SetRtcDateTime"
  | .getRtcCalibrationRegisters => "GetRtcCalibrationRegisters"
  | .setRtcCalibrationRegisters => "SetRtcCalibrationRegisters"
  | .getRtcDebugRegister => "GetRtcDebugRegister"
  | .setRtcDebugRegister => "SetRtcDebugRegister"
  | .setGpioDebugState => "SetGpioDebugState"
  | .getGpioDebugState => "GetGpioDebugState"
  | .checkRtcBattery => "CheckRtcBattery"

-- How many payload bytes an accepted reply carries.
def replyLength : Opcode → Nat
  | .getMcuVersion => 4
  | .getFpgaVersion => 4
  | .getAdcOrGpiVoltage => 4
  | .setLedValue => 0
  | .getLedStatus => 4
  | .getPowerOnThresholdConfig => 6
  | .setPowerOnThresholdConfig => 0
  | .getPowerOnReason => 1
  | .setDevicePowerOff => 0
  | .getRtcDateTime => 23
  | .setRtcDateTime => 0
  | .getRtcCalibrationRegisters => 2
  | .setRtcCalibrationRegisters => 0
  | .getRtcDebugRegister => 1
  | .setRtcDebugRegister => 0
  | .setGpioDebugState => 0
  | .getGpioDebugState => 1
  | .checkRtcBattery => 1

@[simp] theorem ofByte?_toByte (opcode : Opcode) : ofByte? opcode.toByte = some opcode := by
  cases opcode <;> decide

theorem toByte_of_ofByte? {byte : UInt8} {opcode : Opcode} (h : ofByte? byte = some opcode) :
    opcode.toByte = byte := by
  simpa using List.find?_some h

end Opcode
end BoardLink

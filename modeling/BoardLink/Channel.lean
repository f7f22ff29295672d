import BoardLink.Text.Characters
import BoardLink.Text.Numeral

-- Named inputs and lamps of the board.
namespace BoardLink

open Text

inductive AdcChannel where
  | analogIn1
  | gpioIn1
  | gpioIn2
  | gpioIn3
  | gpioIn4
  | gpioIn5
  | gpioIn6
  | gpioIn7
  | powerIn
  | powerVcap
  | temperature
  | cableType
  deriving DecidableEq, Repr

namespace AdcChannel

-- In the order of their numbers.
def all : List AdcChannel := [
  .analogIn1, .gpioIn1, .gpioIn2, .gpioIn3, .gpioIn4, .gpioIn5, .gpioIn6, .gpioIn7,
  .powerIn, .powerVcap, .temperature, .cableType]

def toByte : AdcChannel → UInt8
  | .analogIn1 => 0
  | .gpioIn1 => 1
  | .gpioIn2 => 2
  | .gpioIn3 => 3
  | .gpioIn4 => 4
  | .gpioIn5 => 5
  | .gpioIn6 => 6
  | .gpioIn7 => 7
  | .powerIn => 8
  | .powerVcap => 9
  | .temperature => 10
  | .cableType => 11

def ofByte? (byte : UInt8) : Option AdcChannel := all.find? (·.toByte = byte)

def name : AdcChannel → String
  | .analogIn1 => "analog_in1"
  | .gpioIn1 => "gpio_in1"
  | .gpioIn2 => "gpio_in2"
  | .gpioIn3 => "gpio_in3"
  | .gpioIn4 => "gpio_in4"
  | .gpioIn5 => "gpio_in5"
  | .gpioIn6 => "gpio_in6"
  | .gpioIn7 => "gpio_in7"
  | .powerIn => "power_in"
  | .powerVcap => "power_vcap"
  | .temperature => "temperature"
  | .cableType => "cable_type"

def label : AdcChannel → String
  | .analogIn1 => "AnalogIn1"
  | .gpioIn1 => "GpioIn1"
  | .gpioIn2 => "GpioIn2"
  | .gpioIn3 => "GpioIn3"
  | .gpioIn4 => "GpioIn4"
  | .gpioIn5 => "GpioIn5"
  | .gpioIn6 => "GpioIn6"
  | .gpioIn7 => "GpioIn7"
  | .powerIn => "PowerIn"
  | .powerVcap => "PowerVcap"
  | .temperature => "Temperature"
  | .cableType => "CableType"

end AdcChannel

inductive LedId where
  | right
  | center
  | left
  deriving DecidableEq, Repr

namespace LedId

def all : List LedId := [.right, .center, .left]

def toByte : LedId → UInt8
  | .right => 0
  | .center => 1
  | .left => 2

def ofByte? (byte : UInt8) : Option LedId := all.find? (·.toByte = byte)

def name : LedId → String
  | .right => "right"
  | .center => "center"
  | .left => "left"

def label : LedId → String
  | .right => "Right"
  | .center => "Center"
  | .left => "Left"

end LedId

-- A channel by number or by name. Numbers that are no byte are looked up as names.
def AdcChannel.ofText (text : String) : Except String AdcChannel :=
  match Numeral.read? 10 255 text.toList with
  | some n =>
    match AdcChannel.ofByte? (UInt8.ofNat n) with
    | some channel => .ok channel
    | none => .error ("channel " ++ toString n ++ " out of range (0-11)")
  | none =>
    match AdcChannel.all.find? (fun channel => sameButCase channel.name text) with
    | some channel => .ok channel
    | none => .error ("unknown channel: " ++ text)

-- A lamp by name or by number. Any byte is a number here; the range is checked later.
def ledOfText (text : String) : Except String UInt8 :=
  match LedId.all.find? (fun led => sameButCase led.name text) with
  | some led => .ok led.toByte
  | none =>
    match Numeral.read? 10 255 text.toList with
    | some n => .ok (UInt8.ofNat n)
    | none => .error ("invalid led: " ++ text)

end BoardLink

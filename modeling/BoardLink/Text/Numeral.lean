-- Written numbers: digits of a base, padding, and reading with an upper bound.
-- A reader works from the left and stops at the first character that spoils the number,
-- so a text that is both too large and malformed fails for whichever comes first.
namespace BoardLink.Text

-- Why a text is no number of the wanted range.
inductive NumeralError where
  | empty
  | invalidDigit
  | tooLarge
  deriving DecidableEq, Repr

def NumeralError.message : NumeralError → String
  | .empty => "cannot parse integer from empty string"
  | .invalidDigit => "invalid digit found in string"
  | .tooLarge => "number too large to fit in target type"

namespace Numeral

-- Decimal digits without leading zeros; zero is `0`.
def decimal (n : Nat) : List Char := Nat.toDigits 10 n

def hexLower (n : Nat) : List Char := Nat.toDigits 16 n

def hexUpper (n : Nat) : List Char := (Nat.toDigits 16 n).map Char.toUpper

-- Fill up to `width` characters on the left. A longer text is left alone.
def padLeft (width : Nat) (fill : Char) (text : List Char) : List Char :=
  List.replicate (width - text.length) fill ++ text

def padRight (width : Nat) (fill : Char) (text : List Char) : List Char :=
  text ++ List.replicate (width - text.length) fill

-- A sign only for negative numbers.
def signed (n : Int) : List Char :=
  if n < 0 then '-' :: decimal n.natAbs else decimal n.natAbs

-- The value of an ASCII digit in bases up to sixteen, of either case.
def digit? (base : Nat) (c : Char) : Option Nat :=
  let value :=
    if '0' ≤ c ∧ c ≤ '9' then some (c.toNat - '0'.toNat)
    else if 'a' ≤ c ∧ c ≤ 'f' then some (c.toNat - 'a'.toNat + 10)
    else if 'A' ≤ c ∧ c ≤ 'F' then some (c.toNat - 'A'.toNat + 10)
    else none
  value.filter (· < base)

-- Continue a number whose leading part has value `value`.
def readDigits (base bound : Nat) : (value : Nat) → List Char → Except NumeralError Nat
  | value, [] => .ok value
  | value, c :: rest =>
    match digit? base c with
    | none => .error .invalidDigit
    | some digit =>
      if value * base + digit ≤ bound then readDigits base bound (value * base + digit) rest
      else .error .tooLarge

-- An unsigned number of at most `bound`, with at most one plus sign before its digits.
def read (base bound : Nat) : List Char → Except NumeralError Nat
  | [] => .error .empty
  | ['+'] => .error .invalidDigit
  | '+' :: digits => readDigits base bound 0 digits
  | digits => readDigits base bound 0 digits

def read? (base bound : Nat) (text : List Char) : Option Nat :=
  (read base bound text).toOption

-- A decimal number with an optional sign, between `-bound - 1` and `bound`.
def readSigned? (bound : Nat) : List Char → Option Int
  | '-' :: c :: rest => (readDigits 10 (bound + 1) 0 (c :: rest)).toOption.map fun n => -(n : Int)
  | text => (read? 10 bound text).map fun n => (n : Int)

end Numeral
end BoardLink.Text

import BoardLink.Text.Numeral

-- JSON values and their shortest text.
namespace BoardLink

open Text

-- `decimal` stands for every number that is not written as an integer.
-- The fields of an object keep their order.
inductive JsonValue where
  | null
  | bool (b : Bool)
  | integer (n : Int)
  | decimal
  | text (s : String)
  | list (items : List JsonValue)
  | object (fields : List (String × JsonValue))
  deriving Inhabited, Repr

namespace JsonValue

-- Control characters without a short escape are written with four hexadecimal digits.
def escape (c : Char) : List Char :=
  if c = '\x22' then ['\x5c', '\x22']
  else if c = '\x5c' then ['\x5c', '\x5c']
  else if c = '\x08' then ['\x5c', 'b']
  else if c = '\x0c' then ['\x5c', 'f']
  else if c = '\n' then ['\x5c', 'n']
  else if c = '\r' then ['\x5c', 'r']
  else if c = '\t' then ['\x5c', 't']
  else if c.toNat < 0x20 then
    ['\x5c', 'u'] ++ Numeral.padLeft 4 '0' (Numeral.hexLower c.toNat)
  else [c]

def quote (s : String) : List Char := ['\x22'] ++ s.toList.flatMap escape ++ ['\x22']

mutual

def characters : JsonValue → List Char
  | .null => "null".toList
  | .bool true => "true".toList
  | .bool false => "false".toList
  | .integer n => Numeral.signed n
  | .decimal => "0.0".toList
  | .text s => quote s
  | .list items => ['['] ++ itemCharacters items ++ [']']
  | .object fields => ['\x7b'] ++ fieldCharacters fields ++ ['\x7d']

def itemCharacters : List JsonValue → List Char
  | [] => []
  | [item] => characters item
  | item :: rest => characters item ++ [','] ++ itemCharacters rest

def fieldCharacters : List (String × JsonValue) → List Char
  | [] => []
  | [(key, value)] => quote key ++ [':'] ++ characters value
  | (key, value) :: rest => quote key ++ [':'] ++ characters value ++ [','] ++ fieldCharacters rest

end

def render (value : JsonValue) : String := String.ofList value.characters

end JsonValue
end BoardLink

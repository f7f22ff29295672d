-- Characters and simple things that are done with texts: cutting them into pieces, freeing them of
-- blanks at both ends, and comparing them without regard to case.
namespace BoardLink.Text

-- The pieces between the separators, empty ones included. There is always at least one.
abbrev pieces (separator : Char) (text : List Char) : List (List Char) := text.splitOn separator

-- The characters with the Unicode property White_Space.
def isBlank (c : Char) : Bool :=
  let n := c.toNat
  (0x9 ≤ n && n ≤ 0xd) || n == 0x20 || n == 0x85 || n == 0xa0 || n == 0x1680 ||
    (0x2000 ≤ n && n ≤ 0x200a) || n == 0x2028 || n == 0x2029 || n == 0x202f ||
    n == 0x205f || n == 0x3000

def dropBlanks (text : List Char) : List Char := text.dropWhile isBlank

def trim (text : List Char) : List Char :=
  (dropBlanks (dropBlanks text).reverse).reverse

-- The lower-case letter of an upper-case one of ASCII. Other characters stay.
def asciiLower (c : Char) : Char := if 'A' ≤ c ∧ c ≤ 'Z' then Char.ofNat (c.toNat + 32) else c

def sameButCase (a b : String) : Bool := a.toList.map asciiLower == b.toList.map asciiLower

end BoardLink.Text

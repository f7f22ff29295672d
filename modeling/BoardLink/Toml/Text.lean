import BoardLink.Text.Numeral

-- Texts in TOML: the four quoted forms, how they are read, and which one is written.
-- Readers take the characters behind an opening quote and give back the text and what follows
-- the closing quote. `fuel` has to be at least the number of characters.
namespace BoardLink.Toml

open BoardLink.Text

-- Characters that may stand for themselves. Of the control characters only the tab may.
def isPlain (c : Char) : Bool := c = '\t' || (0x20 ≤ c.toNat && c.toNat ≠ 0x7f)

def isSpace (c : Char) : Bool := c = ' ' || c = '\t'

-- What follows a line break, if there is one.
def newline? : List Char → Option (List Char)
  | '\n' :: rest => some rest
  | '\r' :: '\n' :: rest => some rest
  | _ => none

-- A character given by a number of hexadecimal digits. Surrogates are no characters.
def coded (digits : Nat) (text : List Char) : Option (Char × List Char) :=
  let code := text.take digits
  if code.length = digits ∧ code.all (fun c => (Numeral.digit? 16 c).isSome) then
    match Numeral.read? 16 0x10ffff code with
    | some n => if n.isValidChar then some (Char.ofNat n, text.drop digits) else none
    | none => none
  else none

-- The character that an escape stands for, given what follows the backslash.
def escaped : List Char → Option (Char × List Char)
  | 'b' :: rest => some ('\x08', rest)
  | 't' :: rest => some ('\t', rest)
  | 'n' :: rest => some ('\n', rest)
  | 'f' :: rest => some ('\x0c', rest)
  | 'r' :: rest => some ('\r', rest)
  | 'e' :: rest => some ('\x1b', rest)
  | '\x22' :: rest => some ('\x22', rest)
  | '\x5c' :: rest => some ('\x5c', rest)
  | 'x' :: rest => coded 2 rest
  | 'u' :: rest => coded 4 rest
  | 'U' :: rest => coded 8 rest
  | _ => none

def push (c : Char) (result : Option (List Char × List Char)) : Option (List Char × List Char) :=
  result.map fun (text, rest) => (c :: text, rest)

-- One line between double quotes, with escapes.
def readBasic : (fuel : Nat) → List Char → Option (List Char × List Char)
  | 0, _ => none
  | _ + 1, [] => none
  | _ + 1, '\x22' :: rest => some ([], rest)
  | fuel + 1, '\x5c' :: rest =>
    match escaped rest with
    | some (c, rest) => push c (readBasic fuel rest)
    | none => none
  | fuel + 1, c :: rest => if isPlain c then push c (readBasic fuel rest) else none

-- One line between single quotes, without escapes.
def readLiteral : List Char → Option (List Char × List Char)
  | [] => none
  | '\x27' :: rest => some ([], rest)
  | c :: rest => if isPlain c then push c (readLiteral rest) else none

-- After three closing quotes, up to two more still belong to the text before them.
def closing (quote : Char) : List Char → List Char × List Char
  | a :: b :: rest =>
    if a = quote then if b = quote then ([a, b], rest) else ([a], b :: rest) else ([], a :: b :: rest)
  | [a] => if a = quote then ([a], []) else ([], [a])
  | [] => ([], [])

-- Drop spaces and line breaks.
def skipLayout : List Char → List Char
  | [] => []
  | '\r' :: '\n' :: rest => skipLayout rest
  | c :: rest => if isSpace c || c = '\n' then skipLayout rest else c :: rest

-- Several lines between triple double quotes, with escapes. A backslash at the end of a line
-- takes away the line break and everything blank after it.
def readLines : (fuel : Nat) → List Char → Option (List Char × List Char)
  | 0, _ => none
  | _ + 1, [] => none
  | _ + 1, '\x22' :: '\x22' :: '\x22' :: rest => some (closing '\x22' rest)
  | fuel + 1, '\x5c' :: rest =>
    match escaped rest with
    | some (c, rest) => push c (readLines fuel rest)
    | none =>
      match newline? (rest.dropWhile isSpace) with
      | some rest => readLines fuel (skipLayout rest)
      | none => none
  | fuel + 1, '\n' :: rest => push '\n' (readLines fuel rest)
  | fuel + 1, '\r' :: '\n' :: rest => push '\r' (push '\n' (readLines fuel rest))
  | fuel + 1, c :: rest => if isPlain c then push c (readLines fuel rest) else none

-- Several lines between triple single quotes, without escapes.
def readLiteralLines : List Char → Option (List Char × List Char)
  | [] => none
  | '\x27' :: '\x27' :: '\x27' :: rest => some (closing '\x27' rest)
  | '\n' :: rest => push '\n' (readLiteralLines rest)
  | '\r' :: '\n' :: rest => push '\r' (push '\n' (readLiteralLines rest))
  | c :: rest => if isPlain c then push c (readLiteralLines rest) else none

-- A line break right after the opening quotes does not count.
def afterOpening (text : List Char) : List Char := (newline? text).getD text

-- A text in any of its four forms.
def readText : List Char → Option (List Char × List Char)
  | '\x22' :: '\x22' :: '\x22' :: rest => readLines (rest.length + 1) (afterOpening rest)
  | '\x22' :: rest => readBasic (rest.length + 1) rest
  | '\x27' :: '\x27' :: '\x27' :: rest => readLiteralLines (afterOpening rest)
  | '\x27' :: rest => readLiteral rest
  | _ => none

-- Control characters that can only be written as escapes.
def isControl (c : Char) : Bool := !isPlain c && c ≠ '\n'

-- The length of the longest stretch of one character.
def longestRun (wanted : Char) (text : List Char) : Nat :=
  (text.foldl (fun (runs : Nat × Nat) c =>
    let run := if c = wanted then runs.1 + 1 else 0
    (run, max runs.2 run)) (0, 0)).2

def escape (c : Char) : List Char :=
  if c = '\x08' then ['\x5c', 'b']
  else if c = '\t' then ['\x5c', 't']
  else if c = '\n' then ['\x5c', 'n']
  else if c = '\x0c' then ['\x5c', 'f']
  else if c = '\r' then ['\x5c', 'r']
  else if c = '\x22' then ['\x5c', '\x22']
  else if c = '\x5c' then ['\x5c', '\x5c']
  else if isControl c then
    ['\x5c', 'u'] ++ Numeral.padLeft 4 '0' (Numeral.hexUpper c.toNat)
  else [c]

-- The inside of triple double quotes. Of `run` quotes in a row every third is escaped.
def escapeLines : (run : Nat) → List Char → List Char
  | _, [] => []
  | run, c :: rest =>
    if c = '\x22' ∧ run < 2 then c :: escapeLines (run + 1) rest
    else if c = '\n' then c :: escapeLines 0 rest
    else escape c ++ escapeLines 0 rest

-- The first form that needs no escapes but for tabs, else double quotes with escapes.
def writeText (text : List Char) : List Char :=
  let lines := text.contains '\n'
  let control := text.any isControl
  let backslash := text.contains '\x5c'
  let basic := '\x22' :: text.flatMap escape ++ ['\x22']
  let opening := if lines then ['\n'] else []
  let basicLines :=
    ['\x22', '\x22', '\x22'] ++ opening ++ escapeLines 0 text ++ ['\x22', '\x22', '\x22']
  if !control && !backslash && longestRun '\x22' text = 0 && !lines then basic
  else if !control && longestRun '\x27' text = 0 && !lines then '\x27' :: text ++ ['\x27']
  else if !control && !backslash && longestRun '\x22' text ≤ 2 then basicLines
  else if !control && longestRun '\x27' text ≤ 2 then
    ['\x27', '\x27', '\x27'] ++ opening ++ text ++ ['\x27', '\x27', '\x27']
  else if lines then basicLines
  else basic

end BoardLink.Toml

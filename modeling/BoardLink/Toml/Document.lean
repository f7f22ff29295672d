import BoardLink.Text.Characters
import BoardLink.Toml.Text

-- TOML documents, as far as settings can use them: texts, whole numbers, empty lists, and tables.
-- A document with any other value is refused like one that is malformed.
namespace BoardLink.Toml

open BoardLink.Text

-- How a table came about, which decides whether it can be added to later.
inductive Origin where
  | header
  | implied
  | dotted
  | inline
  deriving DecidableEq, Repr

inductive Node where
  | text (s : String)
  | integer (n : Nat)
  | emptyList
  | table (origin : Origin) (entries : List (String × Node))
  deriving Repr

abbrev Entries := List (String × Node)

def setEntry (key : String) (node : Node) (entries : Entries) : Entries :=
  if (entries.lookup key).isSome then
    entries.map fun entry => if entry.1 = key then (key, node) else entry
  else entries ++ [(key, node)]

-- Put a value at a dotted key. No key is set twice, and tables with a header of their own and
-- inline tables cannot be added to in this way.
def insert (value : Node) : List String → Entries → Option Entries
  | [], _ => none
  | [key], entries =>
    if (entries.lookup key).isSome then none else some (entries ++ [(key, value)])
  | key :: rest, entries =>
    match entries.lookup key with
    | none => (insert value rest []).map fun inner => entries ++ [(key, .table .dotted inner)]
    | some (.table .dotted inner) | some (.table .implied inner) =>
      (insert value rest inner).map fun inner => setEntry key (.table .dotted inner) entries
    | some _ => none

-- Open a table by its header. The tables around it come into being with it.
-- A table gets no more than one header.
def openTable : List String → Entries → Option Entries
  | [], _ => none
  | [key], entries =>
    match entries.lookup key with
    | none => some (entries ++ [(key, .table .header [])])
    | some (.table .implied inner) => some (setEntry key (.table .header inner) entries)
    | some _ => none
  | key :: rest, entries =>
    match entries.lookup key with
    | none => (openTable rest []).map fun inner => entries ++ [(key, .table .implied inner)]
    | some (.table .inline _) => none
    | some (.table origin inner) =>
      (openTable rest inner).map fun inner => setEntry key (.table origin inner) entries
    | some _ => none

-- Change the entries of the table at a path.
def within (change : Entries → Option Entries) : List String → Entries → Option Entries
  | [], entries => change entries
  | key :: rest, entries =>
    match entries.lookup key with
    | some (.table origin inner) =>
      (within change rest inner).map fun inner => setEntry key (.table origin inner) entries
    | _ => none

-- Drop blanks, line breaks and comments. A comment goes to the end of its line.
def skipFiller : (comment : Bool) → List Char → List Char
  | _, [] => []
  | _, '\n' :: rest => skipFiller false rest
  | _, '\r' :: '\n' :: rest => skipFiller false rest
  | true, c :: rest => if isPlain c then skipFiller true rest else c :: rest
  | false, c :: rest =>
    if c = '#' then skipFiller true rest
    else if isSpace c then skipFiller false rest
    else c :: rest

def skipSpace (text : List Char) : List Char := text.dropWhile isSpace

-- The end of a line: blanks, a comment, and then a line break or the end of the document.
def endOfLine (text : List Char) : Option (List Char) :=
  let after := match skipSpace text with
    | '#' :: rest => rest.dropWhile isPlain
    | other => other
  match after with
  | [] => some []
  | _ => newline? after

def isBareKey (c : Char) : Bool := c.isAlphanum || c = '_' || c = '-'

-- One part of a key: bare, or a text of one line.
def readKeyPart : List Char → Option (String × List Char)
  | '\x22' :: rest => (readBasic (rest.length + 1) rest).map fun (key, rest) => (String.ofList key, rest)
  | '\x27' :: rest => (readLiteral rest).map fun (key, rest) => (String.ofList key, rest)
  | text =>
    let key := text.takeWhile isBareKey
    if key = [] then none else some (String.ofList key, text.dropWhile isBareKey)

-- The parts of a key with dots between them.
def readKey : (fuel : Nat) → List Char → Option (List String × List Char)
  | 0, _ => none
  | fuel + 1, text => do
    let (part, rest) ← readKeyPart text
    match skipSpace rest with
    | '.' :: rest =>
      let (parts, rest) ← readKey fuel (skipSpace rest)
      return (part :: parts, rest)
    | rest => return ([part], rest)

-- Digits of a base with single underscores between them.
def digitsOf? (base : Nat) (text : List Char) : Option Nat :=
  let groups := pieces '_' text
  let isDigit (c : Char) := (Numeral.digit? base c).isSome
  if groups.all fun group => group ≠ [] && group.all isDigit then
    Numeral.read? base 0xffffffffffffffff groups.flatten
  else none

-- A whole number of at most 64 bits. Decimal numbers may have a sign but no leading zeros, and
-- only zero may be negative.
def integerOf? : List Char → Option Nat
  | '0' :: 'x' :: digits => digitsOf? 16 digits
  | '0' :: 'o' :: digits => digitsOf? 8 digits
  | '0' :: 'b' :: digits => digitsOf? 2 digits
  | ['-', '0'] => some 0
  | '+' :: digits => decimal? digits
  | digits => decimal? digits
where
  decimal? : List Char → Option Nat
    | ['0'] => some 0
    | '0' :: _ => none
    | digits => digitsOf? 10 digits

-- The characters of a word that may be a number. A point or a colon makes it none.
def isNumberChar (c : Char) : Bool :=
  c.isAlphanum || c = '_' || c = '+' || c = '-' || c = '.' || c = ':'

mutual

def readValue : (fuel : Nat) → List Char → Option (Node × List Char)
  | 0, _ => none
  | _ + 1, '[' :: rest =>
    match skipFiller false rest with
    | ']' :: rest => some (.emptyList, rest)
    | _ => none
  | fuel + 1, '\x7b' :: rest => do
    let (entries, rest) ← readInline fuel [] (skipFiller false rest)
    return (.table .inline entries, rest)
  | _ + 1, text =>
    match readText text with
    | some (s, rest) => some (.text (String.ofList s), rest)
    | none =>
      match integerOf? (text.takeWhile isNumberChar) with
      | some n => some (.integer n, text.dropWhile isNumberChar)
      | none => none

-- The entries of a table between braces, up to and with the closing brace.
def readInline : (fuel : Nat) → Entries → List Char → Option (Entries × List Char)
  | 0, _, _ => none
  | _ + 1, entries, '\x7d' :: rest => some (entries, rest)
  | fuel + 1, entries, text => do
    let (key, value, rest) ← readPair fuel (skipFiller false) text
    let entries ← insert value key entries
    match skipFiller false rest with
    | ',' :: rest => readInline fuel entries (skipFiller false rest)
    | '\x7d' :: rest => some (entries, rest)
    | _ => none

-- A key, an equals sign and a value. `skip` drops what may stand around the sign: blanks alone,
-- or between braces also line breaks and comments.
def readPair : (fuel : Nat) → (skip : List Char → List Char) → List Char →
    Option (List String × Node × List Char)
  | 0, _, _ => none
  | fuel + 1, skip, text => do
    let (key, rest) ← readKey fuel text
    match skip rest with
    | '=' :: rest =>
      let (value, rest) ← readValue fuel (skip rest)
      return (key, value, rest)
    | _ => none

end

-- The lines of a document in order. `path` is the table that the latest header opened.
def readLinesOf : (fuel : Nat) → (path : List String) → Entries → List Char → Option Entries
  | 0, _, _, _ => none
  | fuel + 1, path, entries, text =>
    match skipFiller false text with
    | [] => some entries
    | '[' :: rest => do
      let (key, rest) ← readKey fuel (skipSpace rest)
      match skipSpace rest with
      | ']' :: rest =>
        let entries ← openTable key entries
        readLinesOf fuel key entries (← endOfLine rest)
      | _ => none
    | text => do
      let (key, value, rest) ← readPair fuel skipSpace text
      let entries ← within (insert value key) path entries
      readLinesOf fuel path entries (← endOfLine rest)

-- A byte order mark in front of a document does not count.
def read (document : String) : Option Entries :=
  let text := match document.toList with
    | '\ufeff' :: rest => rest
    | other => other
  readLinesOf (2 * text.length + 4) [] [] text

end BoardLink.Toml

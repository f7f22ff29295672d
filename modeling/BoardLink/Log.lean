import BoardLink.Text.Characters
import BoardLink.Text.Numeral

-- Log lines and the filter that decides which are shown.
namespace BoardLink.Log

open BoardLink.Text

inductive Level where
  | error
  | warn
  | info
  | debug
  | trace
  deriving DecidableEq, Repr

namespace Level

-- A higher rank is a finer level.
def rank : Level → Nat
  | .error => 1
  | .warn => 2
  | .info => 3
  | .debug => 4
  | .trace => 5

def name : Level → String
  | .error => "ERROR"
  | .warn => "WARN"
  | .info => "INFO"
  | .debug => "DEBUG"
  | .trace => "TRACE"

def all : List Level := [.error, .warn, .info, .debug, .trace]

end Level

-- A line comes from the part of the program that its target names.
structure Line where
  level : Level
  target : String
  message : String
  deriving DecidableEq, Repr

-- Characters that tell a terminal to do something are shown by their numbers. Line breaks and
-- tabs stay as they are.
def shown (c : Char) : List Char :=
  if c = '\x07' ∨ c = '\x08' ∨ c = '\x0c' ∨ c = '\x1b' ∨ c = '\x7f' then
    ['\x5c', 'x'] ++ Numeral.padLeft 2 '0' (Numeral.hexLower c.toNat)
  else if 0x80 ≤ c.toNat ∧ c.toNat ≤ 0x9f then
    ['\x5c', 'u', '\x7b'] ++ Numeral.hexLower c.toNat ++ ['\x7d']
  else [c]

def Line.text (line : Line) : String :=
  line.level.name ++ " " ++ line.target ++ ": " ++
    String.ofList (line.message.toList.flatMap shown)

-- How far down lines are shown, down to and with a level or not at all.
abbrev Threshold := Option Level

def Threshold.shows (threshold : Threshold) (level : Level) : Bool :=
  threshold.any fun finest => level.rank ≤ finest.rank

-- A threshold by name, whatever its case, or by a number up to the highest rank. Zero is off.
def Threshold.ofText? (text : String) : Option Threshold :=
  match Numeral.read? 10 5 text.toList with
  | some rank => some (Level.all.find? (·.rank = rank))
  | none =>
    if sameButCase text "off" then some none
    else (Level.all.find? fun level => sameButCase text level.name).map some

-- A threshold for every target that begins with a text. The empty text begins them all.
structure Rule where
  scope : String
  threshold : Threshold
  deriving DecidableEq, Repr

-- Why a text is no rule.
inductive RuleError where
  | malformed
  | badThreshold
  deriving DecidableEq, Repr

def RuleError.message : RuleError → String
  | .malformed => "invalid filter directive"
  | .badThreshold =>
    "error parsing level filter: expected one of \x22off\x22, \x22error\x22, \x22warn\x22, " ++
      "\x22info\x22, \x22debug\x22, \x22trace\x22, or a number 0-5"

-- How a rule may begin. Beyond ASCII everything counts as a letter.
def beginsRule (c : Char) : Bool :=
  c.isAlphanum || c = '-' || c = ':' || c = '_' || 0x80 ≤ c.toNat

-- A threshold alone is for every target, and a target alone shows everything, as a blank text
-- does. A threshold does not bear blanks, and no rule that has one begins with a blank.
def Rule.ofText (text : String) : Except RuleError Rule :=
  let everything : Threshold := some .trace
  match trim text.toList with
  | [] => .ok ⟨"", everything⟩
  | first :: _ =>
    if !beginsRule first then .error .malformed
    else
      let scope := text.toList.takeWhile (· ≠ '=')
      match text.toList.dropWhile (· ≠ '=') with
      | [] =>
        match Threshold.ofText? text with
        | some threshold => .ok ⟨"", threshold⟩
        | none => .ok ⟨text, everything⟩
      | _ :: threshold =>
        if scope.head?.any isBlank then .error .badThreshold
        else if threshold = [] then .ok ⟨String.ofList scope, everything⟩
        else
          match Threshold.ofText? (String.ofList threshold) with
          | some threshold => .ok ⟨String.ofList scope, threshold⟩
          | none => .error .badThreshold

-- No two rules of a filter have the same scope.
abbrev Filter := List Rule

namespace Filter

-- A later rule takes the place of an earlier one with the same scope.
def add (rule : Rule) (filter : Filter) : Filter :=
  rule :: filter.filter (·.scope ≠ rule.scope)

-- What stands between the commas of a text. Empty pieces do not count.
def piecesOf (text : String) : List String :=
  ((pieces ',' text.toList).map String.ofList).filter (· ≠ "")

-- The rules in a text. Pieces that are no rules are passed over.
-- Without any rule, errors are shown.
def ofText (text : String) : Filter :=
  let rules := (piecesOf text).filterMap fun piece => (Rule.ofText piece).toOption
  if rules = [] then [⟨"", some .error⟩] else rules.foldl (fun filter rule => filter.add rule) []

-- A line for every piece that is passed over.
def notices (text : String) : List String :=
  (piecesOf text).filterMap fun piece =>
    match Rule.ofText piece with
    | .ok _ => none
    | .error error => some ("ignoring \x60" ++ piece ++ "\x60: " ++ error.message)

def covers (target : String) (rule : Rule) : Bool :=
  rule.scope.toList.isPrefixOf target.toList

-- Of the rules that cover a target, the one with the longest scope.
def closest? (target : String) : Filter → Option Rule
  | [] => none
  | rule :: rest =>
    match closest? target rest with
    | none => if covers target rule then some rule else none
    | some other =>
      if covers target rule ∧ other.scope.length < rule.scope.length then some rule
      else some other

-- Targets that no rule covers are silent.
def shows (filter : Filter) (line : Line) : Bool :=
  match filter.closest? line.target with
  | some rule => rule.threshold.shows line.level
  | none => false

end Filter

-- What the program's own part of the log shows, whatever else is asked for.
def ownRule : Rule := ⟨"mctl_cli", some .info⟩

-- The filter of a run, given the value of the variable that asks for one.
def Filter.ofRequest (request : Option String) : Filter :=
  (Filter.ofText (request.getD "")).add ownRule

end BoardLink.Log

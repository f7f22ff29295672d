import BoardLink.Json.Basic
import BoardLink.Proofs.Text.Numerals

-- What a JSON text is, said without a printer: which texts stand for which values. Only texts
-- without blanks between their parts are covered. The text of a value is one that stands for it,
-- and no text has a control character in it, so that each fits on a line.
namespace BoardLink.JsonText

open BoardLink.Text

-- The letters after a backslash and the characters that they stand for.
def shortForms : List (Char × Char) := [
  ('\x22', '\x22'), ('\x5c', '\x5c'), ('/', '/'), ('b', '\x08'), ('f', '\x0c'), ('n', '\n'),
  ('r', '\r'), ('t', '\t')]

-- The ways to write a character between quotes.
inductive Spelled : List Char → Char → Prop where
  | plain {c : Char} (printable : 0x20 ≤ c.toNat) (quote : c ≠ '\x22') (backslash : c ≠ '\x5c') :
      Spelled [c] c
  | short {letter c : Char} (listed : (letter, c) ∈ shortForms) : Spelled ['\x5c', letter] c
  | number {digits : List Char} {c : Char} (four : digits.length = 4)
      (written : Numeral.Written 16 digits c.toNat) : Spelled ('\x5c' :: 'u' :: digits) c

inductive SpelledAll : List Char → List Char → Prop where
  | nil : SpelledAll [] []
  | cons {front back : List Char} {c : Char} {rest : List Char} (head : Spelled front c)
      (tail : SpelledAll back rest) : SpelledAll (front ++ back) (c :: rest)

inductive Quoted : List Char → String → Prop where
  | mk {inner : List Char} {s : String} (spelled : SpelledAll inner s.toList) :
      Quoted ('\x22' :: (inner ++ ['\x22'])) s

-- Digits with no zero in front of them, unless it is the only one.
structure Whole (text : List Char) (n : Nat) : Prop where
  written : Numeral.Written 10 text n
  leading : text.head? = some '0' → text = ['0']

mutual

-- The texts of a value.
inductive Denotes : List Char → JsonValue → Prop where
  | null : Denotes ['n', 'u', 'l', 'l'] .null
  | true : Denotes ['t', 'r', 'u', 'e'] (.bool true)
  | false : Denotes ['f', 'a', 'l', 's', 'e'] (.bool false)
  | natural {text : List Char} {n : Nat} (whole : Whole text n) : Denotes text (.integer n)
  | negative {text : List Char} {n : Nat} (whole : Whole text n) :
      Denotes ('-' :: text) (.integer (-n))
  | fraction {text digits : List Char} {n m : Nat} (whole : Whole text n)
      (written : Numeral.Written 10 digits m) : Denotes (text ++ '.' :: digits) .decimal
  | text {text : List Char} {s : String} (quoted : Quoted text s) : Denotes text (.text s)
  | list {inner : List Char} {items : List JsonValue} (each : DenotesItems inner items) :
      Denotes ('[' :: (inner ++ [']'])) (.list items)
  | object {inner : List Char} {fields : List (String × JsonValue)}
      (each : DenotesFields inner fields) :
      Denotes ('\x7b' :: (inner ++ ['\x7d'])) (.object fields)

-- Commas stand between the items, and nowhere else.
inductive DenotesItems : List Char → List JsonValue → Prop where
  | none : DenotesItems [] []
  | one {text : List Char} {item : JsonValue} (head : Denotes text item) :
      DenotesItems text [item]
  | more {text rest : List Char} {item next : JsonValue} {items : List JsonValue}
      (head : Denotes text item) (tail : DenotesItems rest (next :: items)) :
      DenotesItems (text ++ ',' :: rest) (item :: next :: items)

inductive DenotesFields : List Char → List (String × JsonValue) → Prop where
  | none : DenotesFields [] []
  | one {name text : List Char} {key : String} {value : JsonValue} (quoted : Quoted name key)
      (head : Denotes text value) : DenotesFields (name ++ ':' :: text) [(key, value)]
  | more {name text rest : List Char} {key : String} {value : JsonValue} {next : String × JsonValue}
      {fields : List (String × JsonValue)} (quoted : Quoted name key) (head : Denotes text value)
      (tail : DenotesFields rest (next :: fields)) :
      DenotesFields (name ++ ':' :: (text ++ ',' :: rest)) ((key, value) :: next :: fields)

end

section Writing

theorem spelled_escape (c : Char) : Spelled (JsonValue.escape c) c := by
  unfold JsonValue.escape
  -- the characters that have a letter
  iterate 7
    split
    · rename_i h
      subst h
      exact .short (by decide)
  split
  · rename_i h
    have hlength : (Numeral.hexLower c.toNat).length ≤ 4 :=
      (Nat.length_toDigits_le_iff (by decide) (by decide)).mpr (by omega)
    exact .number (Numeral.length_padLeft hlength)
      ((Numeral.written_toDigits (by decide) c.toNat).padLeft 4)
  · rename_i hquote hbackslash _ _ _ _ _ h
    exact .plain (by omega) hquote hbackslash

theorem quoted_quote (s : String) : Quoted (JsonValue.quote s) s := by
  have hall (text : List Char) : SpelledAll (text.flatMap JsonValue.escape) text := by
    induction text with
    | nil => exact .nil
    | cons c rest ih => exact .cons (spelled_escape c) ih
  exact .mk (hall s.toList)

theorem whole_decimal (n : Nat) : Whole (Numeral.decimal n) n where
  written := Numeral.written_decimal n
  leading := by
    intro h
    obtain ⟨digit, rest, hcons, hdigit, hzero⟩ := Numeral.exists_decimal_cons n
    have hall : ∀ d : Fin 10, Nat.digitChar d.val = '0' → d.val = 0 := by decide
    rw [hcons, List.head?_cons, Option.some.injEq] at h
    rw [hzero (hall ⟨digit, hdigit⟩ h)]
    rfl

theorem denotes_signed (n : Int) : Denotes (Numeral.signed n) (.integer n) := by
  unfold Numeral.signed
  split
  · have hdenotes := Denotes.negative (whole_decimal n.natAbs)
    rwa [show -(n.natAbs : Int) = n by omega] at hdenotes
  · have hdenotes := Denotes.natural (whole_decimal n.natAbs)
    rwa [show (n.natAbs : Int) = n by omega] at hdenotes

mutual

theorem denotes_characters : (value : JsonValue) → Denotes value.characters value
  | .null => .null
  | .bool true => .true
  | .bool false => .false
  | .integer n => denotes_signed n
  | .decimal => .fraction (whole_decimal 0) (Numeral.written_decimal 0)
  | .text s => .text (quoted_quote s)
  | .list items => .list (denotes_itemCharacters items)
  | .object fields => .object (denotes_fieldCharacters fields)

theorem denotes_itemCharacters :
    (items : List JsonValue) → DenotesItems (JsonValue.itemCharacters items) items
  | [] => .none
  | [item] => .one (denotes_characters item)
  | item :: next :: rest => by
      have hmore := DenotesItems.more (denotes_characters item)
        (denotes_itemCharacters (next :: rest))
      simpa only [JsonValue.itemCharacters, List.append_assoc, List.singleton_append] using hmore

theorem denotes_fieldCharacters : (fields : List (String × JsonValue)) →
    DenotesFields (JsonValue.fieldCharacters fields) fields
  | [] => .none
  | [(key, value)] => by
      have hone := DenotesFields.one (quoted_quote key) (denotes_characters value)
      simpa only [JsonValue.fieldCharacters, List.append_assoc, List.cons_append,
        List.nil_append] using hone
  | (key, value) :: next :: rest => by
      have hmore := DenotesFields.more (quoted_quote key) (denotes_characters value)
        (denotes_fieldCharacters (next :: rest))
      simpa only [JsonValue.fieldCharacters, List.append_assoc, List.cons_append,
        List.nil_append] using hmore

end

theorem denotes_render (value : JsonValue) : Denotes value.render.toList value := by
  rw [JsonValue.render, String.toList_ofList]
  exact denotes_characters value

end Writing

section Printable

-- Spaces are the first characters that are none of control.
def Printable (text : List Char) : Prop := ∀ c ∈ text, 0x20 ≤ c.toNat

theorem Printable.append {front back : List Char} (hfront : Printable front)
    (hback : Printable back) : Printable (front ++ back) := fun c hc =>
  (List.mem_append.mp hc).elim (hfront c) (hback c)

theorem Printable.cons {c : Char} {rest : List Char} (hc : 0x20 ≤ c.toNat)
    (hrest : Printable rest) : Printable (c :: rest) :=
  List.forall_mem_cons.mpr ⟨hc, hrest⟩

theorem printable_of_all {text : List Char} (h : text.all fun c => 0x20 ≤ c.toNat) :
    Printable text := fun c hc =>
  of_decide_eq_true (List.all_eq_true.mp h c hc)

theorem printable_written {base n : Nat} {text : List Char} (hbase : base ≤ 16)
    (h : Numeral.Written base text n) : Printable text := by
  intro c hc
  obtain ⟨digit, hdigit, hchar⟩ := h.isDigit_of_mem hc
  have hall : ∀ d : Fin 16, 0x20 ≤ d.val.digitChar.toNat ∧ 0x20 ≤ d.val.digitChar.toUpper.toNat := by
    decide
  obtain ⟨hlower, hupper⟩ := hall ⟨digit, by omega⟩
  rcases hchar with rfl | rfl
  · exact hlower
  · exact hupper

theorem Whole.printable {text : List Char} {n : Nat} (h : Whole text n) : Printable text :=
  printable_written (by decide) h.written

theorem Spelled.printable {text : List Char} {c : Char} (h : Spelled text c) : Printable text := by
  cases h with
  | plain printable => exact .cons printable nofun
  | short listed =>
      have hletters : shortForms.all fun form => 0x20 ≤ form.1.toNat := by decide
      have hletter := List.all_eq_true.mp hletters _ listed
      exact .cons (by decide) (.cons (of_decide_eq_true hletter) nofun)
  | number four written =>
      exact .cons (by decide) (.cons (by decide) (printable_written (by decide) written))

theorem Quoted.printable {text : List Char} {s : String} (h : Quoted text s) : Printable text := by
  obtain ⟨hspelled⟩ := h
  have hinner {inner chars : List Char} (h : SpelledAll inner chars) : Printable inner := by
    induction h with
    | nil => exact nofun
    | cons head _ ih => exact head.printable.append ih
  exact .cons (by decide) ((hinner hspelled).append (.cons (by decide) nofun))

mutual

theorem Denotes.printable {text : List Char} {value : JsonValue} :
    Denotes text value → Printable text
  | .null | .true | .false => printable_of_all (by decide)
  | .natural whole => whole.printable
  | .negative whole => .cons (by decide) whole.printable
  | .fraction whole written =>
      whole.printable.append (.cons (by decide) (printable_written (by decide) written))
  | .text quoted => quoted.printable
  | .list each => .cons (by decide) (each.printable.append (.cons (by decide) nofun))
  | .object each => .cons (by decide) (each.printable.append (.cons (by decide) nofun))

theorem DenotesItems.printable {text : List Char} {items : List JsonValue} :
    DenotesItems text items → Printable text
  | .none => nofun
  | .one head => head.printable
  | .more head tail => head.printable.append (.cons (by decide) tail.printable)

theorem DenotesFields.printable {text : List Char} {fields : List (String × JsonValue)} :
    DenotesFields text fields → Printable text
  | .none => nofun
  | .one quoted head => quoted.printable.append (.cons (by decide) head.printable)
  | .more quoted head tail =>
      quoted.printable.append
        (.cons (by decide) (head.printable.append (.cons (by decide) tail.printable)))

end

end Printable

section Beginning

-- A mark, the first letter of a word, or a digit.
def beginnings : List Char := [
  '\x22', '[', '\x7b', 'n', 't', 'f', '-', '0', '1', '2', '3', '4', '5', '6', '7', '8', '9']

theorem Whole.begins {text : List Char} {n : Nat} (h : Whole text n) :
    ∃ c rest, text = c :: rest ∧ c ∈ beginnings := by
  obtain ⟨c, rest, rfl⟩ := List.exists_cons_of_ne_nil h.written.ne_nil
  obtain ⟨digit, hdigit, hchar⟩ := h.written.isDigit_of_mem List.mem_cons_self
  have hall : ∀ d : Fin 10, d.val.digitChar ∈ beginnings ∧ d.val.digitChar.toUpper ∈ beginnings := by
    decide
  obtain ⟨hlower, hupper⟩ := hall ⟨digit, hdigit⟩
  refine ⟨c, rest, rfl, ?_⟩
  rcases hchar with rfl | rfl
  · exact hlower
  · exact hupper

theorem Denotes.begins {text : List Char} {value : JsonValue} (h : Denotes text value) :
    ∃ c rest, text = c :: rest ∧ c ∈ beginnings := by
  cases h with
  | natural whole => exact whole.begins
  | fraction whole =>
      obtain ⟨c, rest, rfl, hc⟩ := whole.begins
      exact ⟨c, _, rfl, hc⟩
  | text quoted =>
      cases quoted
      exact ⟨_, _, rfl, by decide⟩
  | _ => exact ⟨_, _, rfl, by decide⟩

end Beginning

end BoardLink.JsonText

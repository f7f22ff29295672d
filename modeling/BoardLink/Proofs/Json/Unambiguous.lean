import BoardLink.Proofs.Json.Grammar
import Mathlib.Data.List.Nodup

-- No text stands for two values. A comma or a closing mark follows each value that is not the last,
-- and no value goes on with one of them, so that a text can be cut behind a value in one way only.
namespace BoardLink.JsonText

open BoardLink.Text

variable {text other rest more : List Char}

section Numbers

variable {n m : Nat}

-- What may follow a run of digits that is not to go on.
def NoDigit (rest : List Char) : Prop := ∀ c, rest.head? = some c → c.isDigit = false

theorem isDigit_of_written (h : Numeral.Written 10 text n) : ∀ c ∈ text, c.isDigit = true := by
  intro c hc
  obtain ⟨digit, hdigit⟩ := h.isDigit_of_mem hc
  have hall : ∀ d : Fin 10, d.val.digitChar.isDigit = true := by decide
  rw [hdigit.eq_digitChar]
  exact hall ⟨digit, hdigit.1⟩

theorem takeWhile_written (h : Numeral.Written 10 text n) (hrest : NoDigit rest) :
    (text ++ rest).takeWhile Char.isDigit = text := by
  rw [List.takeWhile_append_of_pos (isDigit_of_written h)]
  cases rest with
  | nil => exact List.append_nil text
  | cons c tail =>
      have hc : ¬ c.isDigit = true := by simp [hrest c rfl]
      rw [List.takeWhile_cons_of_neg hc, List.append_nil]

theorem written_unique (h : Numeral.Written 10 text n) (ho : Numeral.Written 10 other m)
    (hsame : text ++ rest = other ++ more) (hrest : NoDigit rest) (hmore : NoDigit more) :
    text = other ∧ rest = more ∧ n = m := by
  obtain rfl : text = other := by
    rw [← takeWhile_written h hrest, hsame, takeWhile_written ho hmore]
  exact ⟨rfl, List.append_cancel_left hsame, h.unique ho (by decide)⟩

end Numbers

section Texts

-- No letter stands for two characters.
theorem eq_of_shortForms {letter c d : Char} (h : (letter, c) ∈ shortForms)
    (ho : (letter, d) ∈ shortForms) : c = d := by
  have hnodup : (shortForms.map Prod.fst).Nodup := by decide
  exact congrArg Prod.snd (List.inj_on_of_nodup_map hnodup h ho rfl)

theorem letter_ne_u {letter c : Char} (h : (letter, c) ∈ shortForms) : letter ≠ 'u' := by
  have hletters : shortForms.all fun form => form.1 ≠ 'u' := by decide
  exact of_decide_eq_true (List.all_eq_true.mp hletters _ h)

theorem Spelled.unique {c d : Char} (h : Spelled text c) (ho : Spelled other d)
    (hsame : text ++ rest = other ++ more) : text = other ∧ rest = more ∧ c = d := by
  cases h with
  | plain _ _ hc =>
      cases ho with
      | plain =>
          obtain ⟨rfl, rfl⟩ := List.cons.inj hsame
          exact ⟨rfl, rfl, rfl⟩
      | short => exact absurd (List.cons.inj hsame).1 hc
      | number => exact absurd (List.cons.inj hsame).1 hc
  | short listed =>
      cases ho with
      | plain _ _ hd => exact absurd (List.cons.inj hsame).1.symm hd
      | short listed' =>
          obtain ⟨rfl, rfl⟩ := List.cons.inj (List.cons.inj hsame).2
          exact ⟨rfl, rfl, eq_of_shortForms listed listed'⟩
      | number => exact absurd (List.cons.inj (List.cons.inj hsame).2).1 (letter_ne_u listed)
  | number four written =>
      cases ho with
      | plain _ _ hd => exact absurd (List.cons.inj hsame).1.symm hd
      | short listed =>
          exact absurd (List.cons.inj (List.cons.inj hsame).2).1.symm (letter_ne_u listed)
      | number four' written' =>
          have htail := (List.cons.inj (List.cons.inj hsame).2).2
          obtain ⟨rfl, rfl⟩ := List.append_inj htail (four.trans four'.symm)
          exact ⟨rfl, rfl, Char.toNat_inj.mp (written.unique written' (by decide))⟩

-- A quote is never the beginning of a character between quotes.
theorem Spelled.ne_quote {c : Char} (h : Spelled text c) : text ++ rest ≠ '\x22' :: more := by
  intro hsame
  cases h with
  | plain _ hc => exact hc (List.cons.inj hsame).1
  | short => exact absurd (List.cons.inj hsame).1 (by decide)
  | number => exact absurd (List.cons.inj hsame).1 (by decide)

theorem SpelledAll.unique {chars others : List Char} (h : SpelledAll text chars)
    (ho : SpelledAll other others) (hsame : text ++ '\x22' :: rest = other ++ '\x22' :: more) :
    text = other ∧ rest = more ∧ chars = others := by
  induction h generalizing other others with
  | nil =>
      cases ho with
      | nil => exact ⟨rfl, (List.cons.inj hsame).2, rfl⟩
      | cons head =>
          rw [List.append_assoc] at hsame
          exact absurd hsame.symm head.ne_quote
  | cons head _ ih =>
      cases ho with
      | nil =>
          rw [List.append_assoc] at hsame
          exact absurd hsame head.ne_quote
      | cons head' tail' =>
          rw [List.append_assoc, List.append_assoc] at hsame
          obtain ⟨rfl, htail, rfl⟩ := head.unique head' hsame
          obtain ⟨rfl, rfl, rfl⟩ := ih tail' htail
          exact ⟨rfl, rfl, rfl⟩

theorem Quoted.unique {s t : String} (h : Quoted text s) (ho : Quoted other t)
    (hsame : text ++ rest = other ++ more) : text = other ∧ rest = more ∧ s = t := by
  obtain ⟨hspelled⟩ := h
  obtain ⟨hother⟩ := ho
  simp only [List.cons_append, List.append_assoc, List.nil_append] at hsame
  obtain ⟨rfl, rfl, hchars⟩ := hspelled.unique hother (List.cons.inj hsame).2
  exact ⟨rfl, rfl, String.toList_inj.mp hchars⟩

-- A key and the colon behind it are cut off together.
theorem Quoted.member_unique {s t : String} {first second : List Char} (h : Quoted text s)
    (ho : Quoted other t)
    (hsame : (text ++ ':' :: first) ++ rest = (other ++ ':' :: second) ++ more) :
    text = other ∧ first ++ rest = second ++ more ∧ s = t := by
  simp only [List.append_assoc, List.cons_append] at hsame
  obtain ⟨hname, hvalue, hkey⟩ := h.unique ho hsame
  exact ⟨hname, (List.cons.inj hvalue).2, hkey⟩

theorem Quoted.ne_brace {s : String} (h : Quoted text s) : text ++ rest ≠ '\x7d' :: more := by
  cases h
  exact fun hsame => absurd (List.cons.inj hsame).1 (by decide)

end Texts

section Values

variable {value found : JsonValue}

-- What may follow a value.
def Ended (rest : List Char) : Prop := ∀ c, rest.head? = some c → c ∈ [',', ']', '\x7d']

theorem ended_nil : Ended [] := nofun

theorem ended_cons {c : Char} (h : c ∈ [',', ']', '\x7d']) : Ended (c :: rest) := by
  rintro _ ⟨⟩
  exact h

theorem ended_comma : Ended (',' :: rest) := ended_cons (by decide)

theorem ended_bracket : Ended (']' :: rest) := ended_cons (by decide)

theorem ended_brace : Ended ('\x7d' :: rest) := ended_cons (by decide)

theorem Ended.noDigit (h : Ended rest) : NoDigit rest := by
  intro c hc
  have hall : [',', ']', '\x7d'].all fun mark => mark.isDigit = false := by decide
  exact of_decide_eq_true (List.all_eq_true.mp hall c (h c hc))

theorem Ended.ne_point (h : Ended rest) : rest ≠ '.' :: more := by
  rintro rfl
  exact absurd (h '.' rfl) (by decide)

-- The words, the numbers and what stands between marks begin with different characters.
inductive Kind where
  | null
  | yes
  | no
  | number
  | text
  | list
  | object
  deriving DecidableEq

def kindOf : JsonValue → Kind
  | .null => .null
  | .bool true => .yes
  | .bool false => .no
  | .integer _ => .number
  | .decimal => .number
  | .text _ => .text
  | .list _ => .list
  | .object _ => .object

def kindAt : Char → Kind
  | 'n' => .null
  | 't' => .yes
  | 'f' => .no
  | '\x22' => .text
  | '[' => .list
  | '\x7b' => .object
  | _ => .number

theorem Whole.exists_digit {n : Nat} (h : Whole text n) :
    ∃ digit tail, digit < 10 ∧ text = Nat.digitChar digit :: tail := by
  obtain ⟨c, tail, rfl⟩ := List.exists_cons_of_ne_nil h.written.ne_nil
  obtain ⟨digit, hdigit⟩ := h.written.isDigit_of_mem List.mem_cons_self
  exact ⟨digit, tail, hdigit.1, by rw [hdigit.eq_digitChar]⟩

theorem Denotes.kindAt_head (h : Denotes text value) :
    ∃ c tail, text = c :: tail ∧ kindAt c = kindOf value := by
  have hall : ∀ d : Fin 10, kindAt d.val.digitChar = .number := by decide
  cases h with
  | natural whole =>
      obtain ⟨digit, tail, hdigit, rfl⟩ := whole.exists_digit
      exact ⟨_, _, rfl, hall ⟨digit, hdigit⟩⟩
  | fraction whole =>
      obtain ⟨digit, tail, hdigit, rfl⟩ := whole.exists_digit
      exact ⟨_, _, rfl, hall ⟨digit, hdigit⟩⟩
  | text quoted =>
      cases quoted
      exact ⟨_, _, rfl, rfl⟩
  | _ => exact ⟨_, _, rfl, rfl⟩

theorem Denotes.kindOf_eq (h : Denotes text value) (ho : Denotes other found)
    (hsame : text ++ rest = other ++ more) : kindOf value = kindOf found := by
  obtain ⟨c, tail, rfl, hc⟩ := h.kindAt_head
  obtain ⟨d, others, rfl, hd⟩ := ho.kindAt_head
  rw [← hc, ← hd, (List.cons.inj hsame).1]

theorem Denotes.ne_closing (h : Denotes text value) : text ++ rest ≠ ']' :: more := by
  obtain ⟨c, tail, rfl, hc⟩ := h.begins
  intro hsame
  obtain rfl := (List.cons.inj hsame).1
  exact absurd hc (by decide)

theorem Whole.ne_minus {n : Nat} (h : Whole text n) : text ++ rest ≠ '-' :: more := by
  have hall : ∀ d : Fin 10, d.val.digitChar ≠ '-' := by decide
  obtain ⟨digit, tail, hdigit, rfl⟩ := h.exists_digit
  exact fun hsame => hall ⟨digit, hdigit⟩ (List.cons.inj hsame).1

-- A sign, a point and the digits on both sides of it are told apart one after the other.
theorem Denotes.number_unique (h : Denotes text value) (ho : Denotes other found)
    (hkind : kindOf value = .number) (hkind' : kindOf found = .number)
    (hsame : text ++ rest = other ++ more) (hrest : Ended rest) (hmore : Ended more) :
    text = other ∧ rest = more ∧ value = found := by
  have hpoint : ∀ tail, NoDigit ('.' :: tail) := by
    rintro tail _ ⟨⟩
    rfl
  cases h with
  | natural whole =>
      cases ho with
      | natural whole' =>
          obtain ⟨rfl, rfl, rfl⟩ :=
            written_unique whole.written whole'.written hsame hrest.noDigit hmore.noDigit
          exact ⟨rfl, rfl, rfl⟩
      | negative => exact absurd hsame whole.ne_minus
      | fraction whole' =>
          rw [List.append_assoc] at hsame
          obtain ⟨-, hcut, -⟩ :=
            written_unique whole.written whole'.written hsame hrest.noDigit (hpoint _)
          exact absurd hcut hrest.ne_point
      | _ => cases hkind'
  | negative whole =>
      cases ho with
      | natural whole' => exact absurd hsame.symm whole'.ne_minus
      | negative whole' =>
          obtain ⟨rfl, rfl, rfl⟩ := written_unique whole.written whole'.written
            (List.cons.inj hsame).2 hrest.noDigit hmore.noDigit
          exact ⟨rfl, rfl, rfl⟩
      | fraction whole' =>
          rw [List.append_assoc] at hsame
          exact absurd hsame.symm whole'.ne_minus
      | _ => cases hkind'
  | fraction whole written =>
      rw [List.append_assoc] at hsame
      cases ho with
      | natural whole' =>
          obtain ⟨-, hcut, -⟩ :=
            written_unique whole.written whole'.written hsame (hpoint _) hmore.noDigit
          exact absurd hcut.symm hmore.ne_point
      | negative => exact absurd hsame whole.ne_minus
      | fraction whole' written' =>
          rw [List.append_assoc] at hsame
          obtain ⟨rfl, hcut, rfl⟩ :=
            written_unique whole.written whole'.written hsame (hpoint _) (hpoint _)
          obtain ⟨rfl, rfl, rfl⟩ := written_unique written written' (List.cons.inj hcut).2
            hrest.noDigit hmore.noDigit
          exact ⟨rfl, rfl, rfl⟩
      | _ => cases hkind'
  | _ => cases hkind

mutual

theorem Denotes.cut_unique {text other rest more : List Char} {value found : JsonValue} :
    Denotes text value → Denotes other found → text ++ rest = other ++ more → Ended rest →
      Ended more → text = other ∧ rest = more ∧ value = found
  | .null, ho, hsame, _, _ => by
      have hkind := Denotes.null.kindOf_eq ho hsame
      cases ho with
      | null => exact ⟨rfl, List.append_cancel_left hsame, rfl⟩
      | _ => cases hkind
  | .true, ho, hsame, _, _ => by
      have hkind := Denotes.true.kindOf_eq ho hsame
      cases ho with
      | true => exact ⟨rfl, List.append_cancel_left hsame, rfl⟩
      | _ => cases hkind
  | .false, ho, hsame, _, _ => by
      have hkind := Denotes.false.kindOf_eq ho hsame
      cases ho with
      | false => exact ⟨rfl, List.append_cancel_left hsame, rfl⟩
      | _ => cases hkind
  | .natural whole, ho, hsame, hrest, hmore =>
      have hkind := (Denotes.natural whole).kindOf_eq ho hsame
      (Denotes.natural whole).number_unique ho rfl hkind.symm hsame hrest hmore
  | .negative whole, ho, hsame, hrest, hmore =>
      have hkind := (Denotes.negative whole).kindOf_eq ho hsame
      (Denotes.negative whole).number_unique ho rfl hkind.symm hsame hrest hmore
  | .fraction whole written, ho, hsame, hrest, hmore =>
      have hkind := (Denotes.fraction whole written).kindOf_eq ho hsame
      (Denotes.fraction whole written).number_unique ho rfl hkind.symm hsame hrest hmore
  | .text quoted, ho, hsame, _, _ => by
      have hkind := (Denotes.text quoted).kindOf_eq ho hsame
      cases ho with
      | text quoted' =>
          obtain ⟨rfl, rfl, rfl⟩ := quoted.unique quoted' hsame
          exact ⟨rfl, rfl, rfl⟩
      | _ => cases hkind
  | .list each, ho, hsame, _, _ => by
      have hkind := (Denotes.list each).kindOf_eq ho hsame
      cases ho with
      | list each' =>
          simp only [List.cons_append, List.append_assoc, List.nil_append] at hsame
          obtain ⟨rfl, rfl, rfl⟩ := each.cut_unique each' (List.cons.inj hsame).2
          exact ⟨rfl, rfl, rfl⟩
      | _ => cases hkind
  | .object each, ho, hsame, _, _ => by
      have hkind := (Denotes.object each).kindOf_eq ho hsame
      cases ho with
      | object each' =>
          simp only [List.cons_append, List.append_assoc, List.nil_append] at hsame
          obtain ⟨rfl, rfl, rfl⟩ := each.cut_unique each' (List.cons.inj hsame).2
          exact ⟨rfl, rfl, rfl⟩
      | _ => cases hkind

theorem DenotesItems.cut_unique {text other rest more : List Char} {items found : List JsonValue} :
    DenotesItems text items → DenotesItems other found →
      text ++ ']' :: rest = other ++ ']' :: more → text = other ∧ rest = more ∧ items = found
  | .none, ho, hsame => by
      cases ho with
      | none => exact ⟨rfl, (List.cons.inj hsame).2, rfl⟩
      | one head => exact absurd hsame.symm head.ne_closing
      | more head =>
          rw [List.append_assoc] at hsame
          exact absurd hsame.symm head.ne_closing
  | .one head, ho, hsame => by
      cases ho with
      | none => exact absurd hsame head.ne_closing
      | one head' =>
          obtain ⟨rfl, hcut, rfl⟩ := head.cut_unique head' hsame ended_bracket ended_bracket
          exact ⟨rfl, (List.cons.inj hcut).2, rfl⟩
      | more head' =>
          rw [List.append_assoc] at hsame
          obtain ⟨-, hcut, -⟩ := head.cut_unique head' hsame ended_bracket ended_comma
          exact absurd (List.cons.inj hcut).1 (by decide)
  | .more head tail, ho, hsame => by
      rw [List.append_assoc] at hsame
      cases ho with
      | none => exact absurd hsame head.ne_closing
      | one head' =>
          obtain ⟨-, hcut, -⟩ := head.cut_unique head' hsame ended_comma ended_bracket
          exact absurd (List.cons.inj hcut).1 (by decide)
      | more head' tail' =>
          rw [List.append_assoc] at hsame
          obtain ⟨rfl, hcut, rfl⟩ := head.cut_unique head' hsame ended_comma ended_comma
          obtain ⟨rfl, rfl, htail⟩ := tail.cut_unique tail' (List.cons.inj hcut).2
          exact ⟨rfl, rfl, by rw [htail]⟩

theorem DenotesFields.cut_unique {text other rest more : List Char}
    {fields found : List (String × JsonValue)} :
    DenotesFields text fields → DenotesFields other found →
      text ++ '\x7d' :: rest = other ++ '\x7d' :: more → text = other ∧ rest = more ∧ fields = found
  | .none, ho, hsame => by
      cases ho with
      | none => exact ⟨rfl, (List.cons.inj hsame).2, rfl⟩
      | one quoted =>
          rw [List.append_assoc] at hsame
          exact absurd hsame.symm quoted.ne_brace
      | more quoted =>
          rw [List.append_assoc] at hsame
          exact absurd hsame.symm quoted.ne_brace
  | .one quoted head, ho, hsame => by
      cases ho with
      | none =>
          rw [List.append_assoc] at hsame
          exact absurd hsame quoted.ne_brace
      | one quoted' head' =>
          obtain ⟨rfl, hvalue, rfl⟩ := quoted.member_unique quoted' hsame
          obtain ⟨rfl, hcut, rfl⟩ := head.cut_unique head' hvalue ended_brace ended_brace
          exact ⟨rfl, (List.cons.inj hcut).2, rfl⟩
      | more quoted' head' =>
          obtain ⟨rfl, hvalue, rfl⟩ := quoted.member_unique quoted' hsame
          rw [List.append_assoc] at hvalue
          obtain ⟨-, hcut, -⟩ := head.cut_unique head' hvalue ended_brace ended_comma
          exact absurd (List.cons.inj hcut).1 (by decide)
  | .more quoted head tail, ho, hsame => by
      cases ho with
      | none =>
          rw [List.append_assoc] at hsame
          exact absurd hsame quoted.ne_brace
      | one quoted' head' =>
          obtain ⟨rfl, hvalue, rfl⟩ := quoted.member_unique quoted' hsame
          rw [List.append_assoc] at hvalue
          obtain ⟨-, hcut, -⟩ := head.cut_unique head' hvalue ended_comma ended_brace
          exact absurd (List.cons.inj hcut).1 (by decide)
      | more quoted' head' tail' =>
          obtain ⟨rfl, hvalue, rfl⟩ := quoted.member_unique quoted' hsame
          rw [List.append_assoc, List.append_assoc] at hvalue
          obtain ⟨rfl, hcut, rfl⟩ := head.cut_unique head' hvalue ended_comma ended_comma
          obtain ⟨rfl, rfl, htail⟩ := tail.cut_unique tail' (List.cons.inj hcut).2
          exact ⟨rfl, rfl, by rw [htail]⟩

end

-- A whole text is a value with nothing behind it.
theorem Denotes.unique (h : Denotes text value) (ho : Denotes text found) : value = found :=
  (h.cut_unique ho rfl ended_nil ended_nil).2.2

theorem denotes_render_iff (value found : JsonValue) :
    Denotes value.render.toList found ↔ found = value := by
  constructor
  · exact fun h => h.unique (denotes_render value)
  · rintro rfl
    exact denotes_render found

end Values

end BoardLink.JsonText

import BoardLink.Toml.Document
import BoardLink.Proofs.Text.Numerals
import BoardLink.Proofs.Toml.Text

-- Documents of plain lines, each with one bare key and one value, are read line by line.
namespace BoardLink.Toml

open BoardLink.Text

section Classes

variable {p : Char → Bool} {c : Char}

-- A character of a class is none that the class leaves out.
theorem ne_of_class {other : Char} (h : p c = true) (ho : p other = false) : c ≠ other := by
  rintro rfl
  rw [h] at ho
  cases ho

theorem isSpace_of_class (h : p c = true) (hblank : p ' ' = false) (htab : p '\t' = false) :
    isSpace c = false := by
  have hb : c ≠ ' ' := ne_of_class h hblank
  have ht : c ≠ '\t' := ne_of_class h htab
  simp [isSpace, hb, ht]

end Classes

section Numbers

theorem digit_facts {digit : Nat} (h : digit < 10) :
    digit.digitChar ≠ '_' ∧ digit.digitChar ≠ '-' ∧ digit.digitChar ≠ '+' ∧
      (Numeral.digit? 10 digit.digitChar).isSome = true ∧ isNumberChar digit.digitChar = true ∧
      (digit.digitChar = '0' → digit = 0) := by
  have hall : ∀ n : Fin 10, n.val.digitChar ≠ '_' ∧ n.val.digitChar ≠ '-' ∧
      n.val.digitChar ≠ '+' ∧ (Numeral.digit? 10 n.val.digitChar).isSome = true ∧
      isNumberChar n.val.digitChar = true ∧ (n.val.digitChar = '0' → n.val = 0) := by
    decide
  exact hall ⟨digit, h⟩

theorem digitsOf?_decimal {n : Nat} (h : n ≤ 0xffffffffffffffff) :
    digitsOf? 10 (Numeral.decimal n) = some n := by
  have hunderscore : '_' ∉ Numeral.decimal n := by
    intro hm
    obtain ⟨digit, hd, he⟩ := Numeral.exists_digit hm
    exact (digit_facts hd).1 he.symm
  have hdigits : (Numeral.decimal n).all (fun c => (Numeral.digit? 10 c).isSome) = true := by
    rw [List.all_eq_true]
    intro c hc
    obtain ⟨digit, hd, rfl⟩ := Numeral.exists_digit hc
    exact (digit_facts hd).2.2.2.1
  have hne : Numeral.decimal n ≠ [] := by
    obtain ⟨digit, rest, hcons, -⟩ := Numeral.exists_decimal_cons n
    rw [hcons]
    exact List.cons_ne_nil _ _
  have hread : Numeral.read? 10 0xffffffffffffffff (Numeral.decimal n) = some n := by
    rw [Numeral.read?, Numeral.read_decimal n h]
    rfl
  simp [digitsOf?, List.splitOn_eq_singleton hunderscore, hdigits, hne, hread]

-- No number but zero is written with a zero in front.
theorem integerOf?_decimal {n : Nat} (h : n ≤ 0xffffffffffffffff) :
    integerOf? (Numeral.decimal n) = some n := by
  have hdigits := digitsOf?_decimal h
  obtain ⟨digit, rest, hcons, hd, hzero⟩ := Numeral.exists_decimal_cons n
  obtain ⟨-, hminus, hplus, -, -, hnull⟩ := digit_facts hd
  by_cases hn : n = 0
  · subst hn
    rfl
  · have hfirst : digit.digitChar ≠ '0' := fun he => hn (hzero (hnull he))
    rw [hcons] at hdigits ⊢
    simp [integerOf?, integerOf?.decimal?, hfirst, hminus, hplus, hdigits]

end Numbers

section Values

variable {fuel : Nat} {rest : List Char}

-- Anything but a bracket or a brace begins a text or a number.
theorem readValue_of_ne {first : Char} {others : List Char} (hlist : first ≠ '[')
    (htable : first ≠ '\x7b') :
    readValue (fuel + 1) (first :: others) =
      match readText (first :: others) with
      | some (s, rest) => some (.text (String.ofList s), rest)
      | none =>
        match integerOf? ((first :: others).takeWhile isNumberChar) with
        | some n => some (.integer n, (first :: others).dropWhile isNumberChar)
        | none => none := by
  refine readValue.eq_4 _ fuel ?_ ?_
  · exact fun _ heq => hlist (List.cons.inj heq).1
  · exact fun _ heq => htable (List.cons.inj heq).1

theorem readValue_writeText (text : List Char) (hq : Ended '\x22' rest) (hl : Ended '\x27' rest) :
    readValue (fuel + 1) (writeText text ++ rest) = some (.text (String.ofList text), rest) := by
  have hread := readText_writeText text hq hl
  obtain ⟨quote, others, hcons, hquote⟩ := exists_writeText_cons text
  rw [hcons, List.cons_append] at hread ⊢
  rw [readValue_of_ne, hread]
  · rcases hquote with rfl | rfl <;> decide
  · rcases hquote with rfl | rfl <;> decide

theorem skipSpace_writeText (text : List Char) :
    skipSpace (writeText text ++ rest) = writeText text ++ rest := by
  obtain ⟨quote, others, hcons, hquote⟩ := exists_writeText_cons text
  have hspace : isSpace quote = false := by rcases hquote with rfl | rfl <;> decide
  simp [skipSpace, hcons, hspace]

theorem isNumberChar_of_mem {n : Nat} {c : Char} (hc : c ∈ Numeral.decimal n) :
    isNumberChar c = true := by
  obtain ⟨digit, hd, rfl⟩ := Numeral.exists_digit hc
  exact (digit_facts hd).2.2.2.2.1

theorem readValue_decimal {n : Nat} (h : n ≤ 0xffffffffffffffff) :
    readValue (fuel + 1) (Numeral.decimal n ++ '\n' :: rest) =
      some (.integer n, '\n' :: rest) := by
  have hinteger := integerOf?_decimal h
  have hall : ∀ c ∈ Numeral.decimal n, isNumberChar c = true := fun _ => isNumberChar_of_mem
  have hbreak : ¬ isNumberChar '\n' = true := by decide
  have htake : (Numeral.decimal n ++ '\n' :: rest).takeWhile isNumberChar =
      Numeral.decimal n := by
    rw [List.takeWhile_append_of_pos hall, List.takeWhile_cons_of_neg hbreak, List.append_nil]
  have hdrop : (Numeral.decimal n ++ '\n' :: rest).dropWhile isNumberChar = '\n' :: rest := by
    rw [List.dropWhile_append_of_pos hall, List.dropWhile_cons_of_neg hbreak]
  obtain ⟨digit, others, hcons, -⟩ := Numeral.exists_decimal_cons n
  have hc : isNumberChar digit.digitChar = true := hall _ (hcons ▸ List.mem_cons_self ..)
  have hdouble : digit.digitChar ≠ '\x22' := ne_of_class hc (by decide)
  have hsingle : digit.digitChar ≠ '\x27' := ne_of_class hc (by decide)
  have htext : readText (digit.digitChar :: (others ++ '\n' :: rest)) = none := by
    simp [readText, hdouble, hsingle]
  rw [hcons, List.cons_append] at htake hdrop ⊢
  rw [readValue_of_ne (ne_of_class hc (by decide)) (ne_of_class hc (by decide)), htext, htake,
    hdrop, ← hcons, hinteger]

theorem skipSpace_decimal (n : Nat) :
    skipSpace (Numeral.decimal n ++ rest) = Numeral.decimal n ++ rest := by
  obtain ⟨digit, others, hcons, -⟩ := Numeral.exists_decimal_cons n
  have hc : isNumberChar digit.digitChar = true :=
    isNumberChar_of_mem (n := n) (hcons ▸ List.mem_cons_self ..)
  have hspace := isSpace_of_class hc (by decide) (by decide)
  simp [skipSpace, hcons, hspace]

end Values

section Lines

variable {fuel : Nat} {name value rest more : List Char} {node : Node} {entries : Entries}

-- A key that needs no quotes.
def Bare (name : List Char) : Prop := name ≠ [] ∧ ∀ c ∈ name, isBareKey c = true

theorem skipFiller_bare (h : Bare name) : skipFiller false (name ++ rest) = name ++ rest := by
  obtain ⟨c, others, rfl⟩ := List.exists_cons_of_ne_nil h.1
  have hc := h.2 c (List.mem_cons_self ..)
  have hn : c ≠ '\n' := ne_of_class hc (by decide)
  have hr : c ≠ '\r' := ne_of_class hc (by decide)
  have hcomment : c ≠ '#' := ne_of_class hc (by decide)
  have hspace := isSpace_of_class hc (by decide) (by decide)
  simp [skipFiller, hr, hcomment, hspace]

theorem readKeyPart_bare (h : Bare name) :
    readKeyPart (name ++ ' ' :: rest) = some (String.ofList name, ' ' :: rest) := by
  have hspace : isBareKey ' ' = false := by decide
  have htake : (name ++ ' ' :: rest).takeWhile isBareKey = name := by
    rw [List.takeWhile_append_of_pos h.2, List.takeWhile_cons_of_neg (by simp [hspace]),
      List.append_nil]
  have hdrop : (name ++ ' ' :: rest).dropWhile isBareKey = ' ' :: rest := by
    rw [List.dropWhile_append_of_pos h.2, List.dropWhile_cons_of_neg (by simp [hspace])]
  obtain ⟨c, others, hcons⟩ := List.exists_cons_of_ne_nil h.1
  have hc : isBareKey c = true := h.2 c (hcons ▸ List.mem_cons_self ..)
  have hdouble : c ≠ '\x22' := ne_of_class hc (by decide)
  have hsingle : c ≠ '\x27' := ne_of_class hc (by decide)
  unfold readKeyPart
  split
  · rename_i heq
    rw [hcons] at heq
    exact absurd (List.cons.inj heq).1 hdouble
  · rename_i heq
    rw [hcons] at heq
    exact absurd (List.cons.inj heq).1 hsingle
  · rw [htake, hdrop]
    exact if_neg h.1

theorem readKey_bare (h : Bare name) :
    readKey (fuel + 1) (name ++ ' ' :: '=' :: rest) = some ([String.ofList name], '=' :: rest) := by
  simp only [readKey, readKeyPart_bare h]
  rfl

theorem readPair_bare (h : Bare name) (hskip : skipSpace value = value)
    (hvalue : readValue (fuel + 1) value = some (node, rest)) :
    readPair (fuel + 1 + 1) skipSpace (name ++ ' ' :: '=' :: ' ' :: value) =
      some ([String.ofList name], node, rest) := by
  have hblank : skipSpace (' ' :: value) = value := hskip
  have hequals : skipSpace ('=' :: ' ' :: value) = '=' :: ' ' :: value := rfl
  simp only [readPair, readKey_bare h, Option.bind_eq_bind, Option.bind_some, hequals, hblank,
    hvalue]
  rfl

-- One line adds one entry.
theorem readLinesOf_line (h : Bare name) (hskip : skipSpace value = value)
    (hvalue : readValue (fuel + 1) value = some (node, '\n' :: rest))
    (hnew : entries.lookup (String.ofList name) = none) :
    readLinesOf (fuel + 1 + 1 + 1) [] entries (name ++ ' ' :: '=' :: ' ' :: value) =
      readLinesOf (fuel + 1 + 1) [] (entries ++ [(String.ofList name, node)]) rest := by
  have hpair := readPair_bare h hskip hvalue
  have hend : endOfLine ('\n' :: rest) = some rest := rfl
  have hinsert : within (insert node [String.ofList name]) [] entries =
      some (entries ++ [(String.ofList name, node)]) := by
    simp only [within, insert, hnew]
    rfl
  obtain ⟨c, others, hcons⟩ := List.exists_cons_of_ne_nil h.1
  have hc : c ≠ '[' := ne_of_class (h.2 c (hcons ▸ List.mem_cons_self ..)) (by decide)
  rw [readLinesOf, skipFiller_bare h]
  split
  · rename_i heq
    rw [hcons] at heq
    cases heq
  · rename_i heq
    rw [hcons] at heq
    exact absurd (List.cons.inj heq).1 hc
  · simp only [hpair, hinsert, hend, Option.bind_eq_bind, Option.bind_some]

end Lines

-- A line with a bare key and a value that is read as `node`, whatever comes on the next lines.
structure PlainLine where
  name : String
  value : List Char
  node : Node
  bare : Bare name.toList
  tight : ∀ rest, skipSpace (value ++ rest) = value ++ rest
  reads : ∀ fuel rest,
    readValue (fuel + 1) (value ++ '\n' :: rest) = some (node, '\n' :: rest)

namespace PlainLine

def text (line : PlainLine) : List Char :=
  line.name.toList ++ ' ' :: '=' :: ' ' :: line.value ++ ['\n']

def entry (line : PlainLine) : String × Node := (line.name, line.node)

def ofText (name : String) (bare : Bare name.toList) (text : String) : PlainLine where
  name
  value := writeText text.toList
  node := .text text
  bare
  tight := fun _ => skipSpace_writeText text.toList
  reads := fun _ _ => by
    rw [readValue_writeText text.toList (by simp [Ended]) (by simp [Ended]), String.ofList_toList]

def ofNumber (name : String) (bare : Bare name.toList) (n : Nat) (h : n ≤ 0xffffffffffffffff) :
    PlainLine where
  name
  value := Numeral.decimal n
  node := .integer n
  bare
  tight := fun _ => skipSpace_decimal n
  reads := fun _ _ => readValue_decimal h

theorem exists_text_cons (line : PlainLine) :
    ∃ first rest, line.text = first :: rest ∧ isBareKey first = true := by
  obtain ⟨first, others, hcons⟩ := List.exists_cons_of_ne_nil line.bare.1
  refine ⟨first, others ++ ' ' :: '=' :: ' ' :: line.value ++ ['\n'], ?_, ?_⟩
  · simp [text, hcons]
  · exact line.bare.2 first (hcons ▸ List.mem_cons_self ..)

theorem length_text_pos (line : PlainLine) : 0 < line.text.length := by
  obtain ⟨first, rest, hcons, -⟩ := line.exists_text_cons
  simp [hcons]

theorem length_le_length_texts (lines : List PlainLine) :
    lines.length ≤ (lines.flatMap text).length := by
  induction lines with
  | nil => simp
  | cons line lines ih =>
      have hpos := line.length_text_pos
      simp only [List.length_cons, List.flatMap_cons, List.length_append]
      omega

end PlainLine

-- Induction on the lines that are still to be read. The names read so far stay distinct.
theorem readLinesOf_plain {entries : Entries} {fuel : Nat} (lines : List PlainLine)
    (hfuel : lines.length + 3 ≤ fuel)
    (hnames : ((entries ++ lines.map PlainLine.entry).map Prod.fst).Nodup) :
    readLinesOf fuel [] entries (lines.flatMap PlainLine.text) =
      some (entries ++ lines.map PlainLine.entry) := by
  induction lines generalizing entries fuel with
  | nil =>
      obtain ⟨fuel, rfl⟩ := Nat.exists_eq_add_of_le' (Nat.le_of_succ_le hfuel)
      simp [readLinesOf, skipFiller]
  | cons line lines ih =>
      simp only [List.length_cons] at hfuel
      obtain ⟨fuel, rfl⟩ := Nat.exists_eq_add_of_le' (show 3 ≤ fuel by omega)
      have hnew : entries.lookup (String.ofList line.name.toList) = none := by
        rw [String.ofList_toList, List.lookup_eq_none_iff]
        intro entry hmem
        simp only [List.map_append, List.map_cons, List.nodup_append] at hnames
        have hne := hnames.2.2 _ (List.mem_map_of_mem hmem) _ (List.mem_cons_self ..)
        simpa [PlainLine.entry] using Ne.symm hne
      have hline := readLinesOf_line line.bare (line.tight ('\n' :: lines.flatMap PlainLine.text))
        (line.reads fuel (lines.flatMap PlainLine.text)) hnew
      rw [String.ofList_toList] at hline
      have happend : entries ++ (line :: lines).map PlainLine.entry =
          (entries ++ [line.entry]) ++ lines.map PlainLine.entry := by simp
      rw [happend] at hnames ⊢
      have hrest : readLinesOf (fuel + 1 + 1) [] (entries ++ [line.entry])
          (lines.flatMap PlainLine.text) =
          some (entries ++ [line.entry] ++ lines.map PlainLine.entry) := ih (by omega) hnames
      rw [← hrest]
      simpa [PlainLine.text, PlainLine.entry] using hline

-- A document of plain lines with distinct keys holds their entries and nothing else.
theorem read_plain (lines : List PlainLine) (hnames : (lines.map PlainLine.name).Nodup) :
    read (String.ofList (lines.flatMap PlainLine.text)) = some (lines.map PlainLine.entry) := by
  have hlength := PlainLine.length_le_length_texts lines
  have hentries : (([] ++ lines.map PlainLine.entry).map Prod.fst).Nodup := by
    simpa [PlainLine.entry, Function.comp_def] using hnames
  have hmark : ∀ rest, lines.flatMap PlainLine.text ≠ '\ufeff' :: rest := by
    intro rest heq
    cases lines with
    | nil => cases heq
    | cons line lines =>
        obtain ⟨first, others, hcons, hfirst⟩ := line.exists_text_cons
        rw [List.flatMap_cons, hcons, List.cons_append] at heq
        exact ne_of_class hfirst (by decide) (List.cons.inj heq).1
  rw [read, String.toList_ofList]
  split
  · rename_i rest heq
    exact absurd heq (hmark rest)
  · rw [readLinesOf_plain lines (by omega) hentries, List.nil_append]

end BoardLink.Toml

import BoardLink.Toml.Text
import Mathlib.Tactic.SplitIfs

-- Texts in quotes are read as what they were written for, whatever characters are in them.
namespace BoardLink.Toml

open BoardLink.Text

section Escapes

variable {c : Char} {code rest : List Char} {n : Nat}

theorem coded_append {digits : Nat} (hlen : code.length = digits)
    (hdigits : code.all (fun c => (Numeral.digit? 16 c).isSome) = true)
    (hread : Numeral.read? 16 0x10ffff code = some n) (hvalid : n.isValidChar) :
    coded digits (code ++ rest) = some (Char.ofNat n, rest) := by
  subst hlen
  simp only [coded, List.take_left', List.drop_left', hdigits, and_self, if_true, hread,
    if_pos hvalid]

-- The control characters are few enough to look at each.
theorem coded_control (hc : isControl c = true) :
    coded 4 (Numeral.padLeft 4 '0' (Numeral.hexUpper c.toNat) ++ rest) = some (c, rest) := by
  have hall : ∀ n : Fin 128, (Numeral.padLeft 4 '0' (Numeral.hexUpper n)).length = 4 ∧
      (Numeral.padLeft 4 '0' (Numeral.hexUpper n)).all
        (fun c => (Numeral.digit? 16 c).isSome) = true ∧
      Numeral.read? 16 0x10ffff (Numeral.padLeft 4 '0' (Numeral.hexUpper n)) = some n.val := by
    decide
  have hlt : c.toNat < 128 := by
    simp only [isControl, isPlain, Bool.and_eq_true, Bool.not_eq_true', Bool.or_eq_false_iff,
      Bool.and_eq_false_iff, decide_eq_false_iff_not] at hc
    omega
  obtain ⟨hlen, hdigits, hread⟩ := hall ⟨c.toNat, hlt⟩
  have hvalid : c.toNat.isValidChar := Or.inl (by omega)
  rw [coded_append hlen hdigits hread hvalid, Char.ofNat_toNat]

-- A character is written as an escape that stands for it, or as itself where it may be.
theorem escape_cases (c : Char) :
    (∃ code, escape c = '\x5c' :: code ∧ ∀ rest, escaped (code ++ rest) = some (c, rest)) ∨
      escape c = [c] ∧ isPlain c = true ∧ c ≠ '\x22' ∧ c ≠ '\x5c' := by
  unfold escape
  split_ifs with hb ht hn hf hr hq hs hc
  · exact .inl ⟨['b'], rfl, fun _ => hb ▸ rfl⟩
  · exact .inl ⟨['t'], rfl, fun _ => ht ▸ rfl⟩
  · exact .inl ⟨['n'], rfl, fun _ => hn ▸ rfl⟩
  · exact .inl ⟨['f'], rfl, fun _ => hf ▸ rfl⟩
  · exact .inl ⟨['r'], rfl, fun _ => hr ▸ rfl⟩
  · subst hq
    exact .inl ⟨['\x22'], rfl, fun _ => rfl⟩
  · subst hs
    exact .inl ⟨['\x5c'], rfl, fun _ => rfl⟩
  · exact .inl ⟨_, rfl, fun _ => coded_control hc⟩
  · refine .inr ⟨rfl, ?_, hq, hs⟩
    simpa [isControl, hn] using hc

-- Either way it begins with something else than a quote or a line break.
theorem exists_escape_cons (c : Char) :
    ∃ first others, escape c = first :: others ∧ isPlain first = true ∧ first ≠ '\x22' := by
  obtain ⟨code, he, -⟩ | ⟨he, hp, hq, -⟩ := escape_cases c
  · exact ⟨_, code, he, by decide, by decide⟩
  · exact ⟨c, [], he, hp, hq⟩

theorem length_le_flatMap_escape (text : List Char) :
    text.length ≤ (text.flatMap escape).length := by
  induction text with
  | nil => exact Nat.le_refl 0
  | cons c rest ih =>
      have hc : 1 ≤ (escape c).length := by
        obtain ⟨first, others, he, -⟩ := exists_escape_cons c
        simp [he]
      rw [List.flatMap_cons, List.length_append, List.length_cons]
      omega

end Escapes

section Basic

variable {fuel : Nat} {c : Char} {text rest more : List Char}

theorem readBasic_escape (h : escaped rest = some (c, more)) :
    readBasic (fuel + 1) ('\x5c' :: rest) = push c (readBasic fuel more) := by
  simp only [readBasic, h]

theorem readBasic_plain (hp : isPlain c = true) (hq : c ≠ '\x22') (hs : c ≠ '\x5c') :
    readBasic (fuel + 1) (c :: rest) = push c (readBasic fuel rest) := by
  simp only [readBasic, hp, if_true]

theorem readBasic_flatMap (h : text.length ≤ fuel) :
    readBasic (fuel + 1) (text.flatMap escape ++ '\x22' :: rest) = some (text, rest) := by
  induction text generalizing fuel with
  | nil => rfl
  | cons c text ih =>
      cases fuel with
      | zero => cases h
      | succ fuel =>
          have hrest := ih (Nat.le_of_succ_le_succ h)
          rw [List.flatMap_cons, List.append_assoc]
          obtain ⟨code, he, hcode⟩ | ⟨he, hp, hq, hs⟩ := escape_cases c
          · rw [he, List.cons_append, readBasic_escape (hcode _), hrest]
            rfl
          · rw [he, List.singleton_append, readBasic_plain hp hq hs, hrest]
            rfl

end Basic

theorem readLiteral_append {text rest : List Char} (hp : ∀ c ∈ text, isPlain c = true)
    (hq : '\x27' ∉ text) : readLiteral (text ++ '\x27' :: rest) = some (text, rest) := by
  induction text with
  | nil => rfl
  | cons c text ih =>
      have hc : c ≠ '\x27' := fun h => hq (h ▸ List.mem_cons_self ..)
      have hrest := ih (fun d hd => hp d (List.mem_cons_of_mem c hd))
        fun hm => hq (List.mem_cons_of_mem c hm)
      simp only [List.cons_append, readLiteral, hp c (List.mem_cons_self ..), if_true, hrest, push,
        Option.map_some]

section Closing

variable {quote : Char} {rest : List Char}

-- Nothing but the closing quotes themselves ends a text of several lines, so what follows them
-- is taken to begin with another character.
def Ended (quote : Char) (rest : List Char) : Prop := rest.head? ≠ some quote

theorem closing_of_ended (h : Ended quote rest) : closing quote rest = ([], rest) := by
  cases rest with
  | nil => rfl
  | cons c rest =>
      have hc : c ≠ quote := fun he => h (congrArg some he)
      cases rest <;> simp only [closing, if_neg hc]

theorem closing_one (h : Ended quote rest) : closing quote (quote :: rest) = ([quote], rest) := by
  cases rest with
  | nil => simp only [closing, if_true]
  | cons c rest =>
      have hc : c ≠ quote := fun he => h (congrArg some he)
      simp only [closing, if_true, if_neg hc]

theorem closing_two : closing quote (quote :: quote :: rest) = ([quote, quote], rest) := by
  simp only [closing, if_true]

end Closing

section Lines

variable {fuel : Nat} {c : Char} {text rest more : List Char}

theorem readLines_escape (h : escaped rest = some (c, more)) :
    readLines (fuel + 1) ('\x5c' :: rest) = push c (readLines fuel more) := by
  simp only [readLines, h]

-- A character stands for itself, and so does a quote in front of other things than two more.
theorem readLines_push (hp : isPlain c = true) (hs : c ≠ '\x5c')
    (hq : c = '\x22' → ¬ ['\x22', '\x22'] <+: rest) :
    readLines (fuel + 1) (c :: rest) = push c (readLines fuel rest) := by
  have hn : c ≠ '\n' := by
    rintro rfl
    cases hp
  have hr : c ≠ '\r' := by
    rintro rfl
    cases hp
  have hmore : ∀ more, c = '\x22' → rest ≠ '\x22' :: '\x22' :: more := by
    rintro more hc rfl
    exact hq hc ⟨more, rfl⟩
  rw [readLines, if_pos hp]
  · exact hmore
  · exact hs
  · exact hn
  · exact fun _ h => absurd h hr

theorem readLines_newline :
    readLines (fuel + 1) ('\n' :: rest) = push '\n' (readLines fuel rest) := rfl

theorem readLines_close : readLines (fuel + 1) ('\x22' :: '\x22' :: '\x22' :: rest) =
    some (closing '\x22' rest) := rfl

variable {run : Nat}

theorem escapeLines_quote (h : run < 2) :
    escapeLines run ('\x22' :: text) = '\x22' :: escapeLines (run + 1) text := by
  simp only [escapeLines, h, and_self, if_true]

-- A quote that is not written as it is begins with a backslash.
theorem exists_escapeLines_cons (h : ¬ (c = '\x22' ∧ run < 2)) :
    ∃ first others, escapeLines run (c :: text) = first :: others ∧ first ≠ '\x22' := by
  simp only [escapeLines, if_neg h]
  split
  · rename_i hn
    exact ⟨c, _, rfl, by rw [hn]; decide⟩
  · obtain ⟨first, others, he, -, hq⟩ := exists_escape_cons c
    exact ⟨first, _, by rw [he]; rfl, hq⟩

-- Behind a quote come two more only where the text ends.
theorem not_prefix_escapeLines (hnil : text ≠ []) (hone : ¬ (text = ['\x22'] ∧ run + 1 < 2)) :
    ¬ ['\x22', '\x22'] <+: escapeLines (run + 1) text ++ rest := by
  obtain ⟨c, text, rfl⟩ := List.exists_cons_of_ne_nil hnil
  by_cases hq : c = '\x22' ∧ run + 1 < 2
  · obtain ⟨rfl, hlt⟩ := hq
    have hmore : text ≠ [] := fun h => hone ⟨by rw [h], hlt⟩
    obtain ⟨d, text, rfl⟩ := List.exists_cons_of_ne_nil hmore
    have hd : ¬ (d = '\x22' ∧ run + 1 + 1 < 2) := by omega
    obtain ⟨first, others, hcons, hfirst⟩ := @exists_escapeLines_cons d text (run + 1 + 1) hd
    rw [escapeLines_quote hlt, hcons]
    simpa using hfirst.symm
  · obtain ⟨first, others, hcons, hfirst⟩ := @exists_escapeLines_cons c text (run + 1) hq
    rw [hcons]
    simp [hfirst.symm]

theorem readLines_escapeLines (he : Ended '\x22' rest) (h : text.length ≤ fuel) :
    readLines (fuel + 1) (escapeLines run text ++ '\x22' :: '\x22' :: '\x22' :: rest) =
      some (text, rest) := by
  induction text generalizing run fuel with
  | nil => rw [escapeLines, List.nil_append, readLines_close, closing_of_ended he]
  | cons c text ih =>
      cases fuel with
      | zero => cases h
      | succ fuel =>
          have hlen : text.length ≤ fuel := Nat.le_of_succ_le_succ h
          by_cases hq : c = '\x22' ∧ run < 2
          · obtain ⟨rfl, hlt⟩ := hq
            rw [escapeLines_quote hlt, List.cons_append]
            by_cases hnil : text = []
            · rw [hnil, escapeLines, List.nil_append, readLines_close, closing_one he]
            · by_cases hone : text = ['\x22'] ∧ run + 1 < 2
              · rw [hone.1, escapeLines_quote hone.2, escapeLines, List.singleton_append,
                  readLines_close, closing_two]
              · rw [readLines_push (by decide) (by decide)
                  (fun _ => not_prefix_escapeLines hnil hone), ih hlen]
                rfl
          · have hrest : readLines (fuel + 1)
                (escapeLines 0 text ++ '\x22' :: '\x22' :: '\x22' :: rest) = some (text, rest) :=
              ih hlen
            simp only [escapeLines, if_neg hq]
            split
            · rename_i hn
              rw [hn, List.cons_append, readLines_newline, hrest]
              rfl
            · rw [List.append_assoc]
              obtain ⟨code, hc, hcode⟩ | ⟨hc, hp, hne, hs⟩ := escape_cases c
              · rw [hc, List.cons_append, readLines_escape (hcode _), hrest]
                rfl
              · rw [hc, List.singleton_append, readLines_push hp hs (absurd · hne), hrest]
                rfl

end Lines

section Runs

variable {wanted : Char} {text : List Char}

def countRun (wanted : Char) (runs : Nat × Nat) (c : Char) : Nat × Nat :=
  let run := if c = wanted then runs.1 + 1 else 0
  (run, max runs.2 run)

theorem longestRun_eq : longestRun wanted text = (text.foldl (countRun wanted) (0, 0)).2 := rfl

theorem le_foldl_countRun (text : List Char) (runs : Nat × Nat) :
    runs.2 ≤ (text.foldl (countRun wanted) runs).2 := by
  induction text generalizing runs with
  | nil => exact Nat.le_refl _
  | cons c text ih =>
      have hstep : runs.2 ≤ (countRun wanted runs c).2 := Nat.le_max_left ..
      exact Nat.le_trans hstep (ih _)

theorem le_foldl_replicate (wanted : Char) (count : Nat) (runs : Nat × Nat) :
    runs.1 + (count + 1) ≤
      ((List.replicate (count + 1) wanted).foldl (countRun wanted) runs).2 := by
  have hrun : (countRun wanted runs wanted).1 = runs.1 + 1 := if_pos rfl
  rw [List.replicate_succ, List.foldl_cons]
  induction count generalizing runs with
  | zero =>
      have hbest : (countRun wanted runs wanted).1 ≤ (countRun wanted runs wanted).2 :=
        Nat.le_max_right ..
      rwa [hrun] at hbest
  | succ count ih =>
      have hrest := ih (countRun wanted runs wanted) (if_pos rfl)
      rw [List.replicate_succ, List.foldl_cons]
      omega

-- Whatever stands around it, a run counts with its whole length.
theorem le_longestRun {count : Nat} (h : List.replicate count wanted <:+: text) :
    count ≤ longestRun wanted text := by
  cases count with
  | zero => exact Nat.zero_le _
  | succ count =>
      obtain ⟨before, after, rfl⟩ := h
      rw [longestRun_eq, List.foldl_append, List.foldl_append]
      have hrun := le_foldl_replicate wanted count (before.foldl (countRun wanted) (0, 0))
      exact Nat.le_trans (Nat.le_trans (Nat.le_add_left ..) hrun) (le_foldl_countRun after _)

end Runs

section LiteralLines

variable {c : Char} {text rest : List Char}

theorem readLiteralLines_push (hp : isPlain c = true)
    (hq : c = '\x27' → ¬ ['\x27', '\x27'] <+: rest) :
    readLiteralLines (c :: rest) = push c (readLiteralLines rest) := by
  have hn : c ≠ '\n' := by
    rintro rfl
    cases hp
  have hr : c ≠ '\r' := by
    rintro rfl
    cases hp
  have hmore : ∀ more, c = '\x27' → rest ≠ '\x27' :: '\x27' :: more := by
    rintro more hc rfl
    exact hq hc ⟨more, rfl⟩
  rw [readLiteralLines, if_pos hp]
  · exact hmore
  · exact hn
  · exact fun _ h => absurd h hr

theorem readLiteralLines_newline :
    readLiteralLines ('\n' :: rest) = push '\n' (readLiteralLines rest) := rfl

theorem readLiteralLines_close : readLiteralLines ('\x27' :: '\x27' :: '\x27' :: rest) =
    some (closing '\x27' rest) := rfl

theorem readLiteralLines_append (hp : ∀ c ∈ text, isPlain c = true ∨ c = '\n')
    (hrun : ¬ ['\x27', '\x27', '\x27'] <:+: text) (he : Ended '\x27' rest) :
    readLiteralLines (text ++ '\x27' :: '\x27' :: '\x27' :: rest) = some (text, rest) := by
  induction text with
  | nil => rw [List.nil_append, readLiteralLines_close, closing_of_ended he]
  | cons c text ih =>
      have hrest := ih (fun d hd => hp d (List.mem_cons_of_mem c hd))
        fun h => hrun (h.trans (List.suffix_cons c text).isInfix)
      rw [List.cons_append]
      by_cases hq : c = '\x27'
      · subst hq
        by_cases hnil : text = []
        · rw [hnil, List.nil_append, readLiteralLines_close, closing_one he]
        · by_cases hone : text = ['\x27']
          · rw [hone, List.singleton_append, readLiteralLines_close, closing_two]
          · have hnp : ¬ ['\x27', '\x27'] <+:
                text ++ '\x27' :: '\x27' :: '\x27' :: rest := by
              match text, hnil, hone with
              | a :: [], _, hone => simpa using fun h => hone (by rw [h])
              | a :: b :: more, _, _ =>
                  intro h
                  obtain ⟨rfl, hb⟩ : '\x27' = a ∧ '\x27' = b := by simpa using h
                  subst hb
                  exact hrun ⟨[], more, rfl⟩
            rw [readLiteralLines_push (by decide) (fun _ => hnp), hrest]
            rfl
      · rcases hp c (List.mem_cons_self ..) with hp | rfl
        · rw [readLiteralLines_push hp (absurd · hq), hrest]
          rfl
        · rw [readLiteralLines_newline, hrest]
          rfl

end LiteralLines

section Forms

variable {text rest : List Char}

theorem newline?_of_isPlain {c : Char} (h : isPlain c = true) : newline? (c :: rest) = none := by
  unfold newline?
  split
  · rename_i heq
    cases heq
    cases h
  · rename_i heq
    cases heq
    cases h
  · rfl

-- A line break is put in front of a text that has one of its own, and taken away again.
theorem afterOpening_append {broken : Bool}
    (h : broken = false → ∃ first others, text = first :: others ∧ isPlain first = true) :
    afterOpening ((if broken then ['\n'] else []) ++ text) = text := by
  cases broken with
  | true => rfl
  | false =>
      obtain ⟨first, others, rfl, hp⟩ := h rfl
      have hnone : newline? (first :: others) = none := newline?_of_isPlain hp
      exact congrArg (Option.getD · _) hnone

theorem readText_double (h : ¬ ['\x22', '\x22'] <+: rest) :
    readText ('\x22' :: rest) = readBasic (rest.length + 1) rest := by
  have hr : ∀ more, rest ≠ '\x22' :: '\x22' :: more := by
    rintro more rfl
    exact h ⟨more, rfl⟩
  simp [readText]

theorem readText_single (h : ¬ ['\x27', '\x27'] <+: rest) :
    readText ('\x27' :: rest) = readLiteral rest := by
  have hr : ∀ more, rest ≠ '\x27' :: '\x27' :: more := by
    rintro more rfl
    exact h ⟨more, rfl⟩
  simp [readText]

theorem readText_basic (he : Ended '\x22' rest) :
    readText ('\x22' :: text.flatMap escape ++ ['\x22'] ++ rest) = some (text, rest) := by
  have hlen := length_le_flatMap_escape text
  have hnp : ¬ ['\x22', '\x22'] <+: text.flatMap escape ++ '\x22' :: rest := by
    cases text with
    | nil =>
        intro h
        obtain ⟨more, rfl⟩ := (List.cons_prefix_cons.mp h).2
        exact he rfl
    | cons c text =>
        obtain ⟨first, others, hc, -, hq⟩ := exists_escape_cons c
        simp [hc, hq.symm]
  rw [List.cons_append, List.cons_append, List.append_assoc, List.singleton_append,
    readText_double hnp, readBasic_flatMap]
  simp only [List.length_append]
  omega

theorem readText_literal (hp : ∀ c ∈ text, isPlain c = true) (hq : '\x27' ∉ text)
    (he : Ended '\x27' rest) :
    readText ('\x27' :: text ++ ['\x27'] ++ rest) = some (text, rest) := by
  have hnp : ¬ ['\x27', '\x27'] <+: text ++ '\x27' :: rest := by
    cases text with
    | nil =>
        intro h
        obtain ⟨more, rfl⟩ := (List.cons_prefix_cons.mp h).2
        exact he rfl
    | cons c text =>
        have hc : '\x27' ≠ c := fun h => hq (h ▸ List.mem_cons_self ..)
        simp [hc]
  rw [List.cons_append, List.cons_append, List.append_assoc, List.singleton_append,
    readText_single hnp, readLiteral_append hp hq]

theorem length_le_escapeLines (run : Nat) (text : List Char) :
    text.length ≤ (escapeLines run text).length := by
  induction text generalizing run with
  | nil => exact Nat.zero_le _
  | cons c text ih =>
      simp only [escapeLines]
      split
      · exact Nat.succ_le_succ (ih _)
      · split
        · exact Nat.succ_le_succ (ih _)
        · have hrest := ih 0
          obtain ⟨first, others, he, -⟩ := exists_escape_cons c
          simp only [he, List.length_append, List.length_cons]
          omega

theorem readText_lines (he : Ended '\x22' rest) :
    readText (['\x22', '\x22', '\x22'] ++ (if text.contains '\n' then ['\n'] else []) ++
      escapeLines 0 text ++ ['\x22', '\x22', '\x22'] ++ rest) = some (text, rest) := by
  have hopen : text.contains '\n' = false → ∃ first others,
      escapeLines 0 text ++ '\x22' :: '\x22' :: '\x22' :: rest = first :: others ∧
        isPlain first = true := by
    intro hn
    cases text with
    | nil => exact ⟨_, _, rfl, by decide⟩
    | cons c text =>
        have hc : c ≠ '\n' := by
          rintro rfl
          simp at hn
        simp only [escapeLines, if_neg hc]
        split
        · rename_i hq
          exact ⟨c, _, rfl, by rw [hq.1]; decide⟩
        · obtain ⟨first, others, hcons, hp, -⟩ := exists_escape_cons c
          exact ⟨first, _, by rw [hcons]; rfl, hp⟩
  have hlen := length_le_escapeLines 0 text
  have hread : ∀ fuel, text.length ≤ fuel → readLines (fuel + 1)
      (escapeLines 0 text ++ '\x22' :: '\x22' :: '\x22' :: rest) = some (text, rest) :=
    fun _ => readLines_escapeLines he
  rw [← afterOpening_append hopen] at hread
  generalize (if text.contains '\n' then ['\n'] else []) = opening at hread ⊢
  have hfuel := hread (opening ++ (escapeLines 0 text ++ '\x22' :: '\x22' :: '\x22' :: rest)).length
    (by simp only [List.length_append]; omega)
  simpa [readText] using hfuel

theorem readText_literalLines (hp : ∀ c ∈ text, isPlain c = true ∨ c = '\n')
    (hrun : ¬ ['\x27', '\x27', '\x27'] <:+: text) (he : Ended '\x27' rest) :
    readText (['\x27', '\x27', '\x27'] ++ (if text.contains '\n' then ['\n'] else []) ++
      text ++ ['\x27', '\x27', '\x27'] ++ rest) = some (text, rest) := by
  have hopen : text.contains '\n' = false → ∃ first others,
      text ++ '\x27' :: '\x27' :: '\x27' :: rest = first :: others ∧ isPlain first = true := by
    intro hn
    cases text with
    | nil => exact ⟨_, _, rfl, by decide⟩
    | cons c text =>
        refine ⟨c, _, rfl, (hp c (List.mem_cons_self ..)).resolve_right ?_⟩
        rintro rfl
        simp at hn
  have hread := readLiteralLines_append hp hrun he
  rw [← afterOpening_append hopen] at hread
  simpa [readText] using hread

theorem isPlain_or_of_any (h : text.any isControl = false) :
    ∀ c ∈ text, isPlain c = true ∨ c = '\n' := by
  intro c hc
  have hcontrol : isControl c = false := by simpa using List.any_eq_false.mp h c hc
  cases hp : isPlain c with
  | true => exact .inl rfl
  | false => exact .inr (by simpa [isControl, hp] using hcontrol)

-- The forms that a text can be written in, each with what it takes for granted.
theorem writeText_cases (text : List Char) :
    writeText text = '\x22' :: text.flatMap escape ++ ['\x22'] ∨
      writeText text = '\x27' :: text ++ ['\x27'] ∧
        (∀ c ∈ text, isPlain c = true) ∧ '\x27' ∉ text ∨
      writeText text = ['\x22', '\x22', '\x22'] ++
        (if text.contains '\n' then ['\n'] else []) ++ escapeLines 0 text ++
        ['\x22', '\x22', '\x22'] ∨
      writeText text = ['\x27', '\x27', '\x27'] ++
          (if text.contains '\n' then ['\n'] else []) ++ text ++ ['\x27', '\x27', '\x27'] ∧
        (∀ c ∈ text, isPlain c = true ∨ c = '\n') ∧
        ¬ ['\x27', '\x27', '\x27'] <:+: text := by
  simp only [writeText]
  generalize (if text.contains '\n' then ['\n'] else []) = opening
  split
  · exact .inl rfl
  · split
    · rename_i hl
      simp only [Bool.and_eq_true, Bool.not_eq_true', decide_eq_true_eq] at hl
      obtain ⟨⟨hcontrol, hrun⟩, hbreak⟩ := hl
      refine .inr (.inl ⟨rfl, ?_, ?_⟩)
      · intro c hc
        refine (isPlain_or_of_any hcontrol c hc).resolve_right ?_
        rintro rfl
        simp [hc] at hbreak
      · intro hm
        obtain ⟨before, after, hsplit⟩ := List.append_of_mem hm
        have hone : List.replicate 1 '\x27' <:+: text := ⟨before, after, by simp [hsplit]⟩
        have hle := le_longestRun hone
        omega
    · split
      · exact .inr (.inr (.inl rfl))
      · split
        · rename_i hl
          simp only [Bool.and_eq_true, Bool.not_eq_true', decide_eq_true_eq] at hl
          refine .inr (.inr (.inr ⟨rfl, isPlain_or_of_any hl.1, fun h => ?_⟩))
          have hthree : List.replicate 3 '\x27' <:+: text := h
          have hle := le_longestRun hthree
          omega
        · split
          · exact .inr (.inr (.inl rfl))
          · exact .inl rfl

theorem exists_writeText_cons (text : List Char) :
    ∃ quote others, writeText text = quote :: others ∧ (quote = '\x22' ∨ quote = '\x27') := by
  obtain h | ⟨h, -⟩ | h | ⟨h, -⟩ := writeText_cases text
  · exact ⟨_, _, h, .inl rfl⟩
  · exact ⟨_, _, h, .inr rfl⟩
  · exact ⟨_, _, h, .inl rfl⟩
  · exact ⟨_, _, h, .inr rfl⟩

-- Whatever form is chosen for a text, it is read as this text.
theorem readText_writeText (text : List Char) (hq : Ended '\x22' rest) (hl : Ended '\x27' rest) :
    readText (writeText text ++ rest) = some (text, rest) := by
  obtain h | ⟨h, hp, hn⟩ | h | ⟨h, hp, hrun⟩ := writeText_cases text
  · rw [h, readText_basic hq]
  · rw [h, readText_literal hp hn hl]
  · rw [h, readText_lines hq]
  · rw [h, readText_literalLines hp hrun hl]

end Forms

end BoardLink.Toml

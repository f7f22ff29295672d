import BoardLink.Text.Characters

-- Texts with blanks around them, and what is left when those are taken away.
namespace BoardLink.Text

variable {before text after : List Char}

theorem dropBlanks_append (h : ∀ c ∈ before, isBlank c = true) (text : List Char) :
    dropBlanks (before ++ text) = dropBlanks text :=
  List.dropWhile_append_of_pos h

theorem dropBlanks_of_blank (h : ∀ c ∈ text, isBlank c = true) : dropBlanks text = [] := by
  have hnil := dropBlanks_append h []
  rwa [List.append_nil] at hnil

theorem dropBlanks_cons {c : Char} (h : isBlank c = false) (rest : List Char) :
    dropBlanks (c :: rest) = c :: rest :=
  List.dropWhile_cons_of_neg (by simp [h])

theorem dropBlanks_of_plain (h : ∀ c ∈ text, isBlank c = false) : dropBlanks text = text := by
  cases text with
  | nil => rfl
  | cons c rest => exact dropBlanks_cons (h c List.mem_cons_self) rest

-- A text without blanks comes out whole, and nothing else does.
theorem trim_surrounded (hb : ∀ c ∈ before, isBlank c = true)
    (ht : ∀ c ∈ text, isBlank c = false) (ha : ∀ c ∈ after, isBlank c = true) :
    trim (before ++ text ++ after) = text := by
  have hback : ∀ c ∈ after.reverse, isBlank c = true := fun c hc =>
    ha c (List.mem_reverse.mp hc)
  have hplain : ∀ c ∈ text.reverse, isBlank c = false := fun c hc =>
    ht c (List.mem_reverse.mp hc)
  have hfront : dropBlanks (before ++ text ++ after) = text ++ after ∨
      text = [] ∧ dropBlanks (before ++ text ++ after) = [] := by
    rw [List.append_assoc, dropBlanks_append hb]
    cases text with
    | nil => exact .inr ⟨rfl, dropBlanks_of_blank ha⟩
    | cons c rest => exact .inl (dropBlanks_cons (ht c List.mem_cons_self) (rest ++ after))
  rcases hfront with hfront | ⟨hnil, hfront⟩
  · rw [trim, hfront, List.reverse_append, dropBlanks_append hback, dropBlanks_of_plain hplain,
      List.reverse_reverse]
  · rw [trim, hfront, hnil]
    rfl

theorem trim_of_plain (h : ∀ c ∈ text, isBlank c = false) : trim text = text := by
  have hnone : ∀ c ∈ ([] : List Char), isBlank c = true := nofun
  have hwhole := trim_surrounded hnone h hnone
  rwa [List.nil_append, List.append_nil] at hwhole

-- A word with blanks on both sides, or on one, or on none.
def Surrounded (word text : List Char) : Prop :=
  ∃ before after, (∀ c ∈ before, isBlank c = true) ∧ (∀ c ∈ after, isBlank c = true) ∧
    text = before ++ word ++ after

theorem exists_dropBlanks (text : List Char) :
    ∃ blanks, (∀ c ∈ blanks, isBlank c = true) ∧ text = blanks ++ dropBlanks text :=
  ⟨text.takeWhile isBlank, List.all_eq_true.mp List.all_takeWhile,
    List.takeWhile_append_dropWhile.symm⟩

-- Only blanks are taken away.
theorem surrounded_trim (text : List Char) : Surrounded (trim text) text := by
  obtain ⟨before, hbefore, hfront⟩ := exists_dropBlanks text
  obtain ⟨after, hafter, hback⟩ := exists_dropBlanks (dropBlanks text).reverse
  refine ⟨before, after.reverse, hbefore, fun c hc => hafter c (List.mem_reverse.mp hc), ?_⟩
  have hrest : dropBlanks text = trim text ++ after.reverse := by
    rw [trim, ← List.reverse_append, ← hback, List.reverse_reverse]
  rw [List.append_assoc, ← hrest]
  exact hfront

theorem trim_eq_iff {word : List Char} (h : ∀ c ∈ word, isBlank c = false) :
    trim text = word ↔ Surrounded word text := by
  constructor
  · rintro rfl
    exact surrounded_trim text
  · rintro ⟨before, after, hbefore, hafter, rfl⟩
    exact trim_surrounded hbefore h hafter

end BoardLink.Text

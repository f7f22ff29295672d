import BoardLink.Text.Numeral
import Mathlib.Algebra.Group.Nat.Defs
import Mathlib.Data.List.Induction

-- The texts that are read as numbers: at least one digit, and perhaps a plus sign in front. Written
-- numbers are such texts, so they are read as the numbers they were written for.
namespace BoardLink.Text.Numeral

-- The characters of a digit are one or two, as letters count in either case.
def IsDigit (base : Nat) (c : Char) (digit : Nat) : Prop :=
  digit < base ∧ (c = digit.digitChar ∨ c = digit.digitChar.toUpper)

-- Numbers as they are written, with the highest place first.
inductive Written (base : Nat) : List Char → Nat → Prop where
  | one {c : Char} {digit : Nat} (h : IsDigit base c digit) : Written base [c] digit
  | place {text : List Char} {n : Nat} {c : Char} {digit : Nat} (h : Written base text n)
      (hd : IsDigit base c digit) : Written base (text ++ [c]) (n * base + digit)

variable {base bound n : Nat} {text : List Char}

theorem Written.ne_nil (h : Written base text n) : text ≠ [] := by
  cases h with
  | one => exact List.cons_ne_nil _ _
  | place => exact List.append_ne_nil_of_right_ne_nil _ (List.cons_ne_nil _ _)

theorem Written.isDigit_of_mem {c : Char} (h : Written base text n) (hc : c ∈ text) :
    ∃ digit, IsDigit base c digit := by
  induction h with
  | one h =>
      rw [List.mem_singleton.mp hc]
      exact ⟨_, h⟩
  | place _ hd ih =>
      rcases List.mem_append.mp hc with hc | hc
      · exact ih hc
      · rw [List.mem_singleton.mp hc]
        exact ⟨_, hd⟩

-- Characters that are no digit in any base.
theorem not_isDigit_of_mark {c : Char} (hc : c ∈ ['#', 'x', 'X', '+']) (hbase : base ≤ 16)
    (digit : Nat) : ¬ IsDigit base c digit := by
  rintro ⟨hd, h⟩
  have hall : ∀ d : Fin 16, d.val.digitChar ∉ ['#', 'x', 'X', '+'] ∧
      d.val.digitChar.toUpper ∉ ['#', 'x', 'X', '+'] := by decide
  obtain ⟨hlower, hupper⟩ := hall ⟨digit, by omega⟩
  rcases h with rfl | rfl
  · exact hlower hc
  · exact hupper hc

theorem Written.notMem_of_mark {c : Char} (h : Written base text n) (hbase : base ≤ 16)
    (hc : c ∈ ['#', 'x', 'X', '+']) : c ∉ text := by
  intro hm
  obtain ⟨digit, hd⟩ := h.isDigit_of_mem hm
  exact not_isDigit_of_mark hc hbase digit hd

theorem digit?_of_isDigit {c : Char} {digit : Nat} (hbase : base ≤ 16)
    (h : IsDigit base c digit) : digit? base c = some digit := by
  obtain ⟨hd, hc⟩ := h
  have hall : ∀ d : Fin 16, digit? 16 d.val.digitChar = some d.val ∧
      digit? 16 d.val.digitChar.toUpper = some d.val := by decide
  obtain ⟨hlower, hupper⟩ := hall ⟨digit, by omega⟩
  have hsixteen : digit? 16 c = some digit := by
    rcases hc with rfl | rfl
    · exact hlower
    · exact hupper
  unfold digit? at hsixteen ⊢
  rw [Option.filter_eq_some_iff] at hsixteen ⊢
  exact ⟨hsixteen.1, decide_eq_true hd⟩

theorem toNat_le_of_digit? {c : Char} {digit : Nat} (h : digit? base c = some digit) :
    c.toNat ≤ 'f'.toNat := by
  unfold digit? at h
  rw [Option.filter_eq_some_iff] at h
  obtain ⟨hvalue, -⟩ := h
  have hnine : '9' ≤ 'f' := by decide
  have hcapital : 'F' ≤ 'f' := by decide
  split at hvalue
  · rename_i hc
    exact Nat.le_trans hc.2 hnine
  · split at hvalue
    · rename_i hc
      exact hc.2
    · split at hvalue
      · rename_i hc
        exact Nat.le_trans hc.2 hcapital
      · cases hvalue

theorem isDigit_of_digit? {c : Char} {digit : Nat} (hbase : base ≤ 16)
    (h : digit? base c = some digit) : IsDigit base c digit := by
  have hle := toNat_le_of_digit? h
  unfold digit? at h
  rw [Option.filter_eq_some_iff] at h
  obtain ⟨hvalue, hd⟩ := h
  have hlt : digit < base := of_decide_eq_true hd
  have hsixteen : digit ∈ digit? 16 c := by
    unfold digit?
    rw [Option.mem_def, Option.filter_eq_some_iff]
    exact ⟨hvalue, decide_eq_true (by omega)⟩
  have hall : ∀ n : Fin 103, ∀ digit ∈ digit? 16 (Char.ofNat n),
      Char.ofNat n = digit.digitChar ∨ Char.ofNat n = digit.digitChar.toUpper := by decide
  have hf : 'f'.toNat = 102 := rfl
  have hc := hall ⟨c.toNat, by omega⟩ digit
  rw [Char.ofNat_toNat] at hc
  exact ⟨hlt, hc hsixteen⟩

section Reading

-- Reading goes on from a value.
theorem readDigits_append (base bound value : Nat) (text more : List Char) :
    readDigits base bound value (text ++ more) =
      (readDigits base bound value text).bind fun value => readDigits base bound value more := by
  induction text generalizing value with
  | nil => rfl
  | cons c rest ih =>
      simp only [List.cons_append, readDigits]
      split
      · rfl
      · split
        · exact ih _
        · rfl

theorem le_of_readDigits {value : Nat} (h : readDigits base bound value text = .ok n)
    (hvalue : value ≤ bound) : n ≤ bound := by
  induction text generalizing value with
  | nil =>
      cases h
      exact hvalue
  | cons c rest ih =>
      simp only [readDigits] at h
      split at h
      · cases h
      · split at h
        · rename_i hnext
          exact ih h hnext
        · cases h

theorem le_of_read (h : read base bound text = .ok n) : n ≤ bound := by
  unfold read at h
  split at h
  · cases h
  · cases h
  · exact le_of_readDigits h (Nat.zero_le bound)
  · exact le_of_readDigits h (Nat.zero_le bound)

-- Numbers only grow as they are read, so the last one is the one that has to fit.
theorem readDigits_concat (base bound : Nat) (text : List Char) (c : Char) (n : Nat) :
    readDigits base bound 0 (text ++ [c]) = .ok n ↔
      ∃ m digit, readDigits base bound 0 text = .ok m ∧ digit? base c = some digit ∧
        n = m * base + digit ∧ n ≤ bound := by
  rw [readDigits_append]
  cases readDigits base bound 0 text with
  | error fault => simp [Except.bind]
  | ok m =>
      simp only [Except.bind, readDigits]
      cases digit? base c with
      | none => simp
      | some digit =>
          by_cases hle : m * base + digit ≤ bound
          · simp only [if_pos hle, Except.ok.injEq, Option.some.injEq]
            constructor
            · rintro rfl
              exact ⟨m, digit, rfl, rfl, rfl, hle⟩
            · rintro ⟨_, _, rfl, rfl, rfl, -⟩
              rfl
          · simp only [if_neg hle, Except.ok.injEq, Option.some.injEq, reduceCtorEq, false_iff]
            rintro ⟨_, _, rfl, rfl, rfl, hn⟩
            exact hle hn

theorem readDigits_of_written (hbase : base ≤ 16) (h : Written base text n) (hn : n ≤ bound) :
    readDigits base bound 0 text = .ok n := by
  induction h with
  | @one c digit h =>
      exact (readDigits_concat base bound [] c digit).mpr
        ⟨0, digit, rfl, digit?_of_isDigit hbase h, by omega, hn⟩
  | @place text n c digit _ hd ih =>
      have hpos : 0 < base := by
        have := hd.1
        omega
      have hle : n ≤ n * base := Nat.le_mul_of_pos_right n hpos
      exact (readDigits_concat base bound text c _).mpr
        ⟨n, digit, ih (by omega), digit?_of_isDigit hbase hd, rfl, hn⟩

theorem written_of_readDigits (hbase : base ≤ 16) (hne : text ≠ [])
    (h : readDigits base bound 0 text = .ok n) : Written base text n := by
  induction text using List.reverseRecOn generalizing n with
  | nil => exact absurd rfl hne
  | append_singleton text c ih =>
      obtain ⟨m, digit, hread, hdigit, rfl, -⟩ := (readDigits_concat base bound text c n).mp h
      have hd := isDigit_of_digit? hbase hdigit
      by_cases hnil : text = []
      · subst hnil
        cases hread
        rw [Nat.zero_mul, Nat.zero_add]
        exact .one hd
      · exact .place (ih hnil hread) hd

-- No text is written for two numbers.
theorem Written.unique {m : Nat} (h : Written base text n) (ho : Written base text m)
    (hbase : base ≤ 16) : n = m := by
  have hn := readDigits_of_written hbase h (Nat.le_max_left n m)
  have hm := readDigits_of_written hbase ho (Nat.le_max_right n m)
  rw [hn] at hm
  exact Except.ok.inj hm

theorem readDigits_eq_ok_iff (hbase : base ≤ 16) (hne : text ≠ []) :
    readDigits base bound 0 text = .ok n ↔ Written base text n ∧ n ≤ bound := by
  constructor
  · intro h
    exact ⟨written_of_readDigits hbase hne h, le_of_readDigits h (Nat.zero_le bound)⟩
  · rintro ⟨h, hn⟩
    exact readDigits_of_written hbase h hn

theorem read_plus {digits : List Char} (h : digits ≠ []) :
    read base bound ('+' :: digits) = readDigits base bound 0 digits := by
  obtain ⟨c, rest, rfl⟩ := List.exists_cons_of_ne_nil h
  rfl

theorem read_of_ne_plus {c : Char} (h : c ≠ '+') (rest : List Char) :
    read base bound (c :: rest) = readDigits base bound 0 (c :: rest) := by
  unfold read
  split
  · rename_i heq
    cases heq
  · rename_i heq
    exact absurd (List.cons.inj heq).1 h
  · rename_i heq
    exact absurd (List.cons.inj heq).1 h
  · rfl

-- A number as it may be typed, with one plus sign or none.
def Typed (base : Nat) (text : List Char) (n : Nat) : Prop :=
  Written base text n ∨ ∃ digits, text = '+' :: digits ∧ Written base digits n

-- The reader takes one plus sign in front of the digits, and does not know what stood before it.
theorem read_eq_ok_iff (hbase : base ≤ 16) : read base bound text = .ok n ↔
    n ≤ bound ∧ (Written base text n ∨ ∃ digits, text = '+' :: digits ∧ Written base digits n) := by
  have hnil : ¬ Written base [] n := fun h => h.ne_nil rfl
  cases text with
  | nil => simp [read, hnil]
  | cons c rest =>
      by_cases hc : c = '+'
      · subst hc
        have hplain : ¬ Written base ('+' :: rest) n := fun h =>
          h.notMem_of_mark hbase (by decide) List.mem_cons_self
        by_cases hrest : rest = []
        · subst hrest
          simp [read, hplain, hnil]
        · simp [read_plus hrest, readDigits_eq_ok_iff hbase hrest, hplain, and_comm]
      · have hne : c :: rest ≠ [] := List.cons_ne_nil _ _
        simp [read_of_ne_plus hc, readDigits_eq_ok_iff hbase hne, hc, and_comm]

theorem read?_eq_some_iff : read? base bound text = some n ↔ read base bound text = .ok n := by
  unfold read?
  cases read base bound text <;> simp [Except.toOption]

theorem read?_eq_some_iff_typed (hbase : base ≤ 16) :
    read? base bound text = some n ↔ n ≤ bound ∧ Typed base text n :=
  read?_eq_some_iff.trans (read_eq_ok_iff hbase)

end Reading

section Writing

theorem written_toDigits (hbase : 1 < base) (n : Nat) : Written base (Nat.toDigits base n) n := by
  induction n using Nat.strongRecOn with
  | ind n ih =>
      by_cases hlt : n < base
      · rw [Nat.toDigits_of_lt_base hlt]
        exact .one ⟨hlt, .inl rfl⟩
      · have hfront : n / base < n := Nat.div_lt_self (by omega) hbase
        have hplace := (ih (n / base) hfront).place ⟨Nat.mod_lt n (by omega), .inl rfl⟩
        rw [Nat.div_add_mod'] at hplace
        rw [Nat.toDigits_of_base_le hbase (by omega)]
        exact hplace

-- A letter that counts as a digit counts as the same one in upper case.
theorem Written.map_toUpper (h : Written base text n) (hbase : base ≤ 16) :
    Written base (text.map Char.toUpper) n := by
  have hdigit : ∀ {c : Char} {digit : Nat}, IsDigit base c digit →
      IsDigit base c.toUpper digit := by
    rintro c digit ⟨hd, hc⟩
    have hall : ∀ d : Fin 16, d.val.digitChar.toUpper.toUpper = d.val.digitChar.toUpper := by
      decide
    refine ⟨hd, .inr ?_⟩
    rcases hc with rfl | rfl
    · rfl
    · exact hall ⟨digit, by omega⟩
  induction h with
  | one h => exact .one (hdigit h)
  | place _ hd ih =>
      rw [List.map_append]
      exact ih.place (hdigit hd)

theorem written_hexUpper (n : Nat) : Written 16 (hexUpper n) n :=
  (written_toDigits (by decide) n).map_toUpper (by decide)

theorem Written.cons_zero (h : Written base text n) : Written base ('0' :: text) n := by
  have hzero : ∀ {digit : Nat}, digit < base → IsDigit base '0' 0 := fun hd =>
    ⟨Nat.zero_lt_of_lt hd, .inl rfl⟩
  induction h with
  | @one c digit h =>
      have hplace := (Written.one (hzero h.1)).place h
      rwa [Nat.zero_mul, Nat.zero_add] at hplace
  | place _ hd ih => exact ih.place hd

-- Zeros in front do not count.
theorem Written.padLeft (h : Written base text n) (width : Nat) :
    Written base (padLeft width '0' text) n := by
  unfold Numeral.padLeft
  induction width - text.length with
  | zero => exact h
  | succ count ih => exact ih.cons_zero

theorem length_padLeft {width : Nat} {fill : Char} (h : text.length ≤ width) :
    (padLeft width fill text).length = width := by
  rw [Numeral.padLeft, List.length_append, List.length_replicate]
  omega

theorem length_hexUpper_le {width : Nat} (hw : 0 < width) (h : n < 16 ^ width) :
    (hexUpper n).length ≤ width := by
  rw [hexUpper, List.length_map]
  exact (Nat.length_toDigits_le_iff (by decide) hw).mpr h

end Writing

section Shortest

theorem exists_digit_of_mem (hbase : 1 < base) {c : Char} (h : c ∈ Nat.toDigits base n) :
    ∃ digit, digit < base ∧ c = digit.digitChar := by
  induction n using Nat.strongRecOn with
  | ind n ih =>
      by_cases hlt : n < base
      · rw [Nat.toDigits_of_lt_base hlt] at h
        exact ⟨n, hlt, List.mem_singleton.mp h⟩
      · rw [Nat.toDigits_of_base_le hbase (Nat.le_of_not_lt hlt)] at h
        rcases List.mem_append.mp h with h | h
        · exact ih (n / base) (Nat.div_lt_self (by omega) hbase) h
        · exact ⟨n % base, Nat.mod_lt n (by omega), List.mem_singleton.mp h⟩

-- The first digit is a zero in zero alone.
theorem exists_toDigits_cons (hbase : 1 < base) (n : Nat) :
    ∃ digit rest, Nat.toDigits base n = Nat.digitChar digit :: rest ∧ digit < base ∧
      (digit = 0 → n = 0) := by
  induction n using Nat.strongRecOn with
  | ind n ih =>
      by_cases hlt : n < base
      · exact ⟨n, [], Nat.toDigits_of_lt_base hlt, hlt, id⟩
      · have hle : base ≤ n := Nat.le_of_not_lt hlt
        have hfront : n / base < n := Nat.div_lt_self (by omega) hbase
        have hpositive : 0 < n / base := Nat.div_pos hle (by omega)
        obtain ⟨digit, rest, hcons, hd, hzero⟩ := ih (n / base) hfront
        refine ⟨digit, rest ++ [(n % base).digitChar], ?_, hd, fun h => ?_⟩
        · rw [Nat.toDigits_of_base_le hbase hle, hcons, List.cons_append]
        · exact absurd (hzero h) (Nat.ne_of_gt hpositive)

theorem head?_toDigits (hbase : 1 < base) (hsixteen : base ≤ 16) {n : Nat} (h : n ≠ 0) :
    (Nat.toDigits base n).head? ≠ some '0' := by
  have hall : ∀ d : Fin 16, d.val.digitChar = '0' → d.val = 0 := by decide
  obtain ⟨digit, rest, hcons, hd, hzero⟩ := exists_toDigits_cons hbase n
  rw [hcons, List.head?_cons]
  intro hhead
  exact h (hzero (hall ⟨digit, by omega⟩ (Option.some.inj hhead)))

-- If each digit has one character, there is only one way to write a number without a zero in front.
theorem Written.eq_map_toDigits {f : Char → Char} (hbase : 1 < base) (h : Written base text n)
    (hcase : ∀ c ∈ text, ∀ digit, IsDigit base c digit → c = f digit.digitChar)
    (hhead : text.head? ≠ some '0') : text = (Nat.toDigits base n).map f ∧ n ≠ 0 := by
  induction h with
  | @one c digit hd =>
      have hc := hcase c List.mem_cons_self digit hd
      refine ⟨by rw [Nat.toDigits_of_lt_base hd.1, List.map_singleton, ← hc], ?_⟩
      rintro rfl
      rcases hd.2 with rfl | rfl <;> exact hhead rfl
  | @place text m c digit hwritten hd ih =>
      obtain ⟨first, rest, hcons⟩ := List.exists_cons_of_ne_nil hwritten.ne_nil
      rw [hcons] at hhead
      obtain ⟨htext, hm⟩ := ih (fun c hc => hcase c (List.mem_append_left _ hc))
        (by rw [hcons]; exact hhead)
      have hc := hcase c (List.mem_append_right _ List.mem_cons_self) digit hd
      have hle : base ≤ m * base := Nat.le_mul_of_pos_left base (Nat.pos_of_ne_zero hm)
      have hdiv : (m * base + digit) / base = m := by
        rw [Nat.mul_comm, Nat.mul_add_div (by omega), Nat.div_eq_of_lt hd.1, Nat.add_zero]
      have hmod : (m * base + digit) % base = digit := by
        rw [Nat.mul_comm, Nat.mul_add_mod, Nat.mod_eq_of_lt hd.1]
      refine ⟨?_, by omega⟩
      rw [Nat.toDigits_of_base_le hbase (by omega), hdiv, hmod, List.map_append, ← htext,
        List.map_singleton, ← hc]

end Shortest

section Decimal

theorem toList_toString (n : Nat) : (toString n).toList = decimal n := String.toList_ofList

theorem decimal_of_lt {n : Nat} (h : n < 10) : decimal n = [n.digitChar] :=
  Nat.toDigits_of_lt_base h

theorem written_decimal (n : Nat) : Written 10 (decimal n) n :=
  written_toDigits (by decide) n

theorem written_toString (n : Nat) : Written 10 (toString n).toList n := by
  rw [toList_toString]
  exact written_decimal n

-- Ten digits need no letters, which might come in two cases.
theorem IsDigit.eq_digitChar {c : Char} {digit : Nat} (h : IsDigit 10 c digit) :
    c = digit.digitChar := by
  obtain ⟨hd, hc⟩ := h
  have hall : ∀ d : Fin 10, d.val.digitChar.toUpper = d.val.digitChar := by decide
  rwa [hall ⟨digit, hd⟩, or_self] at hc

theorem exists_digit {n : Nat} {c : Char} (h : c ∈ decimal n) :
    ∃ digit, digit < 10 ∧ c = digit.digitChar :=
  exists_digit_of_mem (by decide) h

theorem exists_decimal_cons (n : Nat) :
    ∃ digit rest, decimal n = Nat.digitChar digit :: rest ∧ digit < 10 ∧ (digit = 0 → n = 0) :=
  exists_toDigits_cons (by decide) n

theorem head?_decimal {n : Nat} (h : n ≠ 0) : (decimal n).head? ≠ some '0' :=
  head?_toDigits (by decide) (by decide) h

theorem Written.eq_decimal (h : Written 10 text n) (hhead : text.head? ≠ some '0') :
    text = decimal n ∧ n ≠ 0 := by
  have hdigits := h.eq_map_toDigits (f := id) (by decide) (fun _ _ _ hd => hd.eq_digitChar) hhead
  rwa [List.map_id] at hdigits

theorem read_decimal {bound : Nat} (n : Nat) (h : n ≤ bound) :
    read 10 bound (decimal n) = .ok n :=
  (read_eq_ok_iff (by decide)).mpr ⟨h, .inl (written_decimal n)⟩

end Decimal

end BoardLink.Text.Numeral

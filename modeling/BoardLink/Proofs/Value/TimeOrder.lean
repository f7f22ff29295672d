import BoardLink.Proofs.Text.Numerals
import BoardLink.Proofs.Value.Timestamp
import Mathlib.Data.List.Lex

-- Texts of times in the order of the times. Every field has the same width in all texts, so the
-- first field in which two times differ is where their texts do.
namespace BoardLink.Timestamp

open Text

-- The fields in the order of the text, which has the greatest unit first.
def numbers (time : Timestamp) : List Nat :=
  [time.year.toNat, time.month.toNat, time.day.toNat, time.hour.toNat, time.minute.toNat,
    time.second.toNat, time.fraction.toNat]

theorem digitChar_lt {n m : Nat} (h : n < m) (hm : m < 10) : n.digitChar < m.digitChar := by
  have hall : ∀ m : Fin 10, ∀ n : Fin m, n.val.digitChar < m.val.digitChar := by decide
  exact hall ⟨m, hm⟩ ⟨n, h⟩

theorem append_lt_append {front other rest more : List Char} (hlen : front.length = other.length)
    (h : front < other) : front ++ rest < other ++ more := by
  induction front generalizing other with
  | nil =>
      rw [List.eq_nil_of_length_eq_zero hlen.symm] at h
      exact absurd h (List.lt_irrefl _)
  | cons c front ih =>
      obtain _ | ⟨d, other⟩ := other
      · cases hlen
      · rw [List.cons_lt_cons_iff] at h
        rw [List.cons_append, List.cons_append, List.cons_lt_cons_iff]
        exact h.imp_right (And.imp_right (ih (Nat.succ.inj hlen)))

theorem digits_one {n : Nat} (h : n < 10) : digits 1 n = [n.digitChar] := by
  simp [digits, Numeral.padLeft, Numeral.decimal_of_lt h]

theorem digits_div (width n : Nat) :
    digits (width + 2) n = digits (width + 1) (n / 10) ++ [(n % 10).digitChar] := by
  have hsplit := digits_succ (Nat.succ_pos width) (n := n / 10) ⟨n % 10, Nat.mod_lt n (by decide)⟩
  have hsum : n / 10 * 10 + n % 10 = n := by omega
  rwa [hsum] at hsplit

theorem length_digits {width n : Nat} (h : n < 10 ^ (width + 1)) :
    (digits (width + 1) n).length = width + 1 := by
  induction width generalizing n with
  | zero => rw [digits_one h, List.length_singleton]
  | succ width ih => rw [digits_div, List.length_append, ih (by omega), List.length_singleton]

theorem digits_lt {width n m : Nat} (h : n < m) (hm : m < 10 ^ (width + 1)) :
    digits (width + 1) n < digits (width + 1) m := by
  induction width generalizing n m with
  | zero =>
      rw [digits_one (Nat.lt_trans h hm), digits_one hm]
      exact List.cons_lt_cons_iff.mpr (.inl (digitChar_lt h hm))
  | succ width ih =>
      rw [digits_div, digits_div]
      by_cases hfront : n / 10 < m / 10
      · have hlen : (digits (width + 1) (n / 10)).length = (digits (width + 1) (m / 10)).length := by
          rw [length_digits (by omega), length_digits (by omega)]
        exact append_lt_append hlen (ih hfront (by omega))
      · have hsame : n / 10 = m / 10 := by omega
        rw [hsame]
        exact List.append_left_lt (List.cons_lt_cons_iff.mpr
          (.inl (digitChar_lt (by omega) (by omega))))

variable {width n m : Nat} {numbers others : List Nat} {rest more : List Char}

-- Behind equal numbers, what follows decides.
theorem field_lt (hn : n < 10 ^ (width + 1)) (hm : m < 10 ^ (width + 1))
    (h : n :: numbers < m :: others) (hrest : numbers < others → rest < more) :
    digits (width + 1) n ++ rest < digits (width + 1) m ++ more := by
  rcases List.cons_lt_cons_iff.mp h with hlt | ⟨rfl, hlt⟩
  · have hlen : (digits (width + 1) n).length = (digits (width + 1) m).length := by
      rw [length_digits hn, length_digits hm]
    exact append_lt_append hlen (digits_lt hlt hm)
  · exact List.append_left_lt (hrest hlt)

theorem mark_lt (mark : Char) (h : rest < more) : mark :: rest < mark :: more :=
  List.cons_lt_cons_iff.mpr (.inr ⟨rfl, h⟩)

-- The bounds of a time's fields as numbers.
theorem inRange_iff {time : Timestamp} : time.InRange ↔
    time.year.toNat < 10000 ∧ time.month.toNat < 100 ∧ time.day.toNat < 100 ∧
      time.hour.toNat < 100 ∧ time.minute.toNat < 100 ∧ time.second.toNat < 100 ∧
      time.fraction.toNat < 100 :=
  Iff.rfl

theorem characters_of_inRange {time : Timestamp} (h : time.InRange) :
    time.characters = digits 4 time.year.toNat ++ '-' :: (digits 2 time.month.toNat ++
      '-' :: (digits 2 time.day.toNat ++ ' ' :: (digits 2 time.hour.toNat ++
        ':' :: (digits 2 time.minute.toNat ++ ':' :: (digits 2 time.second.toNat ++
          '.' :: (digits 2 time.fraction.toNat ++ [])))))) := by
  obtain ⟨hyear, hmonth, hday, hhour, hminute, hsecond, hfraction⟩ := inRange_iff.mp h
  simp only [characters, List.append_assoc, List.cons_append, List.append_nil]
  rw [Nat.mod_eq_of_lt hyear, Nat.mod_eq_of_lt hmonth, Nat.mod_eq_of_lt hday,
    Nat.mod_eq_of_lt hhour, Nat.mod_eq_of_lt hminute, Nat.mod_eq_of_lt hsecond,
    Nat.mod_eq_of_lt hfraction]

theorem text_lt_of_numbers_lt {time other : Timestamp} (ht : time.InRange) (ho : other.InRange)
    (h : time.numbers < other.numbers) : time.text < other.text := by
  show time.text.toList < other.text.toList
  rw [text, text, String.toList_ofList, String.toList_ofList, characters_of_inRange ht,
    characters_of_inRange ho]
  obtain ⟨hyear, hmonth, hday, hhour, hminute, hsecond, hfraction⟩ := inRange_iff.mp ht
  obtain ⟨hyear', hmonth', hday', hhour', hminute', hsecond', hfraction'⟩ := inRange_iff.mp ho
  refine field_lt hyear hyear' h fun h => mark_lt _ ?_
  refine field_lt hmonth hmonth' h fun h => mark_lt _ ?_
  refine field_lt hday hday' h fun h => mark_lt _ ?_
  refine field_lt hhour hhour' h fun h => mark_lt _ ?_
  refine field_lt hminute hminute' h fun h => mark_lt _ ?_
  refine field_lt hsecond hsecond' h fun h => mark_lt _ ?_
  exact field_lt hfraction hfraction' h fun h => absurd h (List.lt_irrefl [])

theorem eq_of_numbers_eq {time other : Timestamp} (h : time.numbers = other.numbers) :
    time = other := by
  obtain ⟨year, month, day, hour, minute, second, fraction⟩ := time
  simp only [numbers, List.cons.injEq, UInt16.toNat_inj, UInt8.toNat_inj] at h
  obtain ⟨rfl, rfl, rfl, rfl, rfl, rfl, rfl, -⟩ := h
  rfl

theorem text_le_of_numbers {time other : Timestamp} (ht : time.InRange) (ho : other.InRange)
    (h : ¬ other.numbers < time.numbers) : time.text ≤ other.text := by
  rcases lt_trichotomy time.numbers other.numbers with hlt | heq | hlt
  · exact String.lt_asymm (text_lt_of_numbers_lt ht ho hlt)
  · obtain rfl := eq_of_numbers_eq heq
    exact String.le_refl _
  · exact absurd hlt h

end BoardLink.Timestamp

import BoardLink.Proofs.Text.Numerals
import BoardLink.Text.Characters

-- Texts that differ in nothing but the case of letters, and how they are told from numbers.
namespace BoardLink.Text

-- Each letter of ASCII counts as the one in the other case. Characters beyond ASCII have no case.
def EqualButCase (a b : String) : Prop := a.toList.map Char.toLower = b.toList.map Char.toLower

variable {a b : String}

theorem EqualButCase.symm (h : EqualButCase a b) : EqualButCase b a := Eq.symm h

theorem EqualButCase.head? (h : EqualButCase a b) :
    a.toList.head?.map Char.toLower = b.toList.head?.map Char.toLower := by
  rw [← List.head?_map, ← List.head?_map]
  exact congrArg List.head? h

theorem asciiLower_eq (c : Char) : asciiLower c = c.toLower := by
  by_cases h : 'A' ≤ c ∧ c ≤ 'Z'
  · have hall : ∀ n : Fin 91, asciiLower (Char.ofNat n) = (Char.ofNat n).toLower := by decide
    have hle : c.toNat ≤ 'Z'.toNat := h.2
    have hz : 'Z'.toNat = 90 := rfl
    have hc := hall ⟨c.toNat, by omega⟩
    rwa [Char.ofNat_toNat] at hc
  · have hc : ¬ (c.val ≥ 'A'.val ∧ c.val ≤ 'Z'.val) := h
    have hsame : c.toLower = c := dif_neg hc
    rw [asciiLower, if_neg h, hsame]

theorem sameButCase_iff : sameButCase a b = true ↔ EqualButCase a b := by
  have hlower : asciiLower = Char.toLower := funext asciiLower_eq
  rw [sameButCase, beq_iff_eq, hlower]
  rfl

namespace Numeral

variable {text : List Char} {n : Nat}

-- What a number may begin with. None of it has another case.
def beginnings : List Char := ['+', '0', '1', '2', '3', '4', '5', '6', '7', '8', '9']

theorem Written.begins (h : Written 10 text n) : ∃ c rest, text = c :: rest ∧ c ∈ beginnings := by
  have hall : ∀ d : Fin 10, d.val.digitChar ∈ beginnings := by decide
  obtain ⟨c, rest, rfl⟩ := List.exists_cons_of_ne_nil h.ne_nil
  obtain ⟨digit, hdigit⟩ := h.isDigit_of_mem List.mem_cons_self
  refine ⟨c, rest, rfl, ?_⟩
  rw [hdigit.eq_digitChar]
  exact hall ⟨digit, hdigit.1⟩

theorem Typed.begins (h : Typed 10 text n) : ∃ c rest, text = c :: rest ∧ c ∈ beginnings := by
  rcases h with h | ⟨digits, rfl, -⟩
  · exact h.begins
  · exact ⟨'+', digits, rfl, by decide⟩

theorem not_typed_of_name {text name : String} (h : EqualButCase text name)
    (hname : ∀ c ∈ name.toList.head?, c.toLower ∉ beginnings) : ¬ Typed 10 text.toList n := by
  intro htyped
  obtain ⟨c, rest, htext, hc⟩ := htyped.begins
  have hlower : ∀ c ∈ beginnings, c.toLower = c := by simp [beginnings]
  have hhead := h.head?
  rw [htext, List.head?_cons, Option.map_some, hlower c hc] at hhead
  obtain ⟨first, hfirst, rfl⟩ := Option.map_eq_some_iff.mp hhead.symm
  exact hname first hfirst hc

end Numeral

end BoardLink.Text

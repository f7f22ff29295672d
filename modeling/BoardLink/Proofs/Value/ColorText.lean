import BoardLink.Proofs.Text.Numerals
import BoardLink.Value.Color

-- The texts that are taken for colours, and what is refused.
namespace BoardLink.RgbColor

open Text Numeral

-- The notations of a number that colours are documented to have.
inductive Documented : List Char → Nat → Prop where
  | hash {digits : List Char} {n : Nat} (hlen : digits.length = 6) (h : Written 16 digits n) :
      Documented ('#' :: digits) n
  | hex {x : Char} {digits : List Char} {n : Nat} (hx : x = 'x' ∨ x = 'X')
      (h : Written 16 digits n) : Documented ('0' :: x :: digits) n
  | decimal {digits : List Char} {n : Nat} (h : Written 10 digits n) : Documented digits n
  | plus {digits : List Char} {n : Nat} (h : Written 10 digits n) : Documented ('+' :: digits) n

-- The notations that come with the reader of the digits: it takes a sign of its own, which counts
-- as one of the six characters.
inductive Signed : List Char → Nat → Prop where
  | hash {digits : List Char} {n : Nat} (hlen : digits.length = 5) (h : Written 16 digits n) :
      Signed ('#' :: '+' :: digits) n
  | hex {x : Char} {digits : List Char} {n : Nat} (hx : x = 'x' ∨ x = 'X')
      (h : Written 16 digits n) : Signed ('0' :: x :: '+' :: digits) n

variable {text : List Char} {n m : Nat}

theorem Signed.not_documented (h : Signed text n) : ¬ Documented text m := by
  have hsixteen : ∀ {digits : List Char} {k : Nat}, '+' ∈ digits → ¬ Written 16 digits k :=
    fun hm hw => hw.notMem_of_mark (by decide) (by decide) hm
  intro hd
  cases h with
  | hash hlen h =>
      cases hd with
      | hash _ hw => exact hsixteen List.mem_cons_self hw
      | decimal hw => exact hw.notMem_of_mark (by decide) (by decide) List.mem_cons_self
  | hex hx h =>
      cases hd with
      | hex _ hw => exact hsixteen List.mem_cons_self hw
      | decimal hw =>
          exact hw.notMem_of_mark (by decide) (by decide : '+' ∈ ['#', 'x', 'X', '+']) (by simp)

section Reading

theorem number?_of_written (h : Written 10 text n) :
    number? text = read? 10 0xffffffff text := by
  have hmark : ∀ c ∈ ['#', 'x', 'X', '+'], c ∉ text := fun c hc =>
    h.notMem_of_mark (by decide) hc
  unfold number?
  split
  · exact absurd List.mem_cons_self (hmark '#' (by decide))
  · exact absurd (by simp) (hmark 'x' (by decide))
  · exact absurd (by simp) (hmark 'X' (by decide))
  · rfl

theorem number?_of_documented (h : Documented text n) (hn : n ≤ 0xffffffff) :
    number? text = some n := by
  cases h with
  | hash hlen h =>
      have hread := (read_eq_ok_iff (by decide)).mpr ⟨hn, .inl h⟩
      rw [number?, if_pos hlen, read?_eq_some_iff, hread]
  | hex hx h =>
      have hread := (read_eq_ok_iff (by decide)).mpr ⟨hn, .inl h⟩
      rcases hx with rfl | rfl <;> rw [number?, read?_eq_some_iff, hread]
  | decimal h =>
      have hread := (read_eq_ok_iff (by decide)).mpr ⟨hn, .inl h⟩
      rw [number?_of_written h, read?_eq_some_iff, hread]
  | plus h =>
      have hread := (read_eq_ok_iff (by decide)).mpr ⟨hn, .inr ⟨_, rfl, h⟩⟩
      exact read?_eq_some_iff.mpr hread

theorem number?_of_signed (h : Signed text n) (hn : n ≤ 0xffffffff) : number? text = some n := by
  cases h with
  | hash hlen h =>
      have hread := (read_eq_ok_iff (by decide)).mpr ⟨hn, .inr ⟨_, rfl, h⟩⟩
      have hsix : ∀ digits : List Char, digits.length = 5 → ('+' :: digits).length = 6 :=
        fun _ => congrArg Nat.succ
      rw [number?, if_pos (hsix _ hlen), read?_eq_some_iff, hread]
  | hex hx h =>
      have hread := (read_eq_ok_iff (by decide)).mpr ⟨hn, .inr ⟨_, rfl, h⟩⟩
      rcases hx with rfl | rfl <;> rw [number?, read?_eq_some_iff, hread]

theorem written_or_of_read? {base : Nat} (hbase : base ≤ 16)
    (h : read? base 0xffffffff text = some n) : n ≤ 0xffffffff ∧
      (Written base text n ∨ ∃ digits, text = '+' :: digits ∧ Written base digits n) :=
  (read_eq_ok_iff hbase).mp (read?_eq_some_iff.mp h)

theorem notation_of_number? (h : number? text = some n) :
    n ≤ 0xffffffff ∧ (Documented text n ∨ Signed text n) := by
  unfold number? at h
  split at h
  · split at h
    · rename_i hlen
      obtain ⟨hn, hw | ⟨digits, rfl, hw⟩⟩ := written_or_of_read? (by decide) h
      · exact ⟨hn, .inl (.hash hlen hw)⟩
      · exact ⟨hn, .inr (.hash (Nat.succ.inj hlen) hw)⟩
    · cases h
  · obtain ⟨hn, hw | ⟨digits, rfl, hw⟩⟩ := written_or_of_read? (by decide) h
    · exact ⟨hn, .inl (.hex (.inl rfl) hw)⟩
    · exact ⟨hn, .inr (.hex (.inl rfl) hw)⟩
  · obtain ⟨hn, hw | ⟨digits, rfl, hw⟩⟩ := written_or_of_read? (by decide) h
    · exact ⟨hn, .inl (.hex (.inr rfl) hw)⟩
    · exact ⟨hn, .inr (.hex (.inr rfl) hw)⟩
  · obtain ⟨hn, hw | ⟨digits, rfl, hw⟩⟩ := written_or_of_read? (by decide) h
    · exact ⟨hn, .inl (.decimal hw)⟩
    · exact ⟨hn, .inl (.plus hw)⟩

theorem number?_eq_some_iff :
    number? text = some n ↔ n ≤ 0xffffffff ∧ (Documented text n ∨ Signed text n) := by
  refine ⟨notation_of_number?, ?_⟩
  rintro ⟨hn, h | h⟩
  · exact number?_of_documented h hn
  · exact number?_of_signed h hn

end Reading

theorem pack_le (color : RgbColor) : color.pack ≤ 0xffffff := by
  have hred := color.red.toNat_lt
  have hgreen := color.green.toNat_lt
  have hblue := color.blue.toNat_lt
  unfold pack
  omega

theorem pack_unpack (h : n ≤ 0xffffff) : (unpack n).pack = n := by
  simp only [pack, unpack, UInt8.toNat_ofNat']
  omega

theorem ofText_eq_ok_iff {s : String} {color : RgbColor} :
    ofText s = .ok color ↔ number? (trim s.toList) = some color.pack := by
  have hpack := color.pack_le
  unfold ofText
  cases number? (trim s.toList) with
  | none => simp
  | some rgb =>
      by_cases hrgb : rgb ≤ 0xffffff
      · simp only [if_pos hrgb, Except.ok.injEq, Option.some.injEq]
        constructor
        · rintro rfl
          exact (pack_unpack hrgb).symm
        · rintro rfl
          exact unpack_pack color
      · have hne : rgb ≠ color.pack := by omega
        simp [hrgb, hne]

-- A text is a colour if and only if it has a notation of a colour, blanks around it not counted.
-- The notations are the documented ones and those with a sign behind their mark. A number that has
-- too many bits for a colour is refused by its value, and all other texts as zero.
theorem colors_read_from_notations (s : String) :
    (∀ color : RgbColor, ofText s = .ok color ↔
      Documented (trim s.toList) color.pack ∨ Signed (trim s.toList) color.pack) ∧
      (∀ n m, Signed (trim s.toList) n → ¬ Documented (trim s.toList) m) ∧
      (∀ n, 0xffffff < n → n ≤ 0xffffffff →
        Documented (trim s.toList) n ∨ Signed (trim s.toList) n →
        ofText s = .error (.invalidValue .rgb (UInt32.ofNat n))) ∧
      ((∀ n, n ≤ 0xffffffff → ¬ Documented (trim s.toList) n ∧ ¬ Signed (trim s.toList) n) →
        ofText s = .error (.invalidValue .rgb 0)) := by
  refine ⟨?_, fun n m h => h.not_documented, ?_, ?_⟩
  · intro color
    have hpack := color.pack_le
    have hn : color.pack ≤ 0xffffffff := by omega
    rw [ofText_eq_ok_iff, number?_eq_some_iff]
    exact and_iff_right hn
  · intro n hlarge hn h
    have hnumber := number?_eq_some_iff.mpr ⟨hn, h⟩
    have hnot : ¬ n ≤ 0xffffff := by omega
    simp only [ofText, hnumber, if_neg hnot]
  · intro h
    have hnone : number? (trim s.toList) = none := by
      cases hnumber : number? (trim s.toList) with
      | none => rfl
      | some n =>
          obtain ⟨hn, hd | hs⟩ := notation_of_number? hnumber
          · exact absurd hd (h n hn).1
          · exact absurd hs (h n hn).2
    simp only [ofText, hnone]

-- Five digits and a sign are taken for six digits.
theorem five_digits_and_a_sign_are_a_color :
    ofText "#+12345" = .ok ⟨0x01, 0x23, 0x45⟩ ∧
      ∀ n, ¬ Documented (trim "#+12345".toList) n := by
  have hread : ofText "#+12345" = .ok ⟨0x01, 0x23, 0x45⟩ := by decide
  have htrim : trim "#+12345".toList = '#' :: '+' :: "12345".toList := by decide
  have hdigits : readDigits 16 0xffffff 0 "12345".toList = .ok 0x12345 := by decide
  have hwritten := written_of_readDigits (by decide) (by decide) hdigits
  have hsigned : Signed (trim "#+12345".toList) 0x12345 := by
    rw [htrim]
    exact .hash rfl hwritten
  exact ⟨hread, fun n => hsigned.not_documented⟩

end BoardLink.RgbColor

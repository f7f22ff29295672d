import BoardLink.Proofs.Text.Ascii
import Mathlib.Tactic.IntervalCases

-- Every text is read from its bytes as it was written.
namespace BoardLink.Text.Utf8

section Bytes

variable {byte : UInt8} {pending : Pending} {rest : Bytes}

theorem parts_lead (h : lead? byte = some pending) (hm : pending.more ≠ 0) :
    parts none (byte :: rest) = parts (some pending) rest := by
  simp only [parts, step, start, h, if_neg hm, List.nil_append]

theorem parts_more (hl : pending.low ≤ byte) (hh : byte ≤ pending.high) (hm : 1 < pending.more) :
    parts (some pending) (byte :: rest) =
      parts (some ⟨pending.more - 1, 0x80, 0xbf, pending.bits * 64 + (byte.toNat - 0x80)⟩)
        rest := by
  simp only [parts, step, if_pos (And.intro hl hh), if_neg (Nat.not_le.mpr hm), List.nil_append]

theorem parts_last (hl : pending.low ≤ byte) (hh : byte ≤ pending.high) (hm : pending.more ≤ 1) :
    parts (some pending) (byte :: rest) =
      some (Char.ofNat (pending.bits * 64 + (byte.toNat - 0x80))) :: parts none rest := by
  simp only [parts, step, if_pos (And.intro hl hh), if_pos hm, List.singleton_append]

end Bytes

-- A byte that continues a character, with six bits of its number.
def tail (n : Nat) : UInt8 := UInt8.ofNat (n % 64 + 128)

theorem toNat_tail (n : Nat) : (tail n).toNat = n % 64 + 128 := by
  rw [tail, UInt8.toNat_ofNat']
  omega

theorem le_tail {n : Nat} {low : UInt8} (h : low.toNat ≤ n % 64 + 128) : low ≤ tail n := by
  rwa [UInt8.le_iff_toNat_le, toNat_tail]

theorem tail_le {n : Nat} {high : UInt8} (h : n % 64 + 128 ≤ high.toNat) : tail n ≤ high := by
  rwa [UInt8.le_iff_toNat_le, toNat_tail]

-- Behind the first two bytes of a character nothing is shut out.
theorem tail_bounds (n : Nat) : 0x80 ≤ tail n ∧ tail n ≤ 0xbf :=
  ⟨le_tail (Nat.le_add_left ..), tail_le (by show _ ≤ 191; omega)⟩

theorem lead?_two {n : Nat} (hl : 2 ≤ n) (hh : n < 32) :
    lead? (UInt8.ofNat (n + 192)) = some ⟨1, 0x80, 0xbf, n⟩ := by
  interval_cases n <;> rfl

-- The two gaps are the overlong forms and the surrogates.
theorem lead?_three {n : Nat} (h : n < 16) :
    lead? (UInt8.ofNat (n + 224)) =
      some ⟨2, if n = 0 then 0xa0 else 0x80, if n = 13 then 0x9f else 0xbf, n⟩ := by
  interval_cases n <;> rfl

theorem lead?_four {n : Nat} (h : n < 5) :
    lead? (UInt8.ofNat (n + 240)) =
      some ⟨3, if n = 0 then 0x90 else 0x80, if n = 4 then 0x8f else 0xbf, n⟩ := by
  interval_cases n <;> rfl

section Characters

variable {n : Nat} {rest : Bytes}

theorem parts_two (hl : 128 ≤ n) (hh : n < 2048) :
    parts none (UInt8.ofNat (n / 64 + 192) :: tail n :: rest) =
      some (Char.ofNat n) :: parts none rest := by
  have hbits : n / 64 * 64 + ((tail n).toNat - 0x80) = n := by
    rw [toNat_tail]
    omega
  obtain ⟨htl, hth⟩ := tail_bounds n
  rw [parts_lead (lead?_two (by omega) (by omega)) Nat.one_ne_zero,
    parts_last htl hth (Nat.le_refl 1), hbits]

theorem parts_three (hl : 2048 ≤ n) (hh : n < 65536) (hs : n < 55296 ∨ 57343 < n) :
    parts none (UInt8.ofNat (n / 4096 + 224) :: tail (n / 64) :: tail n :: rest) =
      some (Char.ofNat n) :: parts none rest := by
  have hbits : (n / 4096 * 64 + ((tail (n / 64)).toNat - 0x80)) * 64 + ((tail n).toNat - 0x80) =
      n := by
    rw [toNat_tail, toNat_tail]
    omega
  have hfirst : (if n / 4096 = 0 then 0xa0 else 0x80) ≤ tail (n / 64) := by
    split
    · exact le_tail (by show 160 ≤ _; omega)
    · exact (tail_bounds _).1
  have hsecond : tail (n / 64) ≤ (if n / 4096 = 13 then 0x9f else 0xbf) := by
    split
    · exact tail_le (by show _ ≤ 159; omega)
    · exact (tail_bounds _).2
  obtain ⟨htl, hth⟩ := tail_bounds n
  rw [parts_lead (lead?_three (by omega)) (Nat.succ_ne_zero 1),
    parts_more hfirst hsecond (Nat.lt_succ_self 1), parts_last htl hth (Nat.le_refl 1), hbits]

theorem parts_four (hl : 65536 ≤ n) (hh : n < 1114112) :
    parts none (UInt8.ofNat (n / 262144 + 240) :: tail (n / 4096) :: tail (n / 64) :: tail n ::
        rest) =
      some (Char.ofNat n) :: parts none rest := by
  have hbits : ((n / 262144 * 64 + ((tail (n / 4096)).toNat - 0x80)) * 64 +
      ((tail (n / 64)).toNat - 0x80)) * 64 + ((tail n).toNat - 0x80) = n := by
    rw [toNat_tail, toNat_tail, toNat_tail]
    omega
  have hfirst : (if n / 262144 = 0 then 0x90 else 0x80) ≤ tail (n / 4096) := by
    split
    · exact le_tail (by show 144 ≤ _; omega)
    · exact (tail_bounds _).1
  have hsecond : tail (n / 4096) ≤ (if n / 262144 = 4 then 0x8f else 0xbf) := by
    split
    · exact tail_le (by show _ ≤ 143; omega)
    · exact (tail_bounds _).2
  obtain ⟨hml, hmh⟩ := tail_bounds (n / 64)
  obtain ⟨htl, hth⟩ := tail_bounds n
  rw [parts_lead (lead?_four (by omega)) (Nat.succ_ne_zero 2),
    parts_more hfirst hsecond (by decide : 1 < 3), parts_more hml hmh (by decide : 1 < 2),
    parts_last htl hth (Nat.le_refl 1), hbits]

end Characters

-- The bytes of a character are read as this character and leave nothing pending.
theorem parts_encodeChar (c : Char) (rest : Bytes) :
    parts none (String.utf8EncodeChar c ++ rest) = some c :: parts none rest := by
  have hmax := toNat_lt_max c
  have hchar : Char.ofNat c.val.toNat = c := Char.ofNat_toNat c
  have hvalid : c.val.toNat < 55296 ∨ 57343 < c.val.toNat := by
    rcases c.valid with h | h
    · exact .inl h
    · exact .inr h.1
  simp only [String.utf8EncodeChar]
  generalize c.val.toNat = n at hmax hchar hvalid ⊢
  split
  · have hbyte : (UInt8.ofNat n).toNat = n := by
      rw [UInt8.toNat_ofNat']
      omega
    have hplain : plain (UInt8.ofNat n) = c := by rw [plain, hbyte, hchar]
    have hstart := start_of_toNat_lt (by omega : (UInt8.ofNat n).toNat < 128)
    simp only [List.singleton_append, parts, step, hstart, hplain]
  · split
    · have hlead : n / 64 % 32 = n / 64 := Nat.mod_eq_of_lt (by omega)
      rw [hlead, ← hchar]
      exact parts_two (by omega) (by omega)
    · split
      · have hlead : n / 4096 % 16 = n / 4096 := Nat.mod_eq_of_lt (by omega)
        rw [hlead, ← hchar]
        exact parts_three (by omega) (by omega) hvalid
      · have hlead : n / 262144 % 8 = n / 262144 := Nat.mod_eq_of_lt (by omega)
        rw [hlead, ← hchar]
        exact parts_four (by omega) hmax

theorem parts_encode (text : List Char) : parts none (encode text) = text.map some := by
  induction text with
  | nil => rfl
  | cons c rest ih =>
      have happend : encode (c :: rest) = String.utf8EncodeChar c ++ encode rest := rfl
      rw [happend, parts_encodeChar, ih, List.map_cons]

theorem decode?_encode (text : List Char) : decode? (encode text) = some text := by
  rw [decode?, parts_encode, mapM_map_some]

end BoardLink.Text.Utf8

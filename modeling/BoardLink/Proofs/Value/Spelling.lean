import BoardLink.Proofs.Text.Ascii
import BoardLink.Value.Timestamp

-- The texts that are timestamps, and how they come back from the board.
namespace BoardLink.Timestamp

open Text

-- A field of two decimal digits.
structure Pair where
  tens : Fin 10
  ones : Fin 10

def digitByte (digit : Fin 10) : UInt8 := UInt8.ofNat (48 + digit)

namespace Pair

def value (pair : Pair) : Nat := pair.tens * 10 + pair.ones

def bytes (pair : Pair) : Bytes := [digitByte pair.tens, digitByte pair.ones]

theorem value_lt (pair : Pair) : pair.value < 100 := by
  have ht := pair.tens.isLt
  have ho := pair.ones.isLt
  simp only [value]
  omega

end Pair

-- `YYYY-MM-DD HH:MM:SS.ss`, where the year is two fields.
structure Fields where
  century : Pair
  year : Pair
  month : Pair
  day : Pair
  hour : Pair
  minute : Pair
  second : Pair
  fraction : Pair

namespace Fields

def bytes (fields : Fields) : Bytes :=
  fields.century.bytes ++ fields.year.bytes ++ 45 :: fields.month.bytes ++
    45 :: fields.day.bytes ++ 32 :: fields.hour.bytes ++ 58 :: fields.minute.bytes ++
    58 :: fields.second.bytes ++ 46 :: fields.fraction.bytes

def text (fields : Fields) : String := String.ofList (fields.bytes.map Utf8.plain)

def time (fields : Fields) : Timestamp where
  year := UInt16.ofNat (fields.century.value * 100 + fields.year.value)
  month := UInt8.ofNat fields.month.value
  day := UInt8.ofNat fields.day.value
  hour := UInt8.ofNat fields.hour.value
  minute := UInt8.ofNat fields.minute.value
  second := UInt8.ofNat fields.second.value
  fraction := UInt8.ofNat fields.fraction.value

end Fields

theorem exists_digitByte {byte : UInt8} (h : isDigit byte = true) :
    ∃ digit : Fin 10, byte = digitByte digit := by
  simp only [isDigit, Bool.and_eq_true, decide_eq_true_eq] at h
  have hl : 48 ≤ byte.toNat := h.1
  have hu : byte.toNat ≤ 57 := h.2
  refine ⟨⟨byte.toNat - 48, by omega⟩, ?_⟩
  apply UInt8.toNat_inj.mp
  have hval : 48 + (byte.toNat - 48) = byte.toNat := by omega
  rw [digitByte, UInt8.toNat_ofNat', hval]
  omega

theorem exists_pair {a b : UInt8} (ha : isDigit a = true) (hb : isDigit b = true) :
    ∃ pair : Pair, pair.bytes = [a, b] := by
  obtain ⟨tens, rfl⟩ := exists_digitByte ha
  obtain ⟨ones, rfl⟩ := exists_digitByte hb
  exact ⟨⟨tens, ones⟩, rfl⟩

theorem toNat_digitByte (digit : Fin 10) : (digitByte digit).toNat = 48 + digit := by
  have hd := digit.isLt
  rw [digitByte, UInt8.toNat_ofNat']
  omega

theorem plain_digitByte (digit : Fin 10) : Utf8.plain (digitByte digit) = Nat.digitChar digit := by
  revert digit
  decide

-- Reading the digits one by one gives the same numbers.
theorem ofDigits_bytes (fields : Fields) : ofDigits fields.bytes = fields.time := by
  have hyear : numberAt fields.bytes 0 4 = fields.century.value * 100 + fields.year.value := by
    simp [numberAt, Fields.bytes, Pair.bytes, Pair.value, toNat_digitByte]
    omega
  rw [ofDigits, hyear]
  simp [numberAt, Fields.bytes, Fields.time, Pair.bytes, Pair.value, toNat_digitByte]

-- The shape admits no other bytes.
theorem exists_fields_of_shape {bytes : Bytes} (hlen : bytes.length = textLength)
    (hm : (shape.zip bytes).all (fun place => place.1.marksOk place.2) = true)
    (hd : (shape.zip bytes).all (fun place => place.1.digitsOk place.2) = true) :
    ∃ fields : Fields, bytes = fields.bytes := by
  match bytes, hlen with
  | [c₁, c₂, y₁, y₂, _, m₁, m₂, _, d₁, d₂, _, h₁, h₂, _, i₁, i₂, _, s₁, s₂, _, f₁, f₂], _ =>
      simp only [shape, List.cons_append, List.nil_append, List.zip_cons_cons, List.zip_nil_right,
        List.all_cons, List.all_nil, Slot.marksOk, Slot.digitsOk, Bool.and_true, Bool.true_and,
        Bool.and_eq_true, beq_iff_eq] at hm hd
      obtain ⟨rfl, rfl, rfl, rfl, rfl, rfl⟩ := hm
      obtain ⟨hc₁, hc₂, hy₁, hy₂, hm₁, hm₂, hd₁, hd₂, hh₁, hh₂, hi₁, hi₂, hs₁, hs₂, hf₁, hf₂⟩ := hd
      obtain ⟨century, hcentury⟩ := exists_pair hc₁ hc₂
      obtain ⟨year, hyear⟩ := exists_pair hy₁ hy₂
      obtain ⟨month, hmonth⟩ := exists_pair hm₁ hm₂
      obtain ⟨day, hday⟩ := exists_pair hd₁ hd₂
      obtain ⟨hour, hhour⟩ := exists_pair hh₁ hh₂
      obtain ⟨minute, hminute⟩ := exists_pair hi₁ hi₂
      obtain ⟨second, hsecond⟩ := exists_pair hs₁ hs₂
      obtain ⟨fraction, hfraction⟩ := exists_pair hf₁ hf₂
      refine ⟨⟨century, year, month, day, hour, minute, second, fraction⟩, ?_⟩
      simp only [Fields.bytes, hcentury, hyear, hmonth, hday, hhour, hminute, hsecond, hfraction,
        List.cons_append, List.nil_append]

theorem exists_fields {text : String} {time : Timestamp} (h : ofText text = .ok time) :
    ∃ fields : Fields, Utf8.encode text.toList = fields.bytes ∧ time = fields.time := by
  simp only [ofText] at h
  split at h
  · cases h
  · rename_i hlen
    split at h
    · cases h
    · rename_i hm
      split at h
      · cases h
      · rename_i hd
        cases h
        obtain ⟨fields, hfields⟩ := exists_fields_of_shape (Classical.not_not.mp hlen)
          (by simpa using hm) (by simpa using hd)
        exact ⟨fields, hfields, hfields ▸ ofDigits_bytes fields⟩

-- Behind the first digit, one more digit of a number is one more character of its text.
theorem digits_succ {width n : Nat} (hw : 0 < width) (digit : Fin 10) :
    digits (width + 1) (n * 10 + digit) = digits width n ++ [Nat.digitChar digit] := by
  have hd := digit.isLt
  by_cases hn : n = 0
  · subst hn
    obtain ⟨width, rfl⟩ : ∃ k, width = k + 1 := ⟨width - 1, by omega⟩
    have hdigit : Nat.toDigits 10 digit = [Nat.digitChar digit] := Nat.toDigits_of_lt_base hd
    simp [digits, Numeral.padLeft, Numeral.decimal, hdigit, ← List.replicate_succ']
  · have hsplit := Nat.toDigits_append_toDigits (by decide : 1 < 10) (Nat.pos_of_ne_zero hn) hd
    rw [Nat.toDigits_of_lt_base hd, Nat.mul_comm] at hsplit
    simp [digits, Numeral.padLeft, Numeral.decimal, ← hsplit]

theorem digits_value (pair : Pair) : digits 2 pair.value = pair.bytes.map Utf8.plain := by
  have hone : digits 1 pair.tens = [Nat.digitChar pair.tens] := by
    simp [digits, Numeral.padLeft, Numeral.decimal, Nat.toDigits_of_lt_base pair.tens.isLt]
  rw [Pair.value, digits_succ (by decide), hone]
  simp [Pair.bytes, plain_digitByte]

theorem digits_year (century year : Pair) :
    digits 4 (century.value * 100 + year.value) = (century.bytes ++ year.bytes).map Utf8.plain := by
  have hsum : century.value * 100 + year.value =
      (century.value * 10 + year.tens) * 10 + year.ones := by
    simp only [Pair.value]
    omega
  rw [hsum, digits_succ (by decide), digits_succ (by decide), digits_value]
  simp [Pair.bytes, plain_digitByte]

-- Every field fits its number, so nothing is cut off on the way.
theorem toNat_value (pair : Pair) : (UInt8.ofNat pair.value).toNat % 100 = pair.value := by
  have hp := pair.value_lt
  rw [UInt8.toNat_ofNat']
  omega

theorem toNat_year (century year : Pair) :
    (UInt16.ofNat (century.value * 100 + year.value)).toNat % 10000 =
      century.value * 100 + year.value := by
  have hc := century.value_lt
  have hy := year.value_lt
  have hword : century.value * 100 + year.value < 2 ^ 16 := by omega
  have hyear : century.value * 100 + year.value < 10000 := by omega
  rw [UInt16.toNat_ofNat', Nat.mod_eq_of_lt hword, Nat.mod_eq_of_lt hyear]

theorem plain_marks : Utf8.plain 45 = '-' ∧ Utf8.plain 32 = ' ' ∧ Utf8.plain 58 = ':' ∧
    Utf8.plain 46 = '.' := by
  decide

theorem characters_time (fields : Fields) :
    fields.time.characters = fields.bytes.map Utf8.plain := by
  obtain ⟨hdash, hblank, hcolon, hdot⟩ := plain_marks
  simp only [characters, Fields.time, toNat_year, toNat_value, digits_year, digits_value,
    Fields.bytes, List.map_append, List.map_cons, hdash, hblank, hcolon, hdot]

theorem bytes_bounds (fields : Fields) :
    ∀ byte ∈ fields.bytes, 0 < byte.toNat ∧ byte.toNat < 128 := by
  have hdigit : ∀ digit : Fin 10,
      0 < (digitByte digit).toNat ∧ (digitByte digit).toNat < 128 := by
    intro digit
    rw [toNat_digitByte]
    omega
  simp only [Fields.bytes, Pair.bytes, List.cons_append, List.nil_append, List.forall_mem_cons,
    hdigit, true_and]
  simp

theorem length_bytes (fields : Fields) : fields.bytes.length = textLength := rfl

theorem toList_of_encode {text : String} {fields : Fields}
    (h : Utf8.encode text.toList = fields.bytes) : text.toList = fields.bytes.map Utf8.plain := by
  rw [← h]
  refine (Utf8.map_plain_encode ?_).symm
  rw [h]
  exact fun byte hb => (bytes_bounds fields byte hb).2

theorem text_of_encode {text : String} {fields : Fields}
    (h : Utf8.encode text.toList = fields.bytes) : fields.text = text := by
  rw [Fields.text, ← toList_of_encode h]
  exact String.ofList_toList

theorem encode_text (fields : Fields) : Utf8.encode fields.text.toList = fields.bytes := by
  rw [Fields.text, String.toList_ofList]
  exact Utf8.encode_map_plain fun byte hb => (bytes_bounds fields byte hb).2

theorem isDigit_digitByte (digit : Fin 10) : isDigit (digitByte digit) = true := by
  revert digit
  decide

theorem ofText_text (fields : Fields) : ofText fields.text = .ok fields.time := by
  have hm : (shape.zip fields.bytes).all (fun place => place.1.marksOk place.2) = true := rfl
  have hd : (shape.zip fields.bytes).all (fun place => place.1.digitsOk place.2) = true := by
    simp only [shape, Fields.bytes, Pair.bytes, List.cons_append, List.nil_append,
      List.zip_cons_cons, List.zip_nil_right, List.all_cons, List.all_nil, Slot.digitsOk,
      isDigit_digitByte, Bool.and_true]
  simp [ofText, encode_text, length_bytes, hm, hd, ofDigits_bytes]

-- The accepted texts are exactly those of fields.
theorem isOk_ofText_iff {text : String} :
    (ofText text).isOk = true ↔ ∃ fields : Fields, fields.text = text := by
  constructor
  · intro h
    cases ht : ofText text with
    | error fault =>
        rw [ht] at h
        cases h
    | ok time =>
        obtain ⟨fields, hbytes, -⟩ := exists_fields ht
        exact ⟨fields, text_of_encode hbytes⟩
  · rintro ⟨fields, rfl⟩
    rw [ofText_text]
    rfl

-- An accepted text is shown again as it was written.
theorem text_of_ofText {text : String} {time : Timestamp} (h : ofText text = .ok time) :
    time.text = text := by
  obtain ⟨fields, hbytes, rfl⟩ := exists_fields h
  rw [Timestamp.text, characters_time, ← toList_of_encode hbytes]
  exact String.ofList_toList

theorem field_of_encode {text : String} {fields : Fields}
    (h : Utf8.encode text.toList = fields.bytes) : field text = fields.bytes ++ [0] := by
  have htake : fields.bytes.take textLength = fields.bytes :=
    List.take_of_length_le (Nat.le_of_eq (length_bytes fields))
  rw [field, h, htake, length_bytes]
  rfl

-- No byte of the text is zero, so the field ends where the text does.
theorem takeWhile_bytes (fields : Fields) :
    (fields.bytes ++ [0]).takeWhile (· ≠ 0) = fields.bytes := by
  have hne : ∀ byte ∈ fields.bytes, (decide (byte ≠ 0)) = true := by
    intro byte hb
    have hpos := (bytes_bounds fields byte hb).1
    refine decide_eq_true fun hzero => ?_
    subst hzero
    exact absurd hpos (by decide)
  rw [List.takeWhile_append_of_pos hne]
  simp

-- The field of an accepted text stands for the same time.
theorem ofWire_field {text : String} {time : Timestamp} (h : ofText text = .ok time) :
    ofWire (field text) = .ok time := by
  obtain ⟨fields, hbytes, -⟩ := exists_fields h
  have hlen : (fields.bytes ++ [0]).length = fieldLength := by
    rw [List.length_append, length_bytes]
    rfl
  have hzero : (fields.bytes ++ [0]).contains 0 = true := by simp
  have hdecode : Utf8.decode? fields.bytes = some (fields.bytes.map Utf8.plain) :=
    Utf8.decode?_of_toNat_lt fun byte hb => (bytes_bounds fields byte hb).2
  simp only [ofWire, field_of_encode hbytes, hlen, hzero, takeWhile_bytes, hdecode]
  rw [← toList_of_encode hbytes, String.ofList_toList]
  simpa using h

end BoardLink.Timestamp

import BoardLink.Proofs.Message.Codec
import BoardLink.Proofs.Value.Spelling
import Mathlib.Data.List.Forall2

-- Times in both their forms, as texts and as fields of the board's messages: what is read, what
-- is written, and what becomes of a time that is written and read again.
namespace BoardLink.Timestamp

open Text

-- What stands at each place of the text, with `D` for any digit.
def template : List Char := "DDDD-DD-DD DD:DD:DD.DD".toList

def Fits (place : Char) (byte : UInt8) : Prop :=
  if place = 'D' then 48 ≤ byte.toNat ∧ byte.toNat ≤ 57 else byte.toNat = place.toNat

def Shaped (text : String) : Prop := List.Forall₂ Fits template (Utf8.encode text.toList)

-- What the text of a time keeps of it.
def reduced (time : Timestamp) : Timestamp where
  year := time.year % 10000
  month := time.month % 100
  day := time.day % 100
  hour := time.hour % 100
  minute := time.minute % 100
  second := time.second % 100
  fraction := time.fraction % 100

def InRange (time : Timestamp) : Prop :=
  time.year < 10000 ∧ time.month < 100 ∧ time.day < 100 ∧ time.hour < 100 ∧
    time.minute < 100 ∧ time.second < 100 ∧ time.fraction < 100

section Shape

def slot (place : Char) : Slot :=
  if place = 'D' then .digit else .mark (UInt8.ofNat place.toNat)

theorem map_slot_template : template.map slot = shape := by decide

theorem fits_iff {place : Char} (hp : place ∈ template) {byte : UInt8} :
    Fits place byte ↔ (slot place).marksOk byte = true ∧ (slot place).digitsOk byte = true := by
  by_cases hd : place = 'D'
  · simp only [Fits, slot, if_pos hd, Slot.marksOk, Slot.digitsOk, isDigit, true_and,
      Bool.and_eq_true, decide_eq_true_eq]
    rfl
  · have hlt : place.toNat < 256 := by
      have hall : template.all (·.toNat < 256) = true := by decide
      simpa using List.all_eq_true.mp hall place hp
    simp only [Fits, slot, if_neg hd, Slot.marksOk, Slot.digitsOk, and_true, beq_iff_eq,
      ← UInt8.toNat_inj, UInt8.toNat_ofNat', Nat.mod_eq_of_lt hlt]

theorem isOk_ofText_iff_all {text : String} :
    (ofText text).isOk = true ↔ (Utf8.encode text.toList).length = textLength ∧
      (shape.zip (Utf8.encode text.toList)).all (fun place => place.1.marksOk place.2) = true ∧
      (shape.zip (Utf8.encode text.toList)).all (fun place => place.1.digitsOk place.2) = true := by
  simp only [ofText]
  generalize (shape.zip (Utf8.encode text.toList)).all
    (fun place => place.1.marksOk place.2) = marks
  generalize (shape.zip (Utf8.encode text.toList)).all
    (fun place => place.1.digitsOk place.2) = digits
  by_cases hlen : (Utf8.encode text.toList).length = textLength
  · cases marks <;> cases digits <;> simp [hlen, Except.isOk, Except.toBool]
  · simp [hlen, Except.isOk, Except.toBool]

-- The three passes over a text together look for its shape.
theorem isOk_ofText_iff_shaped {text : String} : (ofText text).isOk = true ↔ Shaped text := by
  have hlen : template.length = textLength := rfl
  rw [isOk_ofText_iff_all, Shaped, List.forall₂_iff_zip, ← map_slot_template, List.zip_map_left,
    hlen, eq_comm]
  refine and_congr_right fun _ => ?_
  simp only [List.all_map, List.all_eq_true, Function.comp_apply, Prod.map_fst, Prod.map_snd, id,
    Prod.forall, ← forall_and]
  refine forall_congr' fun place => forall_congr' fun byte => forall_congr' fun hm => ?_
  exact (fits_iff (List.of_mem_zip hm).1).symm

end Shape

-- A number as a field of two digits, from its last two.
def Pair.ofNat (n : Nat) : Pair :=
  ⟨⟨n / 10 % 10, Nat.mod_lt _ (by decide)⟩, ⟨n % 10, Nat.mod_lt _ (by decide)⟩⟩

theorem value_ofNat (n : Nat) : (Pair.ofNat n).value = n % 100 := by
  simp only [Pair.value, Pair.ofNat]
  omega

namespace Fields

def ofTime (time : Timestamp) : Fields where
  century := .ofNat (time.year.toNat / 100)
  year := .ofNat time.year.toNat
  month := .ofNat time.month.toNat
  day := .ofNat time.day.toNat
  hour := .ofNat time.hour.toNat
  minute := .ofNat time.minute.toNat
  second := .ofNat time.second.toNat
  fraction := .ofNat time.fraction.toNat

end Fields

theorem ofNat_mod (n : UInt8) : UInt8.ofNat (n.toNat % 100) = n % 100 := by
  apply UInt8.toNat_inj.mp
  rw [UInt8.toNat_ofNat', UInt8.toNat_mod]
  have hn : n.toNat % 100 < 256 := by omega
  exact Nat.mod_eq_of_lt hn

theorem time_ofTime (time : Timestamp) : (Fields.ofTime time).time = time.reduced := by
  have hyear : UInt16.ofNat (time.year.toNat / 100 % 100 * 100 + time.year.toNat % 100) =
      time.year % 10000 := by
    have hn : time.year.toNat / 100 % 100 * 100 + time.year.toNat % 100 =
        time.year.toNat % 10000 := by omega
    apply UInt16.toNat_inj.mp
    rw [hn, UInt16.toNat_ofNat', UInt16.toNat_mod]
    exact Nat.mod_eq_of_lt (by omega)
  simp only [Fields.time, Fields.ofTime, value_ofNat, hyear, ofNat_mod, reduced]

-- The text does not show more than is left of the time.
theorem characters_reduced (time : Timestamp) : time.reduced.characters = time.characters := by
  have hyear : (time.year % 10000).toNat % 10000 = time.year.toNat % 10000 := by
    rw [UInt16.toNat_mod]
    exact Nat.mod_mod ..
  have hpair : ∀ n : UInt8, (n % 100).toNat % 100 = n.toNat % 100 := by
    intro n
    rw [UInt8.toNat_mod]
    exact Nat.mod_mod ..
  simp only [characters, reduced, hyear, hpair]

theorem text_ofTime (time : Timestamp) : (Fields.ofTime time).text = time.text := by
  rw [Fields.text, ← characters_time, time_ofTime, characters_reduced]
  rfl

theorem ofText_text_eq (time : Timestamp) : ofText time.text = .ok time.reduced := by
  rw [← text_ofTime, ofText_text, time_ofTime]

theorem reduced_eq_iff {time : Timestamp} : time.reduced = time ↔ time.InRange := by
  have hyear : time.year % 10000 = time.year ↔ time.year < 10000 := by
    rw [← UInt16.toNat_inj, UInt16.toNat_mod]
    exact Nat.mod_eq_iff_lt (by decide)
  have hpair : ∀ n : UInt8, n % 100 = n ↔ n < 100 := by
    intro n
    rw [← UInt8.toNat_inj, UInt8.toNat_mod]
    exact Nat.mod_eq_iff_lt (by decide)
  obtain ⟨year, month, day, hour, minute, second, fraction⟩ := time
  simp only [reduced, mk.injEq, InRange, hyear, hpair]

-- The part of a field in front of its first zero byte.
theorem exists_of_contains_zero {bytes : Bytes} (h : bytes.contains 0 = true) :
    ∃ rest, bytes = bytes.takeWhile (· ≠ 0) ++ 0 :: rest := by
  obtain ⟨shown, rest, hbytes, hne⟩ := List.eq_append_cons_of_mem (List.contains_iff_mem.mp h)
  have hshown : bytes.takeWhile (· ≠ 0) = shown := by
    rw [hbytes, List.takeWhile_append_of_pos]
    · simp
    · intro byte hm
      exact decide_eq_true fun hzero => hne (hzero ▸ hm)
  exact ⟨rest, by rw [hshown, hbytes]⟩

-- A field has no room for a second zero byte, nor for a character of more than one byte.
theorem exists_text_of_ofWire {bytes : Bytes} {time : Timestamp} (h : ofWire bytes = .ok time) :
    ∃ text, ofText text = .ok time ∧ bytes = Utf8.encode text.toList ++ [0] := by
  simp only [ofWire] at h
  split at h
  · cases h
  · rename_i hlen
    split at h
    · cases h
    · rename_i hzero
      split at h
      · cases h
      · rename_i chars hdecode
        obtain ⟨fields, hfields, -⟩ := exists_fields h
        have hchars : chars.length = 22 := by
          rw [← String.toList_ofList (l := chars), toList_of_encode hfields, List.length_map]
          exact length_bytes fields
        have hle := Utf8.length_le_of_decode? hdecode
        have hcontains : bytes.contains 0 = true := by simpa using hzero
        obtain ⟨rest, hrest⟩ := exists_of_contains_zero hcontains
        have hwidth : bytes.length = 23 := not_not.mp hlen
        have hsum := congrArg List.length hrest
        rw [hwidth, List.length_append, List.length_cons] at hsum
        have hnil : rest = [] := List.length_eq_zero_iff.mp (by omega)
        have hplain := Utf8.toNat_lt_of_decode? hdecode (by omega)
        rw [Utf8.decode?_of_toNat_lt hplain] at hdecode
        cases hdecode
        refine ⟨_, h, ?_⟩
        rw [String.toList_ofList, Utf8.encode_map_plain hplain]
        exact hnil ▸ hrest

theorem ofWire_eq_ok_iff {bytes : Bytes} {time : Timestamp} :
    ofWire bytes = .ok time ↔
      ∃ text, ofText text = .ok time ∧ bytes = Utf8.encode text.toList ++ [0] := by
  refine ⟨exists_text_of_ofWire, ?_⟩
  rintro ⟨text, htext, rfl⟩
  obtain ⟨fields, hfields, -⟩ := exists_fields htext
  have hfield := field_of_encode hfields
  rw [← hfields] at hfield
  rw [← hfield]
  exact ofWire_field htext

theorem toWire_of_ofText {text : String} {time : Timestamp} (h : ofText text = .ok time) :
    time.toWire = Utf8.encode text.toList ++ [0] := by
  obtain ⟨fields, hfields, -⟩ := exists_fields h
  rw [toWire, text_of_ofText h, field_of_encode hfields, hfields]

theorem toWire_of_ofWire {bytes : Bytes} {time : Timestamp} (h : ofWire bytes = .ok time) :
    time.toWire = bytes := by
  obtain ⟨text, htext, rfl⟩ := exists_text_of_ofWire h
  exact toWire_of_ofText htext

-- Texts and fields are read if and only if they have the shape of a time, and are then written as
-- they were. A time is read as what its text keeps of it, and sent as its text was given.
theorem times_read_as_written :
    (∀ text, (ofText text).isOk = true ↔ Shaped text) ∧
      (∀ text time, ofText text = .ok time → time.text = text) ∧
      (∀ bytes time, ofWire bytes = .ok time ↔
        ∃ text, Shaped text ∧ ofText text = .ok time ∧ bytes = Utf8.encode text.toList ++ [0]) ∧
      (∀ bytes time, ofWire bytes = .ok time → time.toWire = bytes) ∧
      (∀ time : Timestamp, ofWire time.toWire = .ok time.reduced ∧
        ofText time.text = .ok time.reduced ∧ (time.reduced = time ↔ time.InRange)) ∧
      ∀ text, (Command.setClock text).validate = .ok () ↔
        ∃ time, ofText text = .ok time ∧ (Command.setClock text).payload = time.toWire := by
  refine ⟨fun _ => isOk_ofText_iff_shaped, fun _ _ => text_of_ofText, ?_, ?_, ?_, ?_⟩
  · intro bytes time
    rw [ofWire_eq_ok_iff]
    refine exists_congr fun text => ⟨?_, And.right⟩
    rintro ⟨htext, hbytes⟩
    exact ⟨isOk_ofText_iff_shaped.mp (by rw [htext]; rfl), htext, hbytes⟩
  · intro bytes time h
    obtain ⟨text, htext, rfl⟩ := exists_text_of_ofWire h
    exact toWire_of_ofText htext
  · intro time
    exact ⟨ofWire_field (ofText_text_eq time), ofText_text_eq time, reduced_eq_iff⟩
  · intro text
    cases htext : ofText text with
    | error fault => simp [Command.validate, htext]
    | ok time =>
        have hpayload : field text = time.toWire := by rw [toWire, text_of_ofText htext]
        simp [Command.validate, Command.payload, htext, hpayload]

end BoardLink.Timestamp

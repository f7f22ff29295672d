import BoardLink.Proofs.Text.Numerals
import BoardLink.Value.Version
import Mathlib.Data.List.Forall2

-- The two texts of a version. Their numbers have no fixed width, so the dots of the one and the
-- order of the bytes in the other tell the version.
namespace BoardLink.FirmwareVersion

open Text Numeral

def upperDigits : List Char := "0123456789ABCDEF".toList

def lowerDigits : List Char := "0123456789abcdef".toList

-- Digits from a table, with no zero in front of them unless it is the only one.
structure Hexadecimal (table text : List Char) (n : Nat) : Prop where
  written : Written 16 text n
  listed : ∀ c ∈ text, c ∈ table
  leading : text.head? = some '0' → text = ['0']

variable {table text : List Char} {f : Char → Char} {n : Nat}

section Digits

-- A table with one character for each digit leaves only one way to write a number.
theorem Hexadecimal.eq_map_toDigits (h : Hexadecimal table text n)
    (hcase : ∀ c ∈ table, ∀ digit, IsDigit 16 c digit → c = f digit.digitChar) :
    text = (Nat.toDigits 16 n).map f := by
  have hlisted : ∀ c ∈ text, ∀ digit, IsDigit 16 c digit → c = f digit.digitChar :=
    fun c hc => hcase c (h.listed c hc)
  by_cases hhead : text.head? = some '0'
  · obtain rfl := h.leading hhead
    have hzero : IsDigit 16 '0' 0 := ⟨by decide, .inl rfl⟩
    obtain rfl : n = 0 := h.written.unique (.one hzero) (by decide)
    rw [Nat.toDigits_of_lt_base (by decide), List.map_singleton,
      ← hlisted '0' List.mem_cons_self 0 hzero]
  · exact (h.written.eq_map_toDigits (by decide) hlisted hhead).1

theorem hexadecimal_map_toDigits (hwritten : Written 16 ((Nat.toDigits 16 n).map f) n)
    (hmem : ∀ digit : Fin 16, f digit.val.digitChar ∈ table)
    (hzero : ∀ digit : Fin 16, f digit.val.digitChar = '0' ↔ digit.val = 0) :
    Hexadecimal table ((Nat.toDigits 16 n).map f) n where
  written := hwritten
  listed := by
    intro c hc
    obtain ⟨plain, hplain, rfl⟩ := List.mem_map.mp hc
    obtain ⟨digit, hdigit, rfl⟩ := exists_digit_of_mem (by decide) hplain
    exact hmem ⟨digit, hdigit⟩
  leading := by
    intro hhead
    obtain ⟨digit, rest, hcons, hdigit, hnull⟩ := exists_toDigits_cons (by decide : 1 < 16) n
    rw [hcons, List.map_cons, List.head?_cons, Option.some.injEq] at hhead
    obtain rfl : n = 0 := hnull ((hzero ⟨digit, hdigit⟩).mp hhead)
    have hsingle : f (Nat.digitChar 0) = '0' := (hzero 0).mpr rfl
    rw [Nat.toDigits_of_lt_base (by decide), List.map_singleton, hsingle]

theorem hexadecimal_upper_iff : Hexadecimal upperDigits text n ↔ text = hexUpper n := by
  constructor
  · intro h
    refine h.eq_map_toDigits fun c hc digit hdigit => ?_
    have hall : ∀ d : Fin 16, d.val.digitChar ∈ upperDigits →
        d.val.digitChar = d.val.digitChar.toUpper := by decide
    rcases hdigit.2 with rfl | rfl
    · exact hall ⟨digit, hdigit.1⟩ hc
    · rfl
  · rintro rfl
    exact hexadecimal_map_toDigits (written_hexUpper n) (by decide) (by decide)

theorem hexadecimal_lower_iff : Hexadecimal lowerDigits text n ↔ text = hexLower n := by
  have hid : hexLower n = (Nat.toDigits 16 n).map id := (List.map_id _).symm
  rw [hid]
  constructor
  · intro h
    refine h.eq_map_toDigits fun c hc digit hdigit => ?_
    have hall : ∀ d : Fin 16, d.val.digitChar.toUpper ∈ lowerDigits →
        d.val.digitChar.toUpper = d.val.digitChar := by decide
    rcases hdigit.2 with rfl | rfl
    · rfl
    · exact hall ⟨digit, hdigit.1⟩ hc
  · rintro rfl
    exact hexadecimal_map_toDigits (hid ▸ written_toDigits (by decide) n) (by decide) (by decide)

end Digits

section Groups

-- No dot is a digit, so the groups of a dotted text are the texts between its dots.
theorem groups_iff {values : List Nat} (hne : values ≠ []) :
    List.Forall₂ (Hexadecimal upperDigits) (text.splitOn '.') values ↔
      text = List.intercalate ['.'] (values.map hexUpper) := by
  have hdot : ∀ group ∈ values.map hexUpper, '.' ∉ group := by
    intro group hgroup hmem
    obtain ⟨n, -, rfl⟩ := List.mem_map.mp hgroup
    have hlisted := (hexadecimal_upper_iff.mpr rfl : Hexadecimal upperDigits _ n).listed '.' hmem
    exact absurd hlisted (by decide)
  constructor
  · intro h
    have hgroups : text.splitOn '.' = values.map hexUpper := by
      rw [← List.forall₂_eq_eq_eq, List.forall₂_map_right_iff]
      exact h.imp fun _ _ => hexadecimal_upper_iff.mp
    rw [← hgroups, List.intercalate_splitOn]
  · rintro rfl
    rw [List.splitOn_intercalate '.' hdot (by simpa using hne), List.forall₂_map_left_iff,
      List.forall₂_same]
    exact fun _ _ => hexadecimal_upper_iff.mpr rfl

end Groups

section Bytes

variable {version other : FirmwareVersion}

def numbers (version : FirmwareVersion) : List Nat :=
  [version.a.toNat, version.b.toNat, version.c.toNat, version.d.toNat]

theorem numbers_inj : other.numbers = version.numbers ↔ other = version := by
  obtain ⟨a, b, c, d⟩ := version
  obtain ⟨oa, ob, oc, od⟩ := other
  simp only [numbers, List.cons.injEq, and_true, mk.injEq, UInt8.toNat_inj]

theorem toNat_eq (version : FirmwareVersion) : version.toNat =
    version.a.toNat * 2 ^ 24 + version.b.toNat * 2 ^ 16 + version.c.toNat * 2 ^ 8 +
      version.d.toNat := by
  simp only [toNat, toBytes, BigEndian.decode, List.foldl_cons, List.foldl_nil]
  omega

-- Bytes are the digits of base 256.
theorem toNat_inj : other.toNat = version.toNat ↔ other = version := by
  constructor
  · intro h
    have hb := version.b.toNat_lt
    have hc := version.c.toNat_lt
    have hd := version.d.toNat_lt
    have hob := other.b.toNat_lt
    have hoc := other.c.toNat_lt
    have hod := other.d.toNat_lt
    rw [toNat_eq, toNat_eq] at h
    apply numbers_inj.mp
    simp only [numbers, List.cons.injEq, and_true]
    omega
  · rintro rfl
    rfl

end Bytes

section Texts

variable {version other : FirmwareVersion} {shown : String}

theorem eq_dotted_iff : shown = version.dotted ↔
    List.Forall₂ (Hexadecimal upperDigits) (shown.toList.splitOn '.') version.numbers := by
  have hne : version.numbers ≠ [] := List.cons_ne_nil _ _
  have hnumbers : version.toBytes.map (fun byte => hexUpper byte.toNat) =
      version.numbers.map hexUpper := rfl
  rw [groups_iff hne, ← String.toList_inj, dotted, String.toList_ofList, hnumbers]

theorem eq_compact_iff :
    shown = version.compact ↔ Hexadecimal lowerDigits shown.toList version.toNat := by
  rw [hexadecimal_lower_iff, ← String.toList_inj, compact, String.toList_ofList]

theorem dotted_inj : other.dotted = version.dotted ↔ other = version := by
  constructor
  · intro h
    have hunique : Relator.RightUnique (Hexadecimal upperDigits) :=
      fun _ _ _ hn hm => hn.written.unique hm.written (by decide)
    have hother := eq_dotted_iff.mp (rfl : other.dotted = other.dotted)
    exact numbers_inj.mp (hunique.forall₂ hother (eq_dotted_iff.mp h))
  · rintro rfl
    rfl

theorem compact_inj : other.compact = version.compact ↔ other = version := by
  constructor
  · intro h
    have hother := eq_compact_iff.mp (rfl : other.compact = other.compact)
    exact toNat_inj.mp (hother.written.unique (eq_compact_iff.mp h).written (by decide))
  · rintro rfl
    rfl

end Texts

-- The dotted text of a version is the only text with its four bytes in order between three dots, in
-- upper-case digits. The compact text is the only one of their big-endian number in lower-case
-- digits. No zeros stand in front. Each of the two texts belongs to one version alone.
theorem texts_tell_versions (version : FirmwareVersion) :
    (∀ text : String, text = version.dotted ↔
        List.Forall₂ (Hexadecimal upperDigits) (text.toList.splitOn '.')
          [version.a.toNat, version.b.toNat, version.c.toNat, version.d.toNat]) ∧
      (∀ text : String, text = version.compact ↔
        Hexadecimal lowerDigits text.toList
          (version.a.toNat * 2 ^ 24 + version.b.toNat * 2 ^ 16 + version.c.toNat * 2 ^ 8 +
            version.d.toNat)) ∧
      ∀ other : FirmwareVersion,
        (other.dotted = version.dotted ↔ other = version) ∧
          (other.compact = version.compact ↔ other = version) := by
  refine ⟨fun text => eq_dotted_iff, fun text => ?_, fun other => ⟨dotted_inj, compact_inj⟩⟩
  rw [← toNat_eq]
  exact eq_compact_iff

end BoardLink.FirmwareVersion

import BoardLink.Channel
import BoardLink.Proofs.Text.Letters
import Mathlib.Data.List.Nodup

-- Channels and lamps as they are named on the command line, by a number or by a word.
namespace BoardLink

open Text Numeral

-- A table is searched for the only entry that has some key.
theorem find?_eq_some_iff_of_nodup {α β : Type} {table : List α} (key : α → β) {p : α → Bool}
    {entry : α} {wanted : β} (hnodup : (table.map key).Nodup) (hmem : entry ∈ table)
    (hp : ∀ other, p other = true ↔ key other = wanted) :
    table.find? p = some entry ↔ key entry = wanted := by
  constructor
  · intro h
    exact (hp entry).mp (List.find?_some h)
  · intro hkey
    cases hfind : table.find? p with
    | none => exact absurd ((hp entry).mpr hkey) (List.find?_eq_none.mp hfind entry hmem)
    | some other =>
        have hother := (hp other).mp (List.find?_some hfind)
        have hsame := List.inj_on_of_nodup_map hnodup (List.mem_of_find?_eq_some hfind) hmem
          (hother.trans hkey.symm)
        rw [hsame]

section Bytes

variable {text : List Char} {byte : UInt8} {n : Nat}

theorem read?_byte_iff : read? 10 255 text = some byte.toNat ↔ Typed 10 text byte.toNat := by
  rw [read?_eq_some_iff_typed (by decide)]
  exact and_iff_right (Nat.le_of_lt_succ byte.toNat_lt)

theorem exists_byte_of_read? (h : read? 10 255 text = some n) : ∃ byte : UInt8, n = byte.toNat := by
  obtain ⟨hn, -⟩ := (read?_eq_some_iff_typed (by decide)).mp h
  exact ⟨UInt8.ofNat n, (UInt8.toNat_ofNat_of_lt (Nat.lt_succ_of_le hn)).symm⟩

end Bytes

namespace AdcChannel

variable {text : String} {channel other : AdcChannel}

-- What a text has to be to mean a channel.
inductive Means (text : String) : AdcChannel → Prop where
  | number {channel : AdcChannel} (typed : Typed 10 text.toList channel.toByte.toNat) :
      Means text channel
  | name {channel : AdcChannel} (same : EqualButCase text channel.name) : Means text channel

theorem mem_all (channel : AdcChannel) : channel ∈ all := by cases channel <;> decide

theorem ofByte?_eq_some_iff {byte : UInt8} : ofByte? byte = some channel ↔ channel.toByte = byte :=
  find?_eq_some_iff_of_nodup toByte (by decide) channel.mem_all fun _ => decide_eq_true_iff

theorem find?_name_eq_some_iff :
    all.find? (fun channel => sameButCase channel.name text) = some channel ↔
      EqualButCase channel.name text :=
  find?_eq_some_iff_of_nodup (fun channel => channel.name.toList.map Char.toLower) (by decide)
    channel.mem_all fun _ => sameButCase_iff

theorem not_typed_of_equal {n : Nat} (h : EqualButCase text channel.name) :
    ¬ Typed 10 text.toList n :=
  not_typed_of_name h (by cases channel <;> simp [name, beginnings])

-- A text is looked up by its number if it has one, and by its name if it has none. No name looks
-- like a number, so the order does not matter.
theorem ofText_eq_ok_iff : ofText text = .ok channel ↔ Means text channel := by
  cases hread : read? 10 255 text.toList with
  | some n =>
      obtain ⟨byte, rfl⟩ := exists_byte_of_read? hread
      have htyped := read?_byte_iff.mp hread
      have hfound : ofText text = .ok channel ↔ channel.toByte = byte := by
        rw [← ofByte?_eq_some_iff]
        simp only [ofText, hread, UInt8.ofNat_toNat]
        cases ofByte? byte <;> simp
      refine hfound.trans ⟨?_, fun h => ?_⟩
      · rintro rfl
        exact .number htyped
      · cases h with
        | number typed =>
            rw [read?_byte_iff.mpr typed] at hread
            exact UInt8.toNat_inj.mp (Option.some.inj hread)
        | name same => exact absurd htyped (not_typed_of_equal same)
  | none =>
      have hfound : ofText text = .ok channel ↔ EqualButCase channel.name text := by
        rw [← find?_name_eq_some_iff]
        simp only [ofText, hread]
        cases all.find? (fun channel => sameButCase channel.name text) <;> simp
      refine hfound.trans ⟨fun h => .name h.symm, fun h => ?_⟩
      cases h with
      | number typed =>
          rw [read?_byte_iff.mpr typed] at hread
          cases hread
      | name same => exact same.symm

theorem Means.unique (h : Means text channel) (ho : Means text other) : channel = other :=
  Except.ok.inj ((ofText_eq_ok_iff.mpr h).symm.trans (ofText_eq_ok_iff.mpr ho))

end AdcChannel

section Lamps

variable {text : String} {led : UInt8}

-- What a text has to be to mean a lamp. Any byte will do as a number, if a lamp has it or not.
inductive LampMeans (text : String) : UInt8 → Prop where
  | right (same : EqualButCase text "right") : LampMeans text 0
  | center (same : EqualButCase text "center") : LampMeans text 1
  | left (same : EqualButCase text "left") : LampMeans text 2
  | number {led : UInt8} (typed : Typed 10 text.toList led.toNat) : LampMeans text led

theorem LedId.find?_name_eq_some_iff {lamp : LedId} :
    LedId.all.find? (fun lamp => sameButCase lamp.name text) = some lamp ↔
      EqualButCase lamp.name text :=
  find?_eq_some_iff_of_nodup (fun lamp : LedId => lamp.name.toList.map Char.toLower) (by decide)
    (by cases lamp <;> decide) fun _ => sameButCase_iff

theorem LedId.not_typed_of_equal {lamp : LedId} {n : Nat} (h : EqualButCase lamp.name text) :
    ¬ Typed 10 text.toList n :=
  not_typed_of_name h.symm (by cases lamp <;> simp [LedId.name, beginnings])

theorem lampMeans_iff : LampMeans text led ↔
    (∃ lamp : LedId, EqualButCase lamp.name text ∧ lamp.toByte = led) ∨
      Typed 10 text.toList led.toNat := by
  constructor
  · intro h
    cases h with
    | right same => exact .inl ⟨.right, same.symm, rfl⟩
    | center same => exact .inl ⟨.center, same.symm, rfl⟩
    | left same => exact .inl ⟨.left, same.symm, rfl⟩
    | number typed => exact .inr typed
  · rintro (⟨lamp, hsame, rfl⟩ | htyped)
    · cases lamp with
      | right => exact .right hsame.symm
      | center => exact .center hsame.symm
      | left => exact .left hsame.symm
    · exact .number htyped

-- Here names come first.
theorem ledOfText_eq_ok_iff : ledOfText text = .ok led ↔ LampMeans text led := by
  rw [lampMeans_iff]
  simp only [← LedId.find?_name_eq_some_iff]
  unfold ledOfText
  cases hfind : LedId.all.find? (fun lamp => sameButCase lamp.name text) with
  | some lamp =>
      have hnumber : ¬ Typed 10 text.toList led.toNat :=
        LedId.not_typed_of_equal (LedId.find?_name_eq_some_iff.mp hfind)
      simp [hnumber]
  | none =>
      rw [← read?_byte_iff]
      cases hread : read? 10 255 text.toList with
      | none => simp
      | some n =>
          obtain ⟨byte, rfl⟩ := exists_byte_of_read? hread
          simp [UInt8.toNat_inj]

end Lamps

end BoardLink

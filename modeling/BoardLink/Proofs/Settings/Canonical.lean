import BoardLink.Proofs.Settings.InUse
import BoardLink.Proofs.Text.Blank

-- What a setting is read back as. A text is kept in one form, however it was written, and this form
-- means the same setting again.
namespace BoardLink

open Text

-- The words for a convention.
inductive BatteryConvention.Word : BatteryConvention → String → Prop where
  | payloadNonZero : Word .payloadNonZero "payload_non_zero"
  | payload : Word .payloadNonZero "payload"
  | statusPositive : Word .statusPositive "status_positive"
  | status : Word .statusPositive "status"

namespace BatteryConvention

variable {convention : BatteryConvention} {word text : String}

theorem Word.not_blank (h : Word convention word) : ∀ c ∈ word.toList, isBlank c = false := by
  cases h <;> simp <;> decide

theorem word_name (convention : BatteryConvention) : Word convention convention.name := by
  cases convention with
  | payloadNonZero => exact .payloadNonZero
  | statusPositive => exact .statusPositive

theorem ofText_eq_ok_iff :
    ofText text = .ok convention ↔ Word convention (String.ofList (trim text.toList)) := by
  unfold ofText
  generalize String.ofList (trim text.toList) = word
  dsimp only
  constructor
  · intro h
    split at h
    · rename_i hpayload
      cases h
      rcases hpayload with rfl | rfl
      · exact .payloadNonZero
      · exact .payload
    · split at h
      · rename_i hstatus
        cases h
        rcases hstatus with rfl | rfl
        · exact .statusPositive
        · exact .status
      · cases h
  · intro h
    cases h <;> rfl

-- Blanks on both sides do not count.
theorem ofText_eq_ok_iff_surrounded :
    ofText text = .ok convention ↔
      ∃ word, Word convention word ∧ Surrounded word.toList text.toList := by
  rw [ofText_eq_ok_iff]
  constructor
  · intro h
    refine ⟨_, h, ?_⟩
    rw [String.toList_ofList]
    exact surrounded_trim text.toList
  · rintro ⟨word, hword, hsurrounded⟩
    rw [(trim_eq_iff hword.not_blank).mpr hsurrounded, String.ofList_toList]
    exact hword

theorem ofText_name (convention : BatteryConvention) : ofText convention.name = .ok convention := by
  rw [ofText_eq_ok_iff, trim_of_plain (word_name convention).not_blank, String.ofList_toList]
  exact word_name convention

end BatteryConvention

namespace Settings

variable {settings updated : Settings} {known : SettingsKey} {key value text : String}

-- The text that a value is kept as under a key. No other value is one for the key.
inductive KeptAs (value : String) : (key text : String) → Prop where
  | endpoint : KeptAs value "endpoint" value
  | timeoutMs {n : Nat} {text : String} (typed : Numeral.Typed 10 value.toList n) (positive : 1 ≤ n)
      (fits : n ≤ 2 ^ 64 - 1) (digits : Numeral.Written 10 text.toList n)
      (shortest : text.toList.head? ≠ some '0') : KeptAs value "timeout_ms" text
  | payloadNonZero {word : String} (means : BatteryConvention.Word .payloadNonZero word)
      (typed : Surrounded word.toList value.toList) :
      KeptAs value "battery_convention" "payload_non_zero"
  | statusPositive {word : String} (means : BatteryConvention.Word .statusPositive word)
      (typed : Surrounded word.toList value.toList) :
      KeptAs value "battery_convention" "status_positive"

theorem set_of_replaces (h : Replaces settings value known updated) :
    settings.set known.name value = (.ok (), updated) := by
  cases h with
  | endpoint => rfl
  | @timeoutMs ms reads nonzero =>
      have hnonzero : ms.toNat ≠ 0 := fun hzero => nonzero (UInt64.toNat_inj.mp hzero)
      simp only [set, SettingsKey.ofName?_name, reads]
      rw [UInt64.ofNat_toNat]
  | battery reads => simp only [set, SettingsKey.ofName?_name, reads]

theorem get_name (settings : Settings) (known : SettingsKey) :
    settings.get known.name = .ok (settings.getKey known) := by
  simp only [get, SettingsKey.ofName?_name]

-- What is kept of a value that is accepted, and what it stands for is the setting it comes from.
theorem Replaces.kept (h : Replaces settings value known updated) :
    ∃ text, updated.getKey known = some text ∧ KeptAs value known.name text ∧
      Replaces updated text known updated := by
  cases h with
  | endpoint => exact ⟨value, rfl, .endpoint, .endpoint⟩
  | @timeoutMs ms reads nonzero =>
      have hpositive : ms.toNat ≠ 0 := fun hzero => nonzero (UInt64.toNat_inj.mp hzero)
      have hfits : ms.toNat ≤ 2 ^ 64 - 1 := Nat.le_of_lt_succ ms.toNat_lt
      refine ⟨toString ms.toNat, rfl, ?_, ?_⟩
      · refine .timeoutMs ((Numeral.read_eq_ok_iff (by decide)).mp reads).2
          (Nat.pos_of_ne_zero hpositive) hfits (Numeral.written_toString ms.toNat) ?_
        rw [Numeral.toList_toString]
        exact Numeral.head?_decimal hpositive
      · refine .timeoutMs ?_ nonzero
        rw [Numeral.toList_toString]
        exact Numeral.read_decimal ms.toNat hfits
  | @battery convention reads =>
      obtain ⟨word, hword, htyped⟩ := BatteryConvention.ofText_eq_ok_iff_surrounded.mp reads
      refine ⟨convention.name, rfl, ?_, .battery (BatteryConvention.ofText_name convention)⟩
      cases convention with
      | payloadNonZero => exact .payloadNonZero hword htyped
      | statusPositive => exact .statusPositive hword htyped

theorem replaces_of_keptAs (settings : Settings) (h : KeptAs value key text) :
    ∃ known updated, known.name = key ∧ Replaces settings value known updated ∧
      updated.getKey known = some text := by
  cases h with
  | endpoint => exact ⟨.endpoint, _, rfl, .endpoint, rfl⟩
  | @timeoutMs n text typed positive fits digits shortest =>
      have hlt : n < UInt64.size := Nat.lt_of_le_of_lt fits (by decide)
      have hsame : (UInt64.ofNat n).toNat = n := UInt64.toNat_ofNat_of_lt hlt
      have hread : Numeral.read 10 maxTimeout value.toList = .ok n :=
        (Numeral.read_eq_ok_iff (by decide)).mpr ⟨fits, typed⟩
      have hnonzero : UInt64.ofNat n ≠ 0 := by
        intro hzero
        rw [hzero] at hsame
        exact absurd hsame.symm (Nat.ne_of_gt positive)
      have htext : toString n = text := by
        rw [← String.toList_inj, Numeral.toList_toString]
        exact (digits.eq_decimal shortest).1.symm
      refine ⟨.timeoutMs, _, rfl, .timeoutMs (by rw [hsame]; exact hread) hnonzero, ?_⟩
      rw [getKey, Option.map_some, hsame, htext]
  | payloadNonZero means typed =>
      exact ⟨.battery, _, rfl,
        .battery (BatteryConvention.ofText_eq_ok_iff_surrounded.mpr ⟨_, means, typed⟩), rfl⟩
  | statusPositive means typed =>
      exact ⟨.battery, _, rfl,
        .battery (BatteryConvention.ofText_eq_ok_iff_surrounded.mpr ⟨_, means, typed⟩), rfl⟩

theorem Replaces.get_other {other : String} (h : Replaces settings value known updated)
    (hother : other ≠ known.name) : updated.get other = settings.get other := by
  unfold get
  cases hname : SettingsKey.ofName? other with
  | none => rfl
  | some key =>
      have hkey : key ≠ known := by
        rintro rfl
        exact hother (SettingsKey.name_of_ofName? hname).symm
      cases h <;> cases key <;> first | rfl | exact absurd rfl hkey

-- The digits of a number are kept as they are.
theorem keptAs_decimal {n : Nat} (hpositive : 1 ≤ n) (hfits : n ≤ 2 ^ 64 - 1) :
    KeptAs (toString n) "timeout_ms" (toString n) := by
  refine .timeoutMs (.inl (Numeral.written_toString n)) hpositive hfits
    (Numeral.written_toString n) ?_
  rw [Numeral.toList_toString]
  exact Numeral.head?_decimal (Nat.ne_of_gt hpositive)

theorem keptAs_iff : KeptAs value key text ↔
    ∃ updated, settings.set key value = (.ok (), updated) ∧ updated.get key = .ok (some text) := by
  constructor
  · intro h
    obtain ⟨known, updated, rfl, hreplaces, hkept⟩ := replaces_of_keptAs settings h
    exact ⟨updated, set_of_replaces hreplaces, by rw [get_name, hkept]⟩
  · rintro ⟨updated, hset, hget⟩
    obtain ⟨known, rfl, hreplaces⟩ := replaces_of_set hset
    obtain ⟨kept, hkept, h, -⟩ := hreplaces.kept
    rw [get_name, hkept] at hget
    cases hget
    exact h

-- Setting and reading one key, from any settings. What is accepted is exactly what can be kept, and
-- it is read back as it is kept. The kept text means the same setting, so that setting it makes no
-- difference. Nothing is read differently under another key, and a refused text leaves the settings
-- as they were. Every number of milliseconds that is not zero can be reached.
theorem kept_text_is_read_back (settings : Settings) (key value : String) :
    (∀ text, KeptAs value key text ↔
        ∃ updated, settings.set key value = (.ok (), updated) ∧ updated.get key = .ok (some text)) ∧
      (∀ error after, settings.set key value = (.error error, after) → after = settings) ∧
      (∀ updated, settings.set key value = (.ok (), updated) →
        ∃ text, updated.get key = .ok (some text) ∧ updated.set key text = (.ok (), updated) ∧
          ∀ other, other ≠ key → updated.get other = settings.get other) ∧
      ∀ n, 1 ≤ n → n ≤ 2 ^ 64 - 1 →
        ∃ text updated, Numeral.Written 10 text.toList n ∧
          settings.set "timeout_ms" text = (.ok (), updated) ∧
          updated.get "timeout_ms" = .ok (some text) := by
  refine ⟨fun text => keptAs_iff, ?_, ?_, ?_⟩
  · intro error after hset
    exact eq_of_set_error hset
  · intro updated hset
    obtain ⟨known, rfl, hreplaces⟩ := replaces_of_set hset
    obtain ⟨text, hkept, -, hagain⟩ := hreplaces.kept
    exact ⟨text, by rw [get_name, hkept], set_of_replaces hagain,
      fun other hother => hreplaces.get_other hother⟩
  · intro n hpositive hfits
    obtain ⟨updated, hset, hget⟩ := keptAs_iff.mp (keptAs_decimal hpositive hfits)
    exact ⟨toString n, updated, Numeral.written_toString n, hset, hget⟩

end Settings
end BoardLink

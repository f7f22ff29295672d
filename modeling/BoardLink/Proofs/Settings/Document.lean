import BoardLink.Settings.Stored
import BoardLink.Proofs.Toml.Document

-- Settings that are written as a document and read again stay the same.
namespace BoardLink

@[simp] theorem SettingsKey.ofName?_name (key : SettingsKey) : ofName? key.name = some key := by
  cases key <;> decide

theorem SettingsKey.name_of_ofName? {name : String} {key : SettingsKey}
    (h : ofName? name = some key) : key.name = name := by
  simpa [ofName?] using List.find?_some h

theorem SettingsKey.bare_name (key : SettingsKey) : Toml.Bare key.name.toList := by
  have hchars : key.name.toList.all Toml.isBareKey = true := by cases key <;> decide
  have hne : key.name.toList ≠ [] := by cases key <;> decide
  exact ⟨hne, List.all_eq_true.mp hchars⟩

theorem SettingsKey.nodup_names : (all.map name).Nodup := by decide

@[simp] theorem BatteryConvention.ofName?_name (convention : BatteryConvention) :
    ofName? convention.name = some convention := by
  cases convention <;> decide

namespace Settings

open Text Toml

-- The lines of a document, with what is read from each of them.
def lines (settings : Settings) : List PlainLine :=
  (settings.endpoint.map (.ofText _ SettingsKey.endpoint.bare_name)).toList ++
  (settings.timeoutMs.map fun ms =>
    .ofNumber _ SettingsKey.timeoutMs.bare_name ms.toNat
      (Nat.le_of_lt_succ ms.toNat_lt)).toList ++
  (settings.battery.map fun convention =>
    .ofText _ SettingsKey.battery.bare_name convention.name).toList

theorem flatMap_text_toList {α : Type} (key : SettingsKey) (value : Option α)
    (make : α → PlainLine) (written : α → List Char)
    (h : ∀ a, (make a).name = key.name ∧ (make a).value = written a) :
    (value.map make).toList.flatMap PlainLine.text = line key (value.map written) := by
  cases value with
  | none => rfl
  | some a => simp [line, PlainLine.text, h a]

theorem document_eq_lines (settings : Settings) :
    settings.document = String.ofList (settings.lines.flatMap PlainLine.text) := by
  simp only [lines, document, List.flatMap_append]
  rw [flatMap_text_toList .endpoint _ _ (fun endpoint => writeText endpoint.toList),
    flatMap_text_toList .timeoutMs _ _ (fun ms => Numeral.decimal ms.toNat),
    flatMap_text_toList .battery _ _ (fun convention => writeText convention.name.toList)]
  all_goals exact fun _ => ⟨rfl, rfl⟩

-- Open settings only leave lines out, so no key comes twice.
theorem nodup_lines (settings : Settings) : (settings.lines.map PlainLine.name).Nodup := by
  have hsub : (settings.lines.map PlainLine.name).Sublist
      (SettingsKey.all.map SettingsKey.name) := by
    obtain ⟨endpoint, timeoutMs, battery⟩ := settings
    cases endpoint <;> cases timeoutMs <;> cases battery <;>
      simp [lines, PlainLine.ofText, PlainLine.ofNumber, SettingsKey.all]
  exact hsub.nodup SettingsKey.nodup_names

theorem foldlM_lines (settings : Settings) :
    (settings.lines.map PlainLine.entry).foldlM ofEntry? ⟨none, none, none⟩ = some settings := by
  obtain ⟨endpoint, timeoutMs, battery⟩ := settings
  cases endpoint <;> cases timeoutMs <;> cases battery <;>
    simp [lines, PlainLine.ofText, PlainLine.ofNumber, PlainLine.entry, ofEntry?, conventionOf?]

theorem parse?_document (settings : Settings) : parse? settings.document = some settings := by
  rw [parse?, document_eq_lines, read_plain _ settings.nodup_lines]
  exact settings.foldlM_lines

end Settings
end BoardLink

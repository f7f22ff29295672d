import BoardLink.CommandLine.Run
import BoardLink.Proofs.Files.Writing
import BoardLink.Proofs.Settings.Document
import BoardLink.Proofs.Text.Numerals

-- A request to change one setting changes that setting in the file, or no file at all.
namespace BoardLink.Settings

open Text FileTree

variable {path : FilePath} {key value : String} {settings updated : Settings} {host : Host}

section Values

-- One field takes over what a text stands for. The others stay.
inductive Replaces (settings : Settings) (value : String) : SettingsKey → Settings → Prop where
  | endpoint : Replaces settings value .endpoint { settings with endpoint := some value }
  | timeoutMs {ms : UInt64} (reads : Numeral.read 10 maxTimeout value.toList = .ok ms.toNat)
    (nonzero : ms ≠ 0) :
    Replaces settings value .timeoutMs { settings with timeoutMs := some ms }
  | battery {convention : BatteryConvention}
    (reads : BatteryConvention.ofText value = .ok convention) :
    Replaces settings value .battery { settings with battery := some convention }

-- Why a text is no value for a key.
inductive Rejects (value : String) : (key : String) → SettingsError → Prop where
  | unknownKey {key : String} (unknown : ∀ known : SettingsKey, known.name ≠ key) :
    Rejects value key (.unknownKey key)
  | invalidTimeout {fault : NumeralError}
    (reads : Numeral.read 10 maxTimeout value.toList = .error fault) :
    Rejects value SettingsKey.timeoutMs.name (.invalidTimeout value fault)
  | zeroTimeout (reads : Numeral.read 10 maxTimeout value.toList = .ok 0) :
    Rejects value SettingsKey.timeoutMs.name .zeroTimeout
  | invalidConvention {fault : ProtocolError}
    (reads : BatteryConvention.ofText value = .error fault) :
    Rejects value SettingsKey.battery.name (.invalidConvention value)

-- One setting is replaced, or the text will not do and all settings stay as they were.
theorem set_cases (settings : Settings) (key value : String) :
    (∃ (known : SettingsKey) (updated : Settings), known.name = key ∧
        Replaces settings value known updated ∧ settings.set key value = (.ok (), updated)) ∨
      ∃ error, Rejects value key error ∧
        settings.set key value = (.error error, settings) := by
  unfold set
  split
  · rename_i hname
    refine .inr ⟨_, .unknownKey fun known hknown => ?_, rfl⟩
    rw [← hknown, SettingsKey.ofName?_name] at hname
    cases hname
  · rename_i hname
    exact .inl ⟨.endpoint, _, SettingsKey.name_of_ofName? hname, .endpoint, rfl⟩
  · rename_i hname
    obtain rfl := SettingsKey.name_of_ofName? hname
    split
    · rename_i fault hread
      exact .inr ⟨_, .invalidTimeout hread, rfl⟩
    · rename_i hread
      exact .inr ⟨_, .zeroTimeout hread, rfl⟩
    · rename_i ms hzero hread
      have hle : ms ≤ maxTimeout := Numeral.le_of_read hread
      have hsame : (UInt64.ofNat ms).toNat = ms :=
        UInt64.toNat_ofNat_of_lt (Nat.lt_of_le_of_lt hle (by decide))
      have hnonzero : UInt64.ofNat ms ≠ 0 := fun hnull => hzero (by simpa [hnull] using hsame.symm)
      exact .inl ⟨.timeoutMs, _, rfl, .timeoutMs (by rw [hsame, hread]) hnonzero, rfl⟩
  · rename_i hname
    obtain rfl := SettingsKey.name_of_ofName? hname
    split
    · rename_i fault hread
      exact .inr ⟨_, .invalidConvention hread, rfl⟩
    · rename_i convention hread
      exact .inl ⟨.battery, _, rfl, .battery hread, rfl⟩

theorem replaces_of_set (h : settings.set key value = (.ok (), updated)) :
    ∃ known : SettingsKey, known.name = key ∧ Replaces settings value known updated := by
  rcases set_cases settings key value with
    ⟨known, changed, hname, hreplaces, hset⟩ | ⟨error, -, hset⟩
  · rw [hset] at h
    cases h
    exact ⟨known, hname, hreplaces⟩
  · rw [hset] at h
    cases h

theorem eq_of_set_error {error : SettingsError}
    (h : settings.set key value = (.error error, updated)) : updated = settings := by
  rcases set_cases settings key value with ⟨known, changed, -, -, hset⟩ | ⟨fault, -, hset⟩
  · rw [hset] at h
    cases h
  · rw [hset] at h
    cases h
    rfl

end Values

section Files

-- Why no settings come from a file.
inductive Unloadable (path : FilePath) (files : FileTree) : StoreError → Prop where
  | unreadable {cause : FileError} (present : files.exists? path = true)
    (reads : files.readText path = .error cause) : Unloadable path files (.read path cause)
  | malformed {content : String} (present : files.exists? path = true)
    (reads : files.readText path = .ok content) (invalid : parse? content = none) :
    Unloadable path files (.malformed path)

-- The directories above a file, or what kept one of them from being made.
def makeParents (path : FilePath) (files : FileTree) : Except FileError Unit × FileTree :=
  match path.parent? with
  | some parent => files.makeDirectories parent
  | none => (.ok (), files)

-- Why a text does not get into a file.
inductive Unwritable (path : FilePath) (text : String) (files : FileTree) : StoreError → Prop where
  | noDirectory {cause : FileError} {made : FileTree}
    (makes : makeParents path files = (.error cause, made)) :
    Unwritable path text files (.makeDirectory cause)
  | noFile {cause : FileError} {made : FileTree} (makes : makeParents path files = (.ok (), made))
    (writes : made.writeText path text = .error cause) :
    Unwritable path text files (.write path cause)

theorem unloadable_of_load {cause : StoreError} {after : Host}
    (h : load path host = (.error cause, after)) :
    Unloadable path host.files cause ∧ after = host := by
  unfold load at h
  split at h
  · rename_i hpresent
    split at h
    · rename_i fault hread
      cases h
      exact ⟨.unreadable hpresent hread, rfl⟩
    · rename_i content hread
      split at h
      · rename_i hinvalid
        cases h
        exact ⟨.malformed hpresent hread hinvalid, rfl⟩
      · cases h
  · cases h

-- Loading leaves a line in the log and nothing else.
theorem load_keeps (path : FilePath) (host : Host) :
    (load path host).2.files = host.files ∧ (load path host).2.server = host.server := by
  unfold load
  split
  · split
    · exact ⟨rfl, rfl⟩
    · split <;> exact ⟨rfl, rfl⟩
  · exact ⟨rfl, rfl⟩

theorem load_of_readText {text : String} (hpresent : host.files.exists? path = true)
    (hread : host.files.readText path = .ok text) (hparse : parse? text = some settings) :
    (load path host).1 = .ok settings := by
  simp [load, hpresent, hread, hparse]

theorem save_eq (settings : Settings) (path : FilePath) (files : FileTree) :
    settings.save path files =
      match makeParents path files with
      | (.error cause, made) => (.error (.makeDirectory cause), made)
      | (.ok (), made) =>
        match made.writeText path settings.document with
        | .error cause => (.error (.write path cause), made)
        | .ok after => (.ok (), after) := by
  unfold save makeParents
  cases path.parent? with
  | none => rfl
  | some parent =>
      dsimp only
      cases files.makeDirectories parent with
      | mk outcome made => cases outcome <;> rfl

theorem onlyDirectories_makeParents (path : FilePath) (files : FileTree) :
    OnlyDirectories files (makeParents path files).2 := by
  unfold makeParents
  split
  · exact onlyDirectories_makeDirectories files _
  · exact .refl files

-- The directories stay if the file cannot be written.
theorem save_cases (settings : Settings) (path : FilePath) (files : FileTree) :
    (∃ cause after, settings.save path files = (.error cause, after) ∧
      OnlyDirectories files after ∧ Unwritable path settings.document files cause) ∨
    ∃ made after, settings.save path files = (.ok (), after) ∧
      OnlyDirectories files made ∧ made.writeText path settings.document = .ok after := by
  have hgrown := onlyDirectories_makeParents path files
  rw [save_eq]
  cases hmake : makeParents path files with
  | mk outcome made =>
      rw [hmake] at hgrown
      cases outcome with
      | error cause => exact .inl ⟨_, made, rfl, hgrown, .noDirectory hmake⟩
      | ok _ =>
          cases hwrite : made.writeText path settings.document with
          | error cause => exact .inl ⟨_, made, by simp [hwrite], hgrown, .noFile hmake hwrite⟩
          | ok after => exact .inr ⟨made, after, by simp [hwrite], hgrown, hwrite⟩

end Files

-- How a request to change one setting ends, and what the files are then.
inductive Change (path : FilePath) (key value : String) (host : Host) : Report × Host → Prop where
  | unloaded {cause : StoreError} (fault : Unloadable path host.files cause) :
    Change path key value host (.failure (.store cause), host)
  | rejected {settings : Settings} {error : SettingsError} {after : Host}
    (loaded : (load path host).1 = .ok settings) (fault : Rejects value key error)
    (files : after.files = host.files) :
    Change path key value host (.failure (.settings error), after)
  | unsaved {settings updated : Settings} {known : SettingsKey} {cause : StoreError} {after : Host}
    (loaded : (load path host).1 = .ok settings) (named : known.name = key)
    (replaced : Replaces settings value known updated)
    (fault : Unwritable path updated.document host.files cause)
    (files : OnlyDirectories host.files after.files)
    (kept : ∀ content, host.files.readBytes path = .ok content →
      after.files.readBytes path = .ok content) :
    Change path key value host (.failure (.store cause), after)
  | saved {settings updated : Settings} {known : SettingsKey} {after : Host}
    (loaded : (load path host).1 = .ok settings) (named : known.name = key)
    (replaced : Replaces settings value known updated)
    (reloaded : (load path after).1 = .ok updated)
    (files : ∃ made place, OnlyDirectories host.files made ∧
      after.files = made.put place (.file (Utf8.encode updated.document.toList))) :
    Change path key value host (.success ["✅ " ++ key ++ " = " ++ value], after)

theorem change_setSetting (path : FilePath) (key value : String) (host : Host) :
    Change path key value host (Run.setSetting path key value host) ∧
      (Run.setSetting path key value host).2.server = host.server := by
  obtain ⟨hfiles, hserver⟩ := load_keeps path host
  unfold Run.setSetting
  cases hload : load path host with
  | mk outcome after =>
      rw [hload] at hfiles hserver
      cases outcome with
      | error cause =>
          obtain ⟨hfault, rfl⟩ := unloadable_of_load hload
          exact ⟨.unloaded hfault, rfl⟩
      | ok settings =>
          have hloaded : (load path host).1 = .ok settings := by rw [hload]
          rcases set_cases settings key value with
            ⟨known, updated, hnamed, hreplaced, hset⟩ | ⟨error, hrejects, hset⟩
          · simp only at hfiles
            simp only [hset]
            rcases save_cases updated path after.files with
              ⟨cause, files, hsave, hgrown, hfault⟩ | ⟨made, files, hsave, hgrown, hwrite⟩
            · rw [hfiles] at hgrown hfault
              simp only [hsave]
              exact ⟨.unsaved hloaded hnamed hreplaced hfault hgrown fun _ => hgrown.readBytes,
                hserver⟩
            · rw [hfiles] at hgrown
              simp only [hsave]
              obtain ⟨place, -, -, -, -, hput⟩ := exists_put_of_write hwrite
              refine ⟨.saved hloaded hnamed hreplaced ?_ ⟨made, place, hgrown, hput⟩, hserver⟩
              exact load_of_readText (exists?_writeText hwrite) (readText_writeText hwrite)
                updated.parse?_document
          · simp only [hset]
            exact ⟨.rejected hloaded hrejects hfiles, hserver⟩

-- Whatever is in the settings file, and whatever key and value are asked for. The board is left out
-- of it.
theorem setting_changes_alone_or_not_at_all (environment : Environment) (now : LocalTime)
    (options : Options) (key value : String) (host : Host) :
    ∃ report after,
      Run.invocation environment now options (.setSetting key value) host = (report, after) ∧
      after.server = host.server ∧
      match environment.settingsPath options with
      | .error failure => report = .failure failure ∧ after = host
      | .ok path => Change path key value host (report, after) := by
  simp only [Run.invocation, Run.withPath]
  cases environment.settingsPath options with
  | error failure => exact ⟨_, _, rfl, rfl, rfl, rfl⟩
  | ok path =>
      obtain ⟨hchange, hserver⟩ := change_setSetting path key value host
      exact ⟨_, _, rfl, hserver, hchange⟩

end BoardLink.Settings

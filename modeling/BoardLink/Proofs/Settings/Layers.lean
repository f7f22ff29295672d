import BoardLink.CommandLine.Environment
import BoardLink.Proofs.Settings.Saving

-- Settings lie in layers: the file at the bottom, the variable of the environment over it, and the
-- command line on top. The highest layer that gives a setting decides it, whatever lies below.
namespace BoardLink.Settings

section FirstGiven

variable {α : Type} {layers others : List (Option α)} {value other : Option α}

-- The value of the first layer that gives one, from the top.
inductive FirstGiven : List (Option α) → Option α → Prop where
  | nowhere : FirstGiven [] none
  | given {value : α} {rest : List (Option α)} : FirstGiven (some value :: rest) (some value)
  | left {rest : List (Option α)} {value : Option α} (lower : FirstGiven rest value) :
      FirstGiven (none :: rest) value

-- Layers that are the same down to the first one that gives a value.
inductive SameOnTop : List (Option α) → List (Option α) → Prop where
  | nowhere : SameOnTop [] []
  | given {value : α} {rest others : List (Option α)} :
      SameOnTop (some value :: rest) (some value :: others)
  | left {rest others : List (Option α)} (lower : SameOnTop rest others) :
      SameOnTop (none :: rest) (none :: others)

theorem FirstGiven.unique (h : FirstGiven layers value) (ho : FirstGiven layers other) :
    value = other := by
  induction h with
  | nowhere =>
      cases ho
      rfl
  | given =>
      cases ho
      rfl
  | left _ ih =>
      cases ho with
      | left lower => exact ih lower

theorem FirstGiven.of_sameOnTop (h : FirstGiven layers value) (hsame : SameOnTop layers others) :
    FirstGiven others value := by
  induction hsame with
  | nowhere => exact h
  | given =>
      cases h
      exact .given
  | left _ ih =>
      cases h with
      | left lower => exact .left (ih lower)

theorem FirstGiven.over (h : FirstGiven layers value) (upper : Option α) :
    FirstGiven (upper :: layers) (upper <|> value) := by
  cases upper with
  | none => exact .left h
  | some _ => exact .given

theorem FirstGiven.under (h : FirstGiven layers value) (lower : Option α) :
    FirstGiven (layers ++ [lower]) (value <|> lower) := by
  induction h with
  | nowhere =>
      cases lower with
      | none => exact .left .nowhere
      | some _ => exact .given
  | given => exact .given
  | left _ ih => exact .left ih

end FirstGiven

section Merged

variable {layers others : List Settings} {settings merged : Settings}

-- Each setting is decided by itself.
structure Merged (layers : List Settings) (settings : Settings) : Prop where
  endpoint : FirstGiven (layers.map Settings.endpoint) settings.endpoint
  timeoutMs : FirstGiven (layers.map Settings.timeoutMs) settings.timeoutMs
  battery : FirstGiven (layers.map Settings.battery) settings.battery

structure AlikeOnTop (layers others : List Settings) : Prop where
  endpoint : SameOnTop (layers.map Settings.endpoint) (others.map Settings.endpoint)
  timeoutMs : SameOnTop (layers.map Settings.timeoutMs) (others.map Settings.timeoutMs)
  battery : SameOnTop (layers.map Settings.battery) (others.map Settings.battery)

-- The variable of the environment says nothing if it is empty, and names an endpoint otherwise.
def ofVariable (value : Option String) : Settings := ⟨value.filter (· ≠ ""), none, none⟩

-- What is used for settings that are left open everywhere.
def builtIn : Settings :=
  ⟨some "/dev/socket/iosocket", some 1000, some .payloadNonZero⟩

theorem Merged.unique (h : Merged layers settings) (hm : Merged layers merged) :
    settings = merged := by
  obtain ⟨endpoint, timeoutMs, battery⟩ := settings
  obtain ⟨other, otherMs, otherBattery⟩ := merged
  obtain rfl : endpoint = other := h.endpoint.unique hm.endpoint
  obtain rfl : timeoutMs = otherMs := h.timeoutMs.unique hm.timeoutMs
  obtain rfl : battery = otherBattery := h.battery.unique hm.battery
  rfl

theorem Merged.of_alikeOnTop (h : Merged layers settings) (halike : AlikeOnTop layers others) :
    Merged others settings where
  endpoint := h.endpoint.of_sameOnTop halike.endpoint
  timeoutMs := h.timeoutMs.of_sameOnTop halike.timeoutMs
  battery := h.battery.of_sameOnTop halike.battery

theorem merged_nothing : Merged [] ⟨none, none, none⟩ := ⟨.nowhere, .nowhere, .nowhere⟩

theorem Merged.over (h : Merged layers settings) (upper : Settings) :
    Merged (upper :: layers) (settings.override upper) where
  endpoint := h.endpoint.over upper.endpoint
  timeoutMs := h.timeoutMs.over upper.timeoutMs
  battery := h.battery.over upper.battery

theorem Merged.under (h : Merged layers settings) (lower : Settings) :
    Merged (layers ++ [lower]) (lower.override settings) := by
  constructor <;> rw [List.map_append]
  · exact h.endpoint.under lower.endpoint
  · exact h.timeoutMs.under lower.timeoutMs
  · exact h.battery.under lower.battery

theorem merged_single (settings : Settings) : Merged [settings] settings := by
  have hempty : settings.override ⟨none, none, none⟩ = settings := rfl
  rw [← hempty]
  exact merged_nothing.under settings

theorem applyEnvironment_eq (settings : Settings) (value : Option String) :
    settings.applyEnvironment value = settings.override (ofVariable value) := by
  cases value with
  | none => rfl
  | some endpoint =>
      by_cases hempty : endpoint = "" <;>
        simp [applyEnvironment, override, ofVariable, Option.filter, hempty]

end Merged

section Files

variable {path : FilePath} {files : FileTree} {stored : Settings}

-- A file that can be read, and means these settings.
def Holds (files : FileTree) (path : FilePath) (settings : Settings) : Prop :=
  ∃ content, files.readText path = .ok content ∧ parse? content = some settings

-- The settings that a path stands for. A file that is not there leaves everything open.
inductive Stored (path : FilePath) (files : FileTree) : Settings → Prop where
  | absent (missing : files.exists? path = false) : Stored path files ⟨none, none, none⟩
  | present {settings : Settings} (holds : Holds files path settings) : Stored path files settings

theorem load_of_stored {host : Host} (h : Stored path host.files stored) :
    ∃ after, load path host = (.ok stored, after) := by
  cases h with
  | absent missing =>
      simp only [load, missing, Bool.false_eq_true, if_false]
      exact ⟨_, rfl⟩
  | present holds =>
      obtain ⟨content, hread, hparse⟩ := holds
      have hpresent := FileTree.exists?_of_readText hread
      simp only [load, hpresent, if_true, hread, hparse]
      exact ⟨_, rfl⟩

theorem stored_or_unloadable (path : FilePath) (files : FileTree) :
    (∃ stored, Stored path files stored) ∨
      files.exists? path = true ∧ ∀ stored, ¬ Holds files path stored := by
  cases hpresent : files.exists? path with
  | false => exact .inl ⟨_, .absent hpresent⟩
  | true =>
      by_cases hholds : ∃ stored, Holds files path stored
      · obtain ⟨stored, hholds⟩ := hholds
        exact .inl ⟨stored, .present hholds⟩
      · exact .inr ⟨rfl, fun stored h => hholds ⟨stored, h⟩⟩

theorem load_of_unloadable {host : Host} (hpresent : host.files.exists? path = true)
    (hnothing : ∀ stored, ¬ Holds host.files path stored) :
    ∃ cause, load path host = (.error cause, host) := by
  simp only [load, hpresent, if_true]
  cases hread : host.files.readText path with
  | error cause => exact ⟨_, rfl⟩
  | ok content =>
      cases hparse : parse? content with
      | none => exact ⟨.malformed path, by simp only [hparse]⟩
      | some stored => exact absurd ⟨content, hread, hparse⟩ (hnothing stored)

end Files

section Reached

variable {environment : Environment} {options : Options} {path : FilePath} {host : Host}
  {stored settings : Settings}

theorem loadEnvironment_fst (settings : Settings) (value : Option String) (host : Host) :
    (settings.loadEnvironment value host).1 = settings.applyEnvironment value := by
  unfold loadEnvironment
  split <;> rfl

theorem settings_of_stored (hpath : environment.settingsPath options = .ok path)
    (h : Stored path host.files stored) :
    ∃ settings, (environment.settings options host).1 = .ok settings ∧
      Merged [options.settings, ofVariable environment.endpoint, stored] settings := by
  obtain ⟨after, hload⟩ := load_of_stored h
  refine ⟨(stored.override (ofVariable environment.endpoint)).override options.settings, ?_,
    ((merged_single stored).over _).over _⟩
  simp only [Environment.settings, hpath, hload, loadEnvironment_fst, applyEnvironment_eq]

theorem settings_of_unloadable (hpath : environment.settingsPath options = .ok path)
    (hpresent : host.files.exists? path = true)
    (hnothing : ∀ stored, ¬ Holds host.files path stored) :
    ∃ failure, (environment.settings options host).1 = .error failure := by
  obtain ⟨cause, hload⟩ := load_of_unloadable hpresent hnothing
  exact ⟨.store cause, by simp only [Environment.settings, hpath, hload]⟩

theorem reach_of_failure {failure : Failure}
    (h : (environment.settings options host).1 = .error failure) :
    (environment.reach options host).1 = .error failure := by
  obtain ⟨after, hsettings⟩ : ∃ after,
      environment.settings options host = (.error failure, after) := ⟨_, Prod.ext h rfl⟩
  simp only [Environment.reach, hsettings]

-- The way to the board is looked at when all layers are merged, and not before.
theorem reach_of_settings (h : (environment.settings options host).1 = .ok settings) :
    (environment.reach options host).1 = (Reach.ofSettings settings).check.mapError .reach := by
  obtain ⟨after, hsettings⟩ : ∃ after, environment.settings options host = (.ok settings, after) :=
    ⟨_, Prod.ext h rfl⟩
  simp only [Environment.reach, hsettings, Reach.build]
  cases (Reach.ofSettings settings).check <;> rfl

theorem ofSettings_of_merged {layers : List Settings} (hmerged : Merged layers settings) :
    ∃ endpoint ms battery,
      Merged (layers ++ [builtIn]) ⟨some endpoint, some ms, some battery⟩ ∧
      Reach.ofSettings settings = ⟨endpoint, some ms, battery⟩ := by
  refine ⟨settings.endpoint.getD Reach.defaultEndpoint,
    settings.timeoutMs.getD Reach.defaultTimeoutMs, settings.battery.getD .payloadNonZero, ?_, rfl⟩
  have hfull := hmerged.under builtIn
  obtain ⟨endpoint, timeoutMs, battery⟩ := settings
  cases endpoint <;> cases timeoutMs <;> cases battery <;> exact hfull

theorem check_of_bad (reach : Reach) (h : reach.endpoint = "" ∨ reach.timeoutMs = some 0) :
    ∃ error, reach.check = .error error := by
  unfold Reach.check
  by_cases hendpoint : reach.endpoint = ""
  · exact ⟨_, if_pos hendpoint⟩
  · rw [if_neg hendpoint, if_pos (h.resolve_left hendpoint)]
    exact ⟨_, rfl⟩

theorem check_of_good (reach : Reach) (h : ¬ (reach.endpoint = "" ∨ reach.timeoutMs = some 0)) :
    reach.check = .ok reach := by
  rw [Reach.check, if_neg fun hendpoint => h (.inl hendpoint),
    if_neg fun htimeout => h (.inr htimeout)]

theorem settings_fail_iff (hpath : environment.settingsPath options = .ok path) :
    (∃ failure, (environment.settings options host).1 = .error failure) ↔
      host.files.exists? path = true ∧ ∀ stored, ¬ Holds host.files path stored := by
  constructor
  · rintro ⟨failure, hfailure⟩
    refine (stored_or_unloadable path host.files).resolve_left ?_
    rintro ⟨stored, hstored⟩
    obtain ⟨settings, hsettings, -⟩ := settings_of_stored hpath hstored
    rw [hsettings] at hfailure
    cases hfailure
  · rintro ⟨hpresent, hnothing⟩
    exact settings_of_unloadable hpath hpresent hnothing

-- The way that comes of merged layers has no gaps, and it is taken unless something is bad.
theorem reach_of_merged {layers : List Settings} (hmerged : Merged layers settings)
    (hsettings : (environment.settings options host).1 = .ok settings) :
    ∃ endpoint ms battery,
      Merged (layers ++ [builtIn]) ⟨some endpoint, some ms, some battery⟩ ∧
      (endpoint = "" ∨ ms = 0 → ∃ failure, (environment.reach options host).1 = .error failure) ∧
      (¬ (endpoint = "" ∨ ms = 0) →
        (environment.reach options host).1 = .ok ⟨endpoint, some ms, battery⟩) := by
  obtain ⟨endpoint, ms, battery, hfull, hreach⟩ := ofSettings_of_merged hmerged
  have hway := reach_of_settings hsettings
  rw [hreach] at hway
  refine ⟨endpoint, ms, battery, hfull, fun hbad => ?_, fun hgood => ?_⟩
  · obtain ⟨error, herror⟩ := check_of_bad ⟨endpoint, some ms, battery⟩
      (hbad.imp_right (congrArg some))
    exact ⟨.reach error, by rw [hway, herror]; rfl⟩
  · have hcheck := check_of_good ⟨endpoint, some ms, battery⟩
      fun hbad => hgood (hbad.imp_right Option.some.inj)
    rw [hway, hcheck]
    rfl

-- Layers that are the same on top come to the same settings, and so to the same way.
theorem settings_of_alike {layers : List Settings} (hmerged : Merged layers settings)
    (hpath : environment.settingsPath options = .ok path) (hstored : Stored path host.files stored)
    (halike : AlikeOnTop layers [options.settings, ofVariable environment.endpoint, stored]) :
    (environment.settings options host).1 = .ok settings := by
  obtain ⟨found, hfound, hothers⟩ := settings_of_stored hpath hstored
  obtain rfl : found = settings := hothers.unique (hmerged.of_alikeOnTop halike)
  exact hfound

end Reached

-- For every file that the command line names, every variable and all other options. Nothing but an
-- unreadable file keeps the layers from being merged, and nothing but a bad value on top keeps the
-- board from being reached. What lies below a value makes no difference.
theorem top_layer_decides (environment : Environment) (path : FilePath) (flags : Settings)
    (json : Bool) (host : Host) :
    ((∃ failure, (environment.settings ⟨some path, flags, json⟩ host).1 = .error failure) ↔
        host.files.exists? path = true ∧ ∀ stored, ¬ Holds host.files path stored) ∧
      (∀ failure, (environment.settings ⟨some path, flags, json⟩ host).1 = .error failure →
        (environment.reach ⟨some path, flags, json⟩ host).1 = .error failure) ∧
      ∀ stored, Stored path host.files stored →
        ∃ settings endpoint ms battery,
          (environment.settings ⟨some path, flags, json⟩ host).1 = .ok settings ∧
          Merged [flags, ofVariable environment.endpoint, stored] settings ∧
          Merged [flags, ofVariable environment.endpoint, stored, builtIn]
            ⟨some endpoint, some ms, some battery⟩ ∧
          (endpoint = "" ∨ ms = 0 →
            ∃ failure, (environment.reach ⟨some path, flags, json⟩ host).1 = .error failure) ∧
          (¬ (endpoint = "" ∨ ms = 0) →
            (environment.reach ⟨some path, flags, json⟩ host).1 =
              .ok ⟨endpoint, some ms, battery⟩) ∧
          ∀ (other : Environment) (place : FilePath) (asked : Settings) (shown : Bool)
            (there : Host) (below : Settings), Stored place there.files below →
            AlikeOnTop [flags, ofVariable environment.endpoint, stored]
              [asked, ofVariable other.endpoint, below] →
            (other.settings ⟨some place, asked, shown⟩ there).1 = .ok settings ∧
              (other.reach ⟨some place, asked, shown⟩ there).1 =
                (environment.reach ⟨some path, flags, json⟩ host).1 := by
  have hnamed : ∀ {environment : Environment} {path flags json},
      environment.settingsPath ⟨some path, flags, json⟩ = .ok path := rfl
  refine ⟨settings_fail_iff hnamed, fun failure => reach_of_failure, fun stored hstored => ?_⟩
  obtain ⟨settings, hsettings, hmerged⟩ := settings_of_stored hnamed hstored
  obtain ⟨endpoint, ms, battery, hfull, hbad, hgood⟩ := reach_of_merged hmerged hsettings
  refine ⟨settings, endpoint, ms, battery, hsettings, hmerged, hfull, hbad, hgood, ?_⟩
  intro other place asked shown there below hbelow halike
  have hsame : (other.settings ⟨some place, asked, shown⟩ there).1 = .ok settings :=
    settings_of_alike hmerged hnamed hbelow halike
  exact ⟨hsame, (reach_of_settings hsame).trans (reach_of_settings hsettings).symm⟩

end BoardLink.Settings

import BoardLink.Proofs.Json.Records
import BoardLink.Proofs.Json.Unambiguous
import BoardLink.Proofs.Lookup
import BoardLink.Proofs.Settings.Document

-- The JSON forms of values are read back as the values that were written. Records are read in both
-- their shapes, settings have no keys but their own, and no number is cut to the width of a field.
namespace BoardLink.Json

variable {α : Type} {write : α → JsonValue} {read? : JsonValue → Option α}
  {fields : α → List Field} {limits : List Field} {value json : JsonValue} {bound n : Nat}

-- The text of a value stands for what was written and for nothing else, and this is read back.
def ComesBack (write : α → JsonValue) (read? : JsonValue → Option α) : Prop :=
  ∀ a, (∀ json, JsonText.Denotes (write a).render.toList json ↔ json = write a) ∧
    read? (write a) = some a

def Refuses (bad : JsonValue → Prop) (read? : JsonValue → Option α) : Prop :=
  ∀ json, bad json → read? json = none

-- A record comes back, is read from both its shapes and from no other value, and is refused as a
-- whole for what stands at one field.
structure PlainRecord (write : α → JsonValue) (read? : JsonValue → Option α)
    (fields : α → List Field) (limits : List Field) : Prop where
  comesBack : ComesBack write read?
  shapes : ∀ a json, read? json = some a ↔ RecordOf (fields a) json
  strict : Refuses (SomeOf limits) read?

theorem comesBack_of_read (h : ∀ a, read? (write a) = some a) : ComesBack write read? :=
  fun a => ⟨JsonText.denotes_render_iff (write a), h a⟩

theorem recordOf_object {fields : List Field} {entries : List (String × JsonValue)}
    (each : List.Forall₂ (fun field entry => entry.1 = field.1 ∧ field.2 entry.2) fields entries) :
    RecordOf fields (.object entries) :=
  .object (.of_eq (List.append_nil entries).symm) each nofun

theorem plainRecord_of_shapes (shapes : ∀ a json, read? json = some a ↔ RecordOf (fields a) json)
    (hwrite : ∀ a, RecordOf (fields a) (write a)) (hnodup : ∀ a, (keys (fields a)).Nodup)
    (hapart : ∀ a, Apart (fields a) limits) : PlainRecord write read? fields limits where
  comesBack := comesBack_of_read fun a => (shapes a _).mpr (hwrite a)
  shapes := shapes
  strict := by
    intro json hbad
    rw [Option.eq_none_iff_forall_ne_some]
    intro a hread
    exact ((shapes a json).mp hread).not_someOf (hnodup a) (hapart a) hbad

theorem PlainRecord.apart (h : PlainRecord write read? fields limits) (a : α) (item : JsonValue)
    (hitem : RecordOf (fields a) item) : ¬ SomeOf limits item := by
  intro hbad
  have hnone := h.strict item hbad
  rw [(h.shapes a item).mpr hitem] at hnone
  cases hnone

theorem PlainRecord.recordOf (h : PlainRecord write read? fields limits) (a : α) :
    RecordOf (fields a) (write a) :=
  (h.shapes a _).mp (h.comesBack a).2

section Numbers

def IsNumber (n : Nat) (value : JsonValue) : Prop := value = .integer n

-- The numbers that an unsigned field with the given bound cannot hold.
inductive Outside (bound : Nat) : JsonValue → Prop where
  | negative {n : Int} (h : n < 0) : Outside bound (.integer n)
  | large {n : Int} (h : bound < n) : Outside bound (.integer n)
  | decimal : Outside bound .decimal

theorem natural?_eq_some_iff : natural? bound value = some n ↔ IsNumber n value ∧ n ≤ bound := by
  unfold natural? IsNumber
  split
  · rename_i m
    simp only [Option.ite_none_right_eq_some, Option.some.injEq, JsonValue.integer.injEq,
      Int.ofNat_eq_natCast]
    omega
  · rename_i hne
    simp only [reduceCtorEq, false_iff, not_and]
    rintro rfl
    exact absurd rfl (hne n)

theorem natural?_of_outside (h : Outside bound value) : natural? bound value = none := by
  rw [Option.eq_none_iff_forall_ne_some]
  intro n hread
  obtain ⟨rfl, hle⟩ := natural?_eq_some_iff.mp hread
  cases h <;> omega

theorem IsNumber.not_outside (h : IsNumber n value) (hle : n ≤ bound) : ¬ Outside bound value := by
  intro houtside
  have hnone := natural?_of_outside houtside
  rw [natural?_eq_some_iff.mpr ⟨h, hle⟩] at hnone
  cases hnone

-- A number that fits is read without a change, whatever type it is kept in.
theorem map_natural?_eq_some_iff {Word : Type} {ofNat : Nat → Word} {toNat : Word → Nat}
    {word : Word}
    (hword : toNat word ≤ bound) (hback : ofNat (toNat word) = word)
    (hkept : ∀ n, n ≤ bound → toNat (ofNat n) = n) :
    (natural? bound value).map ofNat = some word ↔ IsNumber (toNat word) value := by
  simp only [Option.map_eq_some_iff, natural?_eq_some_iff]
  constructor
  · rintro ⟨n, ⟨hnumber, hle⟩, rfl⟩
    rwa [hkept n hle]
  · exact fun h => ⟨toNat word, ⟨h, hword⟩, hback⟩

@[simp] theorem byte?_eq_some_iff {byte : UInt8} :
    byte? value = some byte ↔ IsNumber byte.toNat value :=
  map_natural?_eq_some_iff (Nat.le_of_lt_succ byte.toNat_lt) UInt8.ofNat_toNat fun n hle => by
    rw [UInt8.toNat_ofNat', Nat.mod_eq_of_lt (by omega)]

@[simp] theorem short?_eq_some_iff {short : UInt16} :
    short? value = some short ↔ IsNumber short.toNat value :=
  map_natural?_eq_some_iff (Nat.le_of_lt_succ short.toNat_lt) UInt16.ofNat_toNat fun n hle => by
    rw [UInt16.toNat_ofNat', Nat.mod_eq_of_lt (by omega)]

theorem long?_eq_some_iff {long : UInt64} :
    (natural? Settings.maxTimeout value).map UInt64.ofNat = some long ↔
      IsNumber long.toNat value :=
  map_natural?_eq_some_iff (Nat.le_of_lt_succ long.toNat_lt) UInt64.ofNat_toNat fun n hle => by
    have hlt : n < 2 ^ 64 := Nat.lt_succ_of_le hle
    rw [UInt64.toNat_ofNat', Nat.mod_eq_of_lt hlt]

theorem byte_apart (byte : UInt8) (item : JsonValue) (h : IsNumber byte.toNat item) :
    ¬ Outside 0xff item :=
  h.not_outside (Nat.le_of_lt_succ byte.toNat_lt)

theorem short_apart (short : UInt16) (item : JsonValue) (h : IsNumber short.toNat item) :
    ¬ Outside 0xffff item :=
  h.not_outside (Nat.le_of_lt_succ short.toNat_lt)

end Numbers

section Records

def colorFields (color : RgbColor) : List Field := [
  ("red", IsNumber color.red.toNat), ("green", IsNumber color.green.toNat),
  ("blue", IsNumber color.blue.toNat)]

def colorLimits : List Field := [
  ("red", Outside 0xff), ("green", Outside 0xff), ("blue", Outside 0xff)]

-- The colour of a lamp is a record of its own, again in either shape.
def ledFields (status : LedStatus) : List Field := [
  ("brightness", IsNumber status.brightness.toNat), ("color", RecordOf (colorFields status.color))]

def ledLimits : List Field := [("brightness", Outside 0xff), ("color", SomeOf colorLimits)]

def thresholdFields (threshold : PowerThreshold) : List Field := [
  ("wiggle_count", IsNumber threshold.wiggleCount.toNat),
  ("wiggle_count_sample_period_ms", IsNumber threshold.samplePeriodMs.toNat),
  ("ignition_threshold_mv", IsNumber threshold.ignitionMv.toNat)]

def thresholdLimits : List Field := [
  ("wiggle_count", Outside 0xffff), ("wiggle_count_sample_period_ms", Outside 0xffff),
  ("ignition_threshold_mv", Outside 0xffff)]

def calibrationFields (registers : CalibrationRegisters) : List Field := [
  ("digital", IsNumber registers.digital.toNat), ("analog", IsNumber registers.analog.toNat)]

def calibrationLimits : List Field := [("digital", Outside 0xff), ("analog", Outside 0xff)]

def timestampFields (time : Timestamp) : List Field := [
  ("year", IsNumber time.year.toNat), ("month", IsNumber time.month.toNat),
  ("day", IsNumber time.day.toNat), ("hour", IsNumber time.hour.toNat),
  ("minute", IsNumber time.minute.toNat), ("second", IsNumber time.second.toNat),
  ("fraction", IsNumber time.fraction.toNat)]

def timestampLimits : List Field := [
  ("year", Outside 0xffff), ("month", Outside 0xff), ("day", Outside 0xff), ("hour", Outside 0xff),
  ("minute", Outside 0xff), ("second", Outside 0xff), ("fraction", Outside 0xff)]

@[simp] theorem color?_eq_some_iff (color : RgbColor) (json : JsonValue) :
    color? json = some color ↔ RecordOf (colorFields color) json := by
  rw [recordOf_iff (by simp [colorFields])]
  obtain ⟨r, g, b⟩ := color
  simp only [color?, colorFields, keys_cons, keys_nil]
  rcases fields? ["red", "green", "blue"] json with _ | _ | ⟨red, _ | ⟨green, _ | ⟨blue, _ | _⟩⟩⟩
  all_goals simp [Option.bind_eq_some_iff]

theorem led?_eq_some_iff (status : LedStatus) (json : JsonValue) :
    led? json = some status ↔ RecordOf (ledFields status) json := by
  rw [recordOf_iff (by simp [ledFields])]
  obtain ⟨b, c⟩ := status
  simp only [led?, ledFields, keys_cons, keys_nil]
  rcases fields? ["brightness", "color"] json with _ | _ | ⟨brightness, _ | ⟨color, _ | _⟩⟩
  all_goals simp [Option.bind_eq_some_iff]

theorem threshold?_eq_some_iff (threshold : PowerThreshold) (json : JsonValue) :
    threshold? json = some threshold ↔ RecordOf (thresholdFields threshold) json := by
  rw [recordOf_iff (by simp [thresholdFields])]
  obtain ⟨c, p, i⟩ := threshold
  simp only [threshold?, thresholdFields, keys_cons, keys_nil]
  rcases fields? ["wiggle_count", "wiggle_count_sample_period_ms", "ignition_threshold_mv"] json
    with _ | _ | ⟨count, _ | ⟨period, _ | ⟨ignition, _ | _⟩⟩⟩
  all_goals simp [Option.bind_eq_some_iff]

theorem calibration?_eq_some_iff (registers : CalibrationRegisters) (json : JsonValue) :
    calibration? json = some registers ↔ RecordOf (calibrationFields registers) json := by
  rw [recordOf_iff (by simp [calibrationFields])]
  obtain ⟨d, a⟩ := registers
  simp only [calibration?, calibrationFields, keys_cons, keys_nil]
  rcases fields? ["digital", "analog"] json with _ | _ | ⟨digital, _ | ⟨analog, _ | _⟩⟩
  all_goals simp [Option.bind_eq_some_iff]

theorem timestamp?_eq_some_iff (time : Timestamp) (json : JsonValue) :
    timestamp? json = some time ↔ RecordOf (timestampFields time) json := by
  rw [recordOf_iff (by simp [timestampFields])]
  obtain ⟨y, mo, d, h, mi, s, f⟩ := time
  simp only [timestamp?, timestampFields, keys_cons, keys_nil]
  rcases fields? ["year", "month", "day", "hour", "minute", "second", "fraction"] json with _ | _ |
    ⟨year, _ | ⟨month, _ | ⟨day, _ | ⟨hour, _ | ⟨minute, _ | ⟨second, _ | ⟨fraction, _ | _⟩⟩⟩⟩⟩⟩⟩
  all_goals simp [Option.bind_eq_some_iff]

theorem plainRecord_color : PlainRecord ofColor color? colorFields colorLimits := by
  refine plainRecord_of_shapes color?_eq_some_iff (fun color => ?_) (fun color => ?_)
    fun color => ?_
  · exact recordOf_object (.cons ⟨rfl, rfl⟩ (.cons ⟨rfl, rfl⟩ (.cons ⟨rfl, rfl⟩ .nil)))
  · simp [colorFields]
  · exact .cons ⟨rfl, byte_apart _⟩ (.cons ⟨rfl, byte_apart _⟩ (.cons ⟨rfl, byte_apart _⟩ .nil))

theorem plainRecord_led : PlainRecord ofLed led? ledFields ledLimits := by
  refine plainRecord_of_shapes led?_eq_some_iff (fun status => ?_) (fun status => ?_)
    fun status => ?_
  · exact recordOf_object (.cons ⟨rfl, rfl⟩ (.cons ⟨rfl, plainRecord_color.recordOf _⟩ .nil))
  · simp [ledFields]
  · exact .cons ⟨rfl, byte_apart _⟩ (.cons ⟨rfl, plainRecord_color.apart _⟩ .nil)

theorem plainRecord_threshold :
    PlainRecord ofThreshold threshold? thresholdFields thresholdLimits := by
  refine plainRecord_of_shapes threshold?_eq_some_iff (fun threshold => ?_) (fun threshold => ?_)
    fun threshold => ?_
  · exact recordOf_object (.cons ⟨rfl, rfl⟩ (.cons ⟨rfl, rfl⟩ (.cons ⟨rfl, rfl⟩ .nil)))
  · simp [thresholdFields]
  · exact .cons ⟨rfl, short_apart _⟩ (.cons ⟨rfl, short_apart _⟩ (.cons ⟨rfl, short_apart _⟩ .nil))

theorem plainRecord_calibration :
    PlainRecord ofCalibration calibration? calibrationFields calibrationLimits := by
  refine plainRecord_of_shapes calibration?_eq_some_iff (fun registers => ?_) (fun registers => ?_)
    fun registers => ?_
  · exact recordOf_object (.cons ⟨rfl, rfl⟩ (.cons ⟨rfl, rfl⟩ .nil))
  · simp [calibrationFields]
  · exact .cons ⟨rfl, byte_apart _⟩ (.cons ⟨rfl, byte_apart _⟩ .nil)

theorem plainRecord_timestamp :
    PlainRecord ofTimestamp timestamp? timestampFields timestampLimits := by
  refine plainRecord_of_shapes timestamp?_eq_some_iff (fun time => ?_) (fun time => ?_)
    fun time => ?_
  · exact recordOf_object (.cons ⟨rfl, rfl⟩ (.cons ⟨rfl, rfl⟩ (.cons ⟨rfl, rfl⟩ (.cons ⟨rfl, rfl⟩
      (.cons ⟨rfl, rfl⟩ (.cons ⟨rfl, rfl⟩ (.cons ⟨rfl, rfl⟩ .nil)))))))
  · simp [timestampFields]
  · exact .cons ⟨rfl, short_apart _⟩ (.cons ⟨rfl, byte_apart _⟩ (.cons ⟨rfl, byte_apart _⟩
      (.cons ⟨rfl, byte_apart _⟩ (.cons ⟨rfl, byte_apart _⟩ (.cons ⟨rfl, byte_apart _⟩
        (.cons ⟨rfl, byte_apart _⟩ .nil))))))

end Records

section Names

theorem comesBack_opcode : ComesBack ofOpcode opcode? :=
  comesBack_of_read fun opcode => by cases opcode <;> rfl

theorem comesBack_health : ComesBack ofHealth health? :=
  comesBack_of_read fun health => by cases health <;> rfl

theorem comesBack_convention : ComesBack ofConvention convention? :=
  comesBack_of_read BatteryConvention.ofName?_name

end Names

section Versions

-- A list with a number that no byte can hold.
def WrongByte (json : JsonValue) : Prop :=
  ∃ items, json = .list items ∧ ∃ item ∈ items, Outside 0xff item

theorem comesBack_version : ComesBack ofVersion version? := by
  refine comesBack_of_read fun version => ?_
  have hbytes : (version.toBytes.map ofByte).mapM byte? = some version.toBytes := by
    rw [mapM_eq_some_iff, List.forall₂_map_left_iff, List.forall₂_same]
    exact fun byte _ => byte?_eq_some_iff.mpr rfl
  rw [ofVersion, version?, hbytes]
  rfl

theorem refuses_version : Refuses WrongByte version? := by
  rintro _ ⟨items, rfl, item, hmem, houtside⟩
  have hnone : items.mapM byte? = none := by
    rw [Option.eq_none_iff_forall_ne_some]
    intro bytes hread
    obtain ⟨byte, -, hbyte⟩ := exists_of_mem_right (mapM_eq_some_iff.mp hread).flip hmem
    exact byte_apart byte item (byte?_eq_some_iff.mp hbyte) houtside
  rw [version?, hnone]
  rfl

end Versions

section Settings

def settingsLimits : List Field := [
  ("endpoint", fun _ => False), ("timeout_ms", Outside Settings.maxTimeout),
  ("battery_convention", fun _ => False)]

-- An object with a key that is no setting's.
def UnknownKey (json : JsonValue) : Prop :=
  ∃ given : List (String × JsonValue), json = .object given ∧
    ∃ entry ∈ given, entry.1 ∉ ["endpoint", "timeout_ms", "battery_convention"]

theorem optional?_map {put : α → JsonValue} (hnull : ∀ a, put a ≠ .null)
    (hback : ∀ a, read? (put a) = some a) (setting : Option α) :
    optional? read? (setting.map put) = some setting := by
  cases setting with
  | none => rfl
  | some a =>
      have hread := hback a
      cases hput : put a with
      | null => exact absurd hput (hnull a)
      | _ =>
          rw [hput] at hread
          rw [Option.map_some, hput, optional?, hread, Option.map_some]
          exact nofun

theorem lookup_ofSettings (settings : Settings) : ∃ given, ofSettings settings = .object given ∧
    (given.map Prod.fst).Sublist (SettingsKey.all.map SettingsKey.name) ∧
    given.lookup "endpoint" = settings.endpoint.map .text ∧
    given.lookup "timeout_ms" = settings.timeoutMs.map (fun ms => .integer ms.toNat) ∧
    given.lookup "battery_convention" = settings.battery.map ofConvention := by
  obtain ⟨endpoint, timeoutMs, battery⟩ := settings
  refine ⟨_, rfl, ?_, ?_⟩
  · cases endpoint <;> cases timeoutMs <;> cases battery <;>
      simp [SettingsKey.all, SettingsKey.name]
  · cases endpoint <;> cases timeoutMs <;> cases battery <;> exact ⟨rfl, rfl, rfl⟩

theorem comesBack_settings : ComesBack ofSettings settings? := by
  refine comesBack_of_read fun settings => ?_
  obtain ⟨given, hgiven, hsub, hendpoint, htimeout, hbattery⟩ := lookup_ofSettings settings
  have hknown : (given.map (·.1)).all (fun key => (SettingsKey.ofName? key).isSome) := by
    rw [List.all_eq_true]
    intro key hkey
    obtain ⟨known, -, rfl⟩ := List.mem_map.mp (hsub.subset hkey)
    rw [SettingsKey.ofName?_name]
    rfl
  have hendpoint' : optional? text? (settings.endpoint.map .text) = some settings.endpoint :=
    optional?_map (fun _ => by nofun) (fun _ => by rfl) _
  have htimeout' : optional? (fun value => (natural? Settings.maxTimeout value).map UInt64.ofNat)
      (settings.timeoutMs.map fun ms => .integer ms.toNat) = some settings.timeoutMs :=
    optional?_map (fun _ => by nofun) (fun ms => long?_eq_some_iff.mpr rfl) _
  have hbattery' : optional? convention? (settings.battery.map ofConvention) =
      some settings.battery :=
    optional?_map (fun _ => by nofun) (fun convention => (comesBack_convention convention).2) _
  rw [hgiven, settings?, if_pos ⟨hknown, hsub.nodup SettingsKey.nodup_names⟩, settingsOf?,
    hendpoint, htimeout, hbattery, hendpoint', htimeout', hbattery']
  rfl

theorem ofName?_of_unknown {key : String}
    (h : key ∉ ["endpoint", "timeout_ms", "battery_convention"]) :
    SettingsKey.ofName? key = none := by
  have hall : ∀ known : SettingsKey,
      known.name ∈ ["endpoint", "timeout_ms", "battery_convention"] := by
    rintro ⟨⟩ <;> decide
  rw [Option.eq_none_iff_forall_ne_some]
  intro known hread
  exact h (SettingsKey.name_of_ofName? hread ▸ hall known)

theorem refuses_unknown : Refuses UnknownKey settings? := by
  rintro _ ⟨given, rfl, entry, hmem, hunknown⟩
  have hkeys : ¬ (given.map (·.1)).all fun key => (SettingsKey.ofName? key).isSome := by
    intro hall
    have hknown := List.all_eq_true.mp hall _ (List.mem_map_of_mem hmem)
    rw [ofName?_of_unknown hunknown] at hknown
    cases hknown
  rw [settings?, if_neg fun h => hkeys h.1]

theorem settingsOf?_of_outside {endpoint battery : Option JsonValue}
    (h : Outside Settings.maxTimeout value) : settingsOf? endpoint (some value) battery = none := by
  have htimeout : optional? (fun value => (natural? Settings.maxTimeout value).map UInt64.ofNat)
      (some value) = none := by
    have hnone := natural?_of_outside h
    cases h <;> simp only [optional?, hnone, Option.map_none]
  simp only [settingsOf?, htimeout, Option.bind_eq_bind, Option.bind_none, Option.bind_fun_none]

-- Only one setting is a number, so the limits bind at its place alone.
theorem timeout_of_limits {field : Field} {item : JsonValue} (h : field ∈ settingsLimits)
    (fits : field.2 item) : field.1 = "timeout_ms" ∧ Outside Settings.maxTimeout item := by
  simp only [settingsLimits, List.mem_cons, List.not_mem_nil, or_false] at h
  rcases h with rfl | rfl | rfl
  · exact fits.elim
  · exact ⟨rfl, fits⟩
  · exact fits.elim

theorem refuses_settings : Refuses (SomeOf settingsLimits) settings? := by
  intro json hbad
  cases hbad with
  | @list items field item holds fits =>
      obtain ⟨-, houtside⟩ := timeout_of_limits (List.of_mem_zip holds).1 fits
      obtain ⟨place, hplace⟩ := List.mem_iff_getElem?.mp holds
      obtain ⟨hfield, hitem⟩ := List.getElem?_zip_eq_some.mp hplace
      have hsecond : items[1]? = some item := by
        rcases place with _ | _ | _ | place
        · cases hfield
          exact fits.elim
        · exact hitem
        · cases hfield
          exact fits.elim
        · cases hfield
      simp only [settings?, hsecond]
      split_ifs with h
      · exact settingsOf?_of_outside houtside
      · rfl
  | @object given field item known holds fits =>
      obtain ⟨hkey, houtside⟩ := timeout_of_limits known fits
      rw [hkey] at holds
      simp only [settings?]
      split_ifs with h
      · rw [lookup_of_nodup h.2 holds]
        exact settingsOf?_of_outside houtside
      · rfl

end Settings

-- All forms come back. A plain record is read as the list of its fields or as an object with their
-- keys in any order and any others besides, settings refuse every other key, and a number that
-- does not fit its field is refused wherever it stands.
theorem forms_are_read_back :
    (ComesBack ofOpcode opcode? ∧ ComesBack ofHealth health? ∧
      ComesBack ofConvention convention?) ∧
    (ComesBack ofVersion version? ∧ Refuses WrongByte version?) ∧
    (PlainRecord ofColor color? colorFields colorLimits ∧
      PlainRecord ofLed led? ledFields ledLimits ∧
      PlainRecord ofThreshold threshold? thresholdFields thresholdLimits ∧
      PlainRecord ofCalibration calibration? calibrationFields calibrationLimits ∧
      PlainRecord ofTimestamp timestamp? timestampFields timestampLimits) ∧
    ComesBack ofSettings settings? ∧ Refuses UnknownKey settings? ∧
      Refuses (SomeOf settingsLimits) settings? :=
  ⟨⟨comesBack_opcode, comesBack_health, comesBack_convention⟩,
    ⟨comesBack_version, refuses_version⟩,
    ⟨plainRecord_color, plainRecord_led, plainRecord_threshold, plainRecord_calibration,
      plainRecord_timestamp⟩,
    comesBack_settings, refuses_unknown, refuses_settings⟩

end BoardLink.Json

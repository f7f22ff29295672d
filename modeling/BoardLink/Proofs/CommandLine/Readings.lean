import BoardLink.CommandLine.Run
import BoardLink.Proofs.Json.Grammar
import BoardLink.Proofs.Text.Numerals
import Mathlib.Data.List.Forall2

-- Many readings made at once, any of which may have failed: the good ones are printed, in their
-- order, and the run as a whole succeeds if there is no other.
namespace BoardLink.Run

open Text JsonText

section Good

variable {α β ε : Type}

-- The readings that succeeded, with what was read.
def Good (readings : List (α × Except ε β)) (good : List (α × β)) : Prop :=
  readings.filter (·.2.isOk) = good.map (Prod.map id Except.ok)

-- None of the readings failed.
def AllGood (readings : List (α × Except ε β)) : Prop :=
  ∀ reading ∈ readings, ∃ value, reading.2 = .ok value

theorem good_filterMap (readings : List (α × Except ε β)) :
    Good readings (readings.filterMap fun reading =>
      reading.2.toOption.map fun value => (reading.1, value)) := by
  unfold Good
  induction readings with
  | nil => rfl
  | cons reading rest ih =>
      obtain ⟨name, result⟩ := reading
      cases result with
      | error error => exact ih
      | ok value => exact congrArg ((name, Except.ok value) :: ·) ih

-- Where nothing failed, everything is among the good ones.
theorem good_of_allGood {readings : List (α × Except ε β)} {good : List (α × β)}
    (h : Good readings good) (hall : AllGood readings) :
    good.map Prod.fst = readings.map Prod.fst := by
  have hkept : readings.filter (·.2.isOk) = readings :=
    List.filter_eq_self.mpr fun reading hreading => by
      obtain ⟨value, hvalue⟩ := hall reading hreading
      rw [hvalue]
      rfl
  rw [← hkept, h, List.map_map]
  rfl

-- Where failures have complaints and nothing else has, there are none without a failure.
theorem filterMap_eq_nil_iff {γ : Type} {complaint? : α × Except ε β → Option γ}
    (h : ∀ reading, complaint? reading = none ↔ ∃ value, reading.2 = .ok value)
    (readings : List (α × Except ε β)) :
    readings.filterMap complaint? = [] ↔ AllGood readings := by
  rw [List.filterMap_eq_nil_iff]
  exact forall_congr' fun reading => imp_congr_right fun _ => h reading

-- A run over many readings fails if there are complaints, and only then.
theorem exitCode_complaints {complaint? : α × Except ε β → Option String}
    (h : ∀ reading, complaint? reading = none ↔ ∃ value, reading.2 = .ok value)
    (readings : List (α × Except ε β)) (output : List String) (reason : Failure) :
    let complaints := readings.filterMap complaint?
    let report : Report :=
      ⟨output, complaints, if complaints = [] then .success else .failure reason⟩
    report.exitCode = 0 ∧ AllGood readings ∨ report.exitCode = 1 ∧ ¬ AllGood readings := by
  have hnil := filterMap_eq_nil_iff h readings
  unfold Report.exitCode
  by_cases hgood : AllGood readings
  · simp [hnil, hgood]
  · simp [hnil, hgood]

end Good

-- A line with the name of a channel, blanks, its voltage and the unit.
def TellsVoltage (line : String) (reading : AdcChannel × UInt32) : Prop :=
  ∃ blanks digits, line.toList = reading.1.name.toList ++ blanks ++ digits ++ [' ', 'm', 'V'] ∧
    blanks ≠ [] ∧ (∀ c ∈ blanks, c = ' ') ∧ Numeral.Written 10 digits reading.2.toNat

-- A line with the number of an input and its level.
def TellsInput (line : String) (reading : UInt32 × Bool) : Prop :=
  ∃ digits, line.toList =
      ['i', 'n', 'p', 'u', 't'] ++ digits ++ [' ', if reading.2 then '1' else '0'] ∧
    Numeral.Written 10 digits reading.1.toNat

-- The good readings and nothing else, on a line for each or as the fields of one object.
def VoltagesTold (json : Bool) (readings : List (AdcChannel × Except CommandError UInt32))
    (output : List String) : Prop :=
  ∃ good, Good readings good ∧
    if json then
      ∃ line fields, output = [line] ∧ Denotes line.toList (.object fields) ∧
        fields.Perm (good.map fun reading => (reading.1.name, .integer reading.2.toNat))
    else List.Forall₂ TellsVoltage output good

def InputsTold (outcomes : List (UInt32 × Except InputError Bool)) (output : List String) : Prop :=
  ∃ good, Good outcomes good ∧ List.Forall₂ TellsInput output good

theorem tellsVoltage_readingLine (channel : AdcChannel) (millivolts : UInt32) :
    TellsVoltage (readingLine channel millivolts) (channel, millivolts) := by
  refine ⟨List.replicate (12 - channel.name.toList.length) ' ' ++
      ' ' :: List.replicate (6 - (Numeral.decimal millivolts.toNat).length) ' ',
    Numeral.decimal millivolts.toNat, ?_, ?_, ?_, Numeral.written_decimal _⟩
  · simp only [readingLine, nameField, Numeral.padRight, Numeral.padLeft, String.toList_append,
      String.toList_ofList, List.append_assoc, List.cons_append]
    rfl
  · exact List.append_ne_nil_of_right_ne_nil _ (List.cons_ne_nil _ _)
  · intro c hc
    rcases List.mem_append.mp hc with hc | hc
    · exact List.eq_of_mem_replicate hc
    · rcases List.mem_cons.mp hc with hc | hc
      · exact hc
      · exact List.eq_of_mem_replicate hc

theorem tellsInput_inputLine (number : UInt32) (high : Bool) :
    TellsInput ("input" ++ toString number.toNat ++ " " ++ toString (bit high)) (number, high) := by
  refine ⟨Numeral.decimal number.toNat, ?_, Numeral.written_decimal _⟩
  have hbit : (toString (bit high)).toList = [if high then '1' else '0'] := by
    cases high <;> rfl
  simp only [String.toList_append, Numeral.toList_toString, hbit, List.append_assoc]
  rfl

-- Lines made one by one from readings tell them one by one.
theorem forall₂_map {α : Type} {Tells : String → α → Prop} {line : α → String}
    (h : ∀ reading, Tells (line reading) reading) (good : List α) :
    List.Forall₂ Tells (good.map line) good :=
  List.forall₂_map_left_iff.mpr (List.forall₂_same.mpr fun reading _ => h reading)

theorem voltagesTold_report (options : Options)
    (readings : List (AdcChannel × Except CommandError UInt32)) :
    VoltagesTold options.json readings (voltagesReport options readings).output := by
  refine ⟨_, good_filterMap readings, ?_⟩
  unfold voltagesReport
  cases options.json with
  | true => exact ⟨_, _, rfl, denotes_render _, List.mergeSort_perm _ _⟩
  | false => exact forall₂_map (fun reading => tellsVoltage_readingLine reading.1 reading.2) _

theorem inputsTold_report (outcomes : List (UInt32 × Except InputError Bool)) :
    InputsTold outcomes (inputsReport outcomes).output := by
  refine ⟨_, good_filterMap outcomes, ?_⟩
  have hlines := forall₂_map (fun reading : UInt32 × Bool =>
      tellsInput_inputLine reading.1 reading.2)
    (outcomes.filterMap fun outcome => outcome.2.toOption.map fun high => (outcome.1, high))
  rw [List.map_filterMap] at hlines
  simpa only [inputsReport, Option.map_map, Function.comp_def] using hlines

theorem exitCode_voltagesReport (options : Options)
    (readings : List (AdcChannel × Except CommandError UInt32)) :
    (voltagesReport options readings).exitCode = 0 ∧ AllGood readings ∨
      (voltagesReport options readings).exitCode = 1 ∧ ¬ AllGood readings := by
  refine exitCode_complaints (fun reading => ?_) readings _ _
  cases reading.2 <;> simp

theorem exitCode_inputsReport (outcomes : List (UInt32 × Except InputError Bool)) :
    (inputsReport outcomes).exitCode = 0 ∧ AllGood outcomes ∨
      (inputsReport outcomes).exitCode = 1 ∧ ¬ AllGood outcomes := by
  refine exitCode_complaints (fun outcome => ?_) outcomes _ _
  cases outcome.2 <;> simp

end BoardLink.Run

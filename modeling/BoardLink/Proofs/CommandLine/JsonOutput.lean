import BoardLink.Proofs.CommandLine.Ending

-- What is printed where JSON is asked for. Every request that succeeds prints one object or
-- nothing, but for the list of all inputs, which is plain text all the same.
namespace BoardLink

namespace JsonText

open Text

-- A line that is the text of an object.
structure HoldsObject (line : String) : Prop where
  object : ∃ fields, Denotes line.toList (.object fields)
  unbroken : '\n' ∉ line.toList

def OneObject (output : List String) : Prop := ∃ line, output = [line] ∧ HoldsObject line

theorem oneObject_render (fields : List (String × JsonValue)) :
    OneObject [(JsonValue.object fields).render] := by
  have hdenotes := denotes_render (.object fields)
  exact ⟨_, rfl, ⟨fields, hdenotes⟩, fun hbreak => absurd (hdenotes.printable _ hbreak) (by decide)⟩

end JsonText

-- Operations that only change something have nothing to tell.
def Operation.isSilent : Operation → Bool
  | .setLed .. | .setPowerThreshold _ | .powerOff _ | .setClock _ | .setCalibration _
  | .setClockRegister .. | .setPin .. => true
  | _ => false

def Invocation.isSilent : Invocation → Bool
  | .call operation => operation.isSilent
  | _ => false

namespace Run

open JsonText

variable {environment : Environment} {now : LocalTime} {options : Options} {host : Host}

-- Either form of a single line, or of a whole output.
theorem oneObject_line (h : options.json = true) (fields : List (String × JsonValue))
    (plain : String) :
    OneObject [if options.json then (JsonValue.object fields).render else plain] := by
  rw [if_pos h]
  exact oneObject_render fields

theorem oneObject_output (h : options.json = true) {output : List String}
    (houtput : OneObject output) (plain : List String) :
    OneObject (if options.json then output else plain) := by
  rwa [if_pos h]

theorem output_of_answer (h : options.json = true) (convention : BatteryConvention)
    (operation : Operation)
    (answer : ((Hardware.Method.ofOperation operation).command convention).Answer) :
    let output := answerLines options ((Hardware.Method.ofOperation operation).command convention)
      answer
    if operation.isSilent then output = [] else OneObject output := by
  cases operation with
  | setLed | setPowerThreshold | powerOff | setClock | setCalibration | setClockRegister
  | setPin => exact rfl
  | mcuVersion | fpgaVersion | voltage | ledStatus | clock | calibration | clockRegister
  | pinState | battery => exact oneObject_line h _ _
  | powerThreshold => exact oneObject_output h (oneObject_render _) _
  | powerOnReason => exact oneObject_output h (oneObject_line h _ _) _

theorem Ends.output_of_json {invocation : Invocation} {report : Report}
    (h : Ends environment now options host invocation report) (hjson : options.json = true)
    (hexit : report.exitCode = 0) (hinputs : ∀ root, invocation ≠ .inputs root) :
    if invocation.isSilent then report.output = [] else OneObject report.output := by
  cases h with
  | unreachable => cases hexit
  | failed => cases hexit
  | answered => exact output_of_answer hjson _ _ _
  | versionRead => exact oneObject_line hjson _ _
  | clockSet => exact oneObject_line hjson _ _
  | voltages =>
      unfold voltagesReport
      exact oneObject_output hjson (oneObject_render _) _
  | inputs => exact absurd rfl (hinputs _)
  | inputFailed => cases hexit
  | input => exact oneObject_line hjson _ _

-- No JSON text begins as the name of an input does.
theorem TellsInput.not_denotes {text : String} {reading : UInt32 × Bool}
    (h : TellsInput text reading) (value : JsonValue) : ¬ Denotes text.toList value := by
  intro hdenotes
  obtain ⟨digits, htext, -⟩ := h
  obtain ⟨c, rest, hbegin, hc⟩ := hdenotes.begins
  obtain rfl : 'i' = c := (List.cons.inj (htext.symm.trans hbegin)).1
  exact absurd hc (by decide)

end Run

namespace Program

open JsonText Run

-- A run that asks for JSON and succeeds prints one line with one object, or nothing if its request
-- only changes something. All inputs at once are printed as plain lines, none of them JSON.
theorem json_but_for_all_inputs (environment : Environment) (shown : Option String)
    (now : LocalTime) (words : List String) (host : Host) (options : Options)
    (invocation : Invocation) (hread : CommandLine.read words = .ok (options, invocation))
    (hkind : invocation.isSettings = false) (hjson : options.json = true)
    (hexit : (run environment shown now words host).1.exitCode = 0) :
    let output := (run environment shown now words host).1.output
    ((∀ root, invocation ≠ .inputs root) →
        if invocation.isSilent then output = [] else OneObject output) ∧
      ∀ root, invocation = .inputs root →
        ∃ levels, levels.map Prod.fst = [0, 1, 2, 3, 4, 5, 6, 7] ∧
          List.Forall₂ TellsInput output levels ∧
          ∀ text ∈ output, ∀ value, ¬ Denotes text.toList value := by
  obtain ⟨hcode, houtput⟩ := run_of_read environment shown now host hread
  have hends := ends_invocation environment now options host hkind
  rw [hcode] at hexit
  dsimp only
  rw [houtput]
  refine ⟨hends.output_of_json hjson hexit, ?_⟩
  rintro root rfl
  obtain ⟨good, hgood, htold⟩ := inputsTold_report (DigitalInputs.allInputs root host).1
  have hplain : List.Forall₂ (fun text reading =>
      (∀ value, ¬ Denotes text.toList value) ∧ TellsInput text reading) _ good :=
    htold.imp fun _ _ h => ⟨h.not_denotes, h⟩
  refine ⟨good, ?_, htold, ((List.forall₂_and_left _ _).mp hplain).1⟩
  rcases exitCode_inputsReport (DigitalInputs.allInputs root host).1 with ⟨-, hall⟩ | ⟨hone, -⟩
  · rw [good_of_allGood hgood hall]
    exact DigitalInputs.inputs_numbers root _ host
  · rw [Run.invocation, hone] at hexit
    cases hexit

theorem version_as_an_object :
    OneObject (run ⟨some "/root", none, none⟩ none ⟨⟨0, 0⟩, 0⟩ ["mcu-version", "--json"]
      { hangingUpOnce with server := .new .initial [] }).1.output :=
  (json_but_for_all_inputs _ _ _ _ _ ⟨none, ⟨none, none, none⟩, true⟩ (.call .mcuVersion)
    rfl rfl rfl rfl).1 nofun

-- A machine with a file for each input, all of them low.
def allLow : Host where
  files := {
    workingDirectory := []
    nodes := (["gpio"], .directory) :: ["692", "693", "694", "695", "696", "697", "698", "699"].flatMap
      fun pin => [(["gpio", "gpio" ++ pin], .directory),
        (["gpio", "gpio" ++ pin, "value"], .file [0x30, 0x0a])] }
  server := .new .initial []
  journal := []

-- Asked for all inputs as JSON, the program succeeds and prints eight lines of plain text.
theorem all_inputs_are_no_object :
    let words := ["inputs", "--json", "--sysfs-root", "gpio"]
    let transcript := (run ⟨none, none, none⟩ none ⟨⟨0, 0⟩, 0⟩ words allLow).1
    CommandLine.read words = .ok (⟨none, ⟨none, none, none⟩, true⟩, .inputs ⟨"gpio"⟩) ∧
      transcript.exitCode = 0 ∧
      transcript.output = ["input0 0", "input1 0", "input2 0", "input3 0", "input4 0", "input5 0",
        "input6 0", "input7 0"] ∧
      ¬ (transcript.output = [] ∨ OneObject transcript.output) := by
  intro words transcript
  have houtput : transcript.output = ["input0 0", "input1 0", "input2 0", "input3 0", "input4 0",
    "input5 0", "input6 0", "input7 0"] := rfl
  refine ⟨rfl, rfl, houtput, ?_⟩
  rw [houtput]
  rintro (hnil | ⟨line, hline, -⟩)
  · cases hnil
  · cases hline

end Program

end BoardLink

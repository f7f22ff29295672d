import BoardLink.CommandLine.Program
import BoardLink.Proofs.CommandLine.Readings
import BoardLink.Proofs.Hardware.Attempts
import BoardLink.Proofs.Hardware.Dispatch

-- How a run ends is decided by the calls that it makes. It succeeds if every one of them does, and
-- fails without output if not, except that good readings are shown beside failed ones.
namespace BoardLink

theorem Reach.unbroken_executor (reach : Reach) : reach.executor.Unbroken where
  exchange := by
    intro _ body host
    dsimp only [executor, Host.executor, Host.exchange]
    split
    · nofun
    · split <;> nofun
  release := fun _ => nofun

namespace Invocation

-- Requests about the settings file alone.
def isSettings : Invocation → Bool
  | .setSetting .. | .getSetting _ | .settingsPath => true
  | _ => false

-- Requests that need a way to the board. Inputs are read from files.
def needsBoard : Invocation → Bool
  | .call _ | .fpgaVersion _ | .voltages | .syncClock => true
  | _ => false

-- The call that a request makes, if it makes one call to the board.
def operation? (now : LocalTime) : Invocation → Option Operation
  | .call operation => some operation
  | .fpgaVersion _ => some .fpgaVersion
  | .syncClock => some (.setClock (now.instant.clockText now.offset))
  | _ => none

-- The same call with its arguments as direct callers give them.
def method? (now : LocalTime) (invocation : Invocation) : Option Hardware.Method :=
  (invocation.operation? now).map .ofOperation

end Invocation

namespace Run

section Ends

variable (environment : Environment) (now : LocalTime) (options : Options) (host : Host)

-- The ways a request can end, with the report of each. Readings are reported whatever they are.
inductive Ends : Invocation → Report → Prop where
  | unreachable {invocation failure opened} (hboard : invocation.needsBoard = true)
      (hreach : environment.reach options host = (.error failure, opened)) :
      Ends invocation (.failure failure)
  | failed {invocation operation reach opened error after}
      (hoperation : invocation.operation? now = some operation)
      (hreach : environment.reach options host = (.ok reach, opened))
      (hrun : (Hardware.Method.ofOperation operation).run reach.executor opened =
        (.finished (.error error), after)) :
      Ends invocation (.failure (.call operation error))
  | answered {operation reach opened answer after}
      (hreach : environment.reach options host = (.ok reach, opened))
      (hrun : (Hardware.Method.ofOperation operation).run reach.executor opened =
        (.finished (.ok answer), after)) :
      Ends (.call operation) (.success
        (answerLines options ((Hardware.Method.ofOperation operation).command reach.battery) answer))
  | versionRead {dotted reach opened version after}
      (hreach : environment.reach options host = (.ok reach, opened))
      (hrun : Hardware.Method.fpgaVersion.run reach.executor opened =
        (.finished (.ok version), after)) :
      Ends (.fpgaVersion dotted) (.success (textLine options "fpga_version"
        (if dotted then FirmwareVersion.dotted version else FirmwareVersion.compact version)))
  | clockSet {reach opened answer after} {text : String}
      (htext : text = now.instant.clockText now.offset)
      (hreach : environment.reach options host = (.ok reach, opened))
      (hrun : (Hardware.Method.setClock text).run reach.executor opened =
        (.finished (.ok answer), after)) :
      Ends .syncClock (.success (line options "rtc" (.text text) ("RTC synced to: " ++ text)))
  | voltages {reach opened readings after}
      (hreach : environment.reach options host = (.ok reach, opened))
      (hrun : Hardware.allReadings reach.executor opened = (.finished readings, after)) :
      Ends .voltages (voltagesReport options readings)
  | inputs {root} : Ends (.inputs root) (inputsReport (DigitalInputs.allInputs root host).1)
  | inputFailed {root number error after}
      (hinput : DigitalInputs.input root number host = (.error error, after)) :
      Ends (.input root number) (.failure (.input error))
  | input {root number high after}
      (hinput : DigitalInputs.input root number host = (.ok high, after)) :
      Ends (.input root number) (.success (numberLine options "input" (bit high) ""))

end Ends

variable {environment : Environment} {now : LocalTime} {options : Options} {host : Host}

-- The board is reached, or the run fails there and then.
theorem withReach_cases {use : Reach → Host → Report × Host} {P : Report → Prop}
    (hfail : ∀ failure opened, environment.reach options host = (.error failure, opened) →
      P (.failure failure))
    (huse : ∀ reach opened, environment.reach options host = (.ok reach, opened) →
      P (use reach opened).1) :
    P (withReach environment options use host).1 := by
  unfold withReach
  split
  · rename_i failure opened hreach
    exact hfail failure opened hreach
  · rename_i reach opened hreach
    exact huse reach opened hreach

theorem call_cases {reach : Reach} {operation : Operation}
    {shown : ((Hardware.Method.ofOperation operation).command reach.battery).Answer → List String}
    {P : Report → Prop}
    (hfail : ∀ error after,
      (Hardware.Method.ofOperation operation).run reach.executor host =
        (.finished (.error error), after) → P (.failure (.call operation error)))
    (hanswer : ∀ answer after,
      (Hardware.Method.ofOperation operation).run reach.executor host =
        (.finished (.ok answer), after) → P (.success (shown answer))) :
    P (call reach operation shown host).1 := by
  have hunbroken :=
    (Hardware.Method.ofOperation operation).run_ne_crashed reach.unbroken_executor host
  unfold call
  split
  · rename_i hcrashed
    exact absurd (congrArg Prod.fst hcrashed) hunbroken
  · rename_i error after hrun
    exact hfail error after hrun
  · rename_i answer after hrun
    exact hanswer answer after hrun

-- What is said in the log afterwards does not change the report.
theorem report_operate (reach : Reach) (operation : Operation) :
    (operate options reach operation host).1 =
      (call reach operation
        (answerLines options ((Hardware.Method.ofOperation operation).command reach.battery))
        host).1 := by
  unfold operate
  dsimp only
  split <;> rfl

-- Every request ends in one of these ways, as no link to the board breaks down.
theorem ends_invocation (environment : Environment) (now : LocalTime) (options : Options)
    (host : Host) {invocation : Invocation} (h : invocation.isSettings = false) :
    Ends environment now options host invocation
      (Run.invocation environment now options invocation host).1 := by
  cases invocation with
  | setSetting key value => cases h
  | getSetting key => cases h
  | settingsPath => cases h
  | call operation =>
      refine withReach_cases (fun _ _ => .unreachable rfl) fun reach opened hreach => ?_
      rw [report_operate]
      exact call_cases (fun _ _ => .failed rfl hreach) fun _ _ => .answered hreach
  | fpgaVersion dotted =>
      refine withReach_cases (fun _ _ => .unreachable rfl) fun reach opened hreach => ?_
      exact call_cases (fun _ _ => .failed rfl hreach) fun _ _ => .versionRead hreach
  | voltages =>
      refine withReach_cases (fun _ _ => .unreachable rfl) fun reach opened hreach => ?_
      obtain ⟨readings, after, _, -, hrun, -, -⟩ :=
        Hardware.allReadings_traced reach.unbroken_executor opened
      unfold voltages
      rw [hrun]
      exact .voltages hreach hrun
  | syncClock =>
      refine withReach_cases (fun _ _ => .unreachable rfl) fun reach opened hreach => ?_
      unfold syncClock
      generalize htext : now.instant.clockText now.offset = text
      have hoperation : Invocation.syncClock.operation? now = some (.setClock text) := by
        rw [← htext]
        rfl
      exact call_cases (fun _ _ => .failed hoperation hreach) fun _ _ => .clockSet htext.symm hreach
  | inputs root => exact .inputs
  | input root number =>
      unfold Run.invocation
      dsimp only
      split
      · rename_i hinput
        exact .inputFailed hinput
      · rename_i hinput
        exact .input hinput

section Answered

variable (environment : Environment) (now : LocalTime) (options : Options) (host : Host)

-- The board is reached if it is needed, and all calls that belong to a request return a value.
inductive Answered : Invocation → Prop where
  | method {invocation method reach opened answer after}
      (hmethod : invocation.method? now = some method)
      (hreach : environment.reach options host = (.ok reach, opened))
      (hrun : Hardware.Method.run reach.executor method opened = (.finished (.ok answer), after)) :
      Answered invocation
  | voltages {reach opened readings after}
      (hreach : environment.reach options host = (.ok reach, opened))
      (hrun : Hardware.allReadings reach.executor opened = (.finished readings, after))
      (hgood : AllGood readings) : Answered .voltages
  | inputs {root} (hgood : AllGood (DigitalInputs.allInputs root host).1) : Answered (.inputs root)
  | input {root number high after}
      (hinput : DigitalInputs.input root number host = (.ok high, after)) :
      Answered (.input root number)

end Answered

theorem Answered.of_operation {invocation : Invocation} {operation : Operation} {reach : Reach}
    {opened after : Host}
    {answer : ((Hardware.Method.ofOperation operation).command reach.battery).Answer}
    (hoperation : invocation.operation? now = some operation)
    (hreach : environment.reach options host = (.ok reach, opened))
    (hrun : (Hardware.Method.ofOperation operation).run reach.executor opened =
      (.finished (.ok answer), after)) :
    Answered environment now options host invocation :=
  .method (congrArg (Option.map Hardware.Method.ofOperation) hoperation) hreach hrun

-- An answer and a failure would come from the same call in the same state, so there is only one of
-- them. Readings are complete if none is missing from their report.
theorem Ends.exitCode {invocation : Invocation} {report : Report}
    (h : Ends environment now options host invocation report) :
    report.exitCode = 0 ∧ Answered environment now options host invocation ∨
      report.exitCode = 1 ∧ ¬ Answered environment now options host invocation := by
  cases h with
  | unreachable hboard hreach =>
      refine .inr ⟨rfl, fun hanswered => ?_⟩
      cases hanswered with
      | method _ hother => rw [hreach] at hother; cases hother
      | voltages hother => rw [hreach] at hother; cases hother
      | inputs => cases hboard
      | input => cases hboard
  | failed hoperation hreach hrun =>
      refine .inr ⟨rfl, fun hanswered => ?_⟩
      cases hanswered with
      | method hmethod hother hanswer =>
          rw [Invocation.method?, hoperation] at hmethod
          rw [hreach] at hother
          cases hmethod
          cases hother
          rw [hrun] at hanswer
          cases hanswer
      | voltages => cases hoperation
      | inputs => cases hoperation
      | input => cases hoperation
  | answered hreach hrun => exact .inl ⟨rfl, .of_operation rfl hreach hrun⟩
  | versionRead hreach hrun => exact .inl ⟨rfl, .of_operation rfl hreach hrun⟩
  | clockSet htext hreach hrun =>
      subst htext
      exact .inl ⟨rfl, .of_operation rfl hreach hrun⟩
  | voltages hreach hrun =>
      refine (exitCode_voltagesReport options _).imp (And.imp_right (.voltages hreach hrun))
        (And.imp_right fun hbad hanswered => ?_)
      cases hanswered with
      | method hmethod => cases hmethod
      | voltages hother hreadings hgood =>
          rw [hreach] at hother
          cases hother
          rw [hrun] at hreadings
          cases hreadings
          exact hbad hgood
  | inputs =>
      refine (exitCode_inputsReport _).imp (And.imp_right .inputs)
        (And.imp_right fun hbad hanswered => ?_)
      cases hanswered with
      | method hmethod => cases hmethod
      | inputs hgood => exact hbad hgood
  | inputFailed hinput =>
      refine .inr ⟨rfl, fun hanswered => ?_⟩
      cases hanswered with
      | method hmethod => cases hmethod
      | input hother => rw [hinput] at hother; cases hother
  | input hinput => exact .inl ⟨rfl, .input hinput⟩

-- A run that fails is silent unless it is about several readings.
theorem Ends.quiet {invocation : Invocation} {report : Report}
    (h : Ends environment now options host invocation report) (hfailed : report.exitCode = 1) :
    report.output = [] ∨
      (invocation = .voltages ∧
        ∃ reach opened, environment.reach options host = (.ok reach, opened)) ∨
      ∃ root, invocation = .inputs root := by
  cases h with
  | unreachable => exact .inl rfl
  | failed => exact .inl rfl
  | answered => cases hfailed
  | versionRead => cases hfailed
  | clockSet => cases hfailed
  | voltages hreach => exact .inr (.inl ⟨rfl, _, _, hreach⟩)
  | inputs => exact .inr (.inr ⟨_, rfl⟩)
  | inputFailed => exact .inl rfl
  | input => cases hfailed

end Run

theorem DigitalInputs.inputs_numbers (root : FilePath) (numbers : List UInt32) (host : Host) :
    (inputs root numbers host).1.map Prod.fst = numbers := by
  induction numbers generalizing host with
  | nil => rfl
  | cons number rest ih => exact congrArg (number :: ·) (ih _)

namespace Run

-- How a request should show for the calls that it makes. Reading all voltages tries every channel.
structure FollowsCalls (environment : Environment) (now : LocalTime) (options : Options)
    (host : Host) (invocation : Invocation) (transcript : Transcript) : Prop where
  success : transcript.exitCode = 0 ↔ Answered environment now options host invocation
  failure : transcript.exitCode = 0 ∨ transcript.exitCode = 1
  quiet : transcript.exitCode = 1 → transcript.output = [] ∨
    (invocation = .voltages ∧
      ∃ reach opened, environment.reach options host = (.ok reach, opened)) ∨
    ∃ root, invocation = .inputs root
  voltages : invocation = .voltages → ∀ reach opened,
    environment.reach options host = (.ok reach, opened) →
      ∃ readings after prints, readings.map Prod.fst = AdcChannel.all ∧
        Hardware.allReadings reach.executor opened = (.finished readings, after) ∧
        Hardware.allReadings reach.executor.traced (opened, []) =
          (.finished readings, (after, prints)) ∧
        Hardware.Attempted AdcChannel.all prints ∧
        VoltagesTold options.json readings transcript.output
  inputs : ∀ root, invocation = .inputs root →
    (DigitalInputs.allInputs root host).1.map Prod.fst = [0, 1, 2, 3, 4, 5, 6, 7] ∧
      InputsTold (DigitalInputs.allInputs root host).1 transcript.output

end Run

namespace Program

theorem run_of_read (environment : Environment) (shown : Option String) (now : LocalTime)
    {words : List String} (host : Host) {options : Options} {invocation : Invocation}
    (h : CommandLine.read words = .ok (options, invocation)) :
    (run environment shown now words host).1.exitCode =
        (Run.invocation environment now options invocation host).1.exitCode ∧
      (run environment shown now words host).1.output =
        (Run.invocation environment now options invocation host).1.output := by
  unfold run
  rw [h]
  exact ⟨rfl, rfl⟩

theorem voltages_told {environment : Environment} (now : LocalTime) {options : Options}
    {host : Host} {reach : Reach} {opened : Host}
    (hreach : environment.reach options host = (.ok reach, opened)) :
    ∃ readings after prints, readings.map Prod.fst = AdcChannel.all ∧
      Hardware.allReadings reach.executor opened = (.finished readings, after) ∧
      Hardware.allReadings reach.executor.traced (opened, []) =
        (.finished readings, (after, prints)) ∧
      Hardware.Attempted AdcChannel.all prints ∧
      Run.VoltagesTold options.json readings
        (Run.invocation environment now options .voltages host).1.output := by
  obtain ⟨readings, after, prints, hchannels, hrun, htraced, hattempted⟩ :=
    Hardware.allReadings_traced reach.unbroken_executor opened
  have hreport : (Run.invocation environment now options .voltages host).1 =
      Run.voltagesReport options readings := by
    simp only [Run.invocation, Run.withReach, hreach, Run.voltages, hrun]
  rw [hreport]
  exact ⟨readings, after, prints, hchannels, hrun, htraced, hattempted,
    Run.voltagesTold_report options readings⟩

-- The program exits with zero if the board can be reached, where that is needed, and all its calls
-- return a value, and with one if not. Then it prints nothing but readings that were good.
theorem exit_follows_calls (environment : Environment) (shown : Option String) (now : LocalTime)
    (words : List String) (host : Host) (options : Options) (invocation : Invocation)
    (hread : CommandLine.read words = .ok (options, invocation))
    (hkind : invocation.isSettings = false) :
    Run.FollowsCalls environment now options host invocation
      (run environment shown now words host).1 := by
  have hends := Run.ends_invocation environment now options host hkind
  obtain ⟨hexit, houtput⟩ := run_of_read environment shown now host hread
  constructor
  case success =>
    rw [hexit]
    rcases hends.exitCode with ⟨hzero, hanswered⟩ | ⟨hone, hanswered⟩
    · exact iff_of_true hzero hanswered
    · exact iff_of_false (by rw [hone]; decide) hanswered
  case failure =>
    rw [hexit]
    exact hends.exitCode.imp And.left And.left
  case quiet =>
    rw [hexit, houtput]
    exact hends.quiet
  case voltages =>
    rintro rfl reach opened hreach
    rw [houtput]
    exact voltages_told now hreach
  case inputs =>
    rintro root rfl
    rw [houtput]
    exact ⟨DigitalInputs.inputs_numbers root _ host, Run.inputsTold_report _⟩

-- A board behind the default endpoint. It hangs up on its first caller.
def hangingUpOnce : Host where
  files := {
    workingDirectory := []
    nodes := [(["dev"], .directory), (["dev", "socket"], .directory),
      (["dev", "socket", "iosocket"], .socket)] }
  server := .new .initial [.hangUp]
  journal := []

theorem lost_voltage_is_left_out :
    let transcript :=
      (run ⟨some "/root", none, none⟩ none ⟨⟨0, 0⟩, 0⟩ ["voltages"] hangingUpOnce).1
    Run.FollowsCalls ⟨some "/root", none, none⟩ ⟨⟨0, 0⟩, 0⟩ ⟨none, ⟨none, none, none⟩, false⟩
        hangingUpOnce .voltages transcript ∧
      transcript.exitCode = 1 ∧ transcript.output.length = 11 :=
  ⟨exit_follows_calls _ _ _ _ _ _ _ rfl rfl, rfl, rfl⟩

end Program

end BoardLink

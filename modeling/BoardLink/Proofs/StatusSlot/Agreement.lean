import BoardLink.StatusSlot
import BoardLink.Proofs.Bench.Endings
import Mathlib.Data.List.Forall2

-- Two ways of calling the board: one hands errors to its callers, the other hands them a plain
-- value and puts the outcome into a slot. Made to do the same, they do the same on the link, and
-- what either of them tells about a call is what the other tells.
namespace BoardLink.StatusSlot

namespace Method

-- The same call as a direct caller makes it.
abbrev direct : Method → Hardware.Method
  | .mcuVersion => .mcuVersion
  | .fpgaVersion => .fpgaVersion
  | .voltage channel => .voltage channel
  | .ledStatus led => .ledStatus led
  | .setLed led brightness rgb => .setLed led brightness rgb
  | .powerThreshold => .powerThreshold
  | .powerOnReason => .powerOnReason
  | .powerOff waitSeconds => .powerOff waitSeconds
  | .clock => .clock
  | .setClock text => .setClock text
  | .calibration => .calibration
  | .batteryGood => .battery
  | .pinState pin => .pinState pin
  | .setPin pin value => .setPin pin value

-- The answer of a direct caller in plain form. Methods that only write show the status.
def shown (convention : BatteryConvention) : (method : Method) → Int32 →
    (method.direct.command convention).Answer → method.Value
  | .mcuVersion => fun _ version => version.dotted
  | .fpgaVersion => fun _ version => version.compact
  | .voltage _ => fun _ millivolts => millivolts
  | .ledStatus _ => fun _ lamp => lamp
  | .setLed .. => fun status _ => status
  | .powerThreshold => fun _ threshold => threshold
  | .powerOnReason => fun _ reason => reason.raw
  | .powerOff _ => fun status _ => status
  | .clock => fun _ time => time.text
  | .setClock _ => fun status _ => status
  | .calibration => fun _ registers => registers
  | .batteryGood => fun _ health => health.isGood
  | .pinState _ => fun _ high => high
  | .setPin .. => fun status _ => status

-- What stands for an answer after a failure: nothing of its type, or the number of the failure.
def missing (error : CommandError) : (method : Method) → method.Value
  | .mcuVersion | .fpgaVersion | .clock => ""
  | .voltage _ => (0 : UInt32)
  | .ledStatus _ => ⟨0, ⟨0, 0, 0⟩⟩
  | .powerThreshold => ⟨0, 0, 0⟩
  | .powerOnReason => (0 : UInt8)
  | .calibration => ⟨0, 0⟩
  | .batteryGood | .pinState _ => false
  | .setLed .. | .powerOff _ | .setClock _ | .setPin .. => error.code

end Method

-- A call made directly, and the same call through the slot.
structure Direct (convention : BatteryConvention) where
  method : Method
  before : Bench
  outcome : Outcome (Except CommandError (method.direct.command convention).Answer)
  after : Bench

structure Slotted where
  method : Method
  before : State Bench
  outcome : Outcome method.Value
  after : State Bench

-- The bench may be changed between calls: its replies, its scripts, whether it refuses.
inductive Step where
  | change (edit : Bench → Bench)
  | call (method : Method)

def Step.method? : Step → Option Method
  | .change _ => none
  | .call method => some method

def callDirectly (convention : BatteryConvention) (method : Method) (bench : Bench) :
    Direct convention :=
  let (outcome, after) := method.direct.run (Bench.executor convention) bench
  ⟨method, bench, outcome, after⟩

def callThroughSlot (convention : BatteryConvention) (method : Method) (state : State Bench) :
    Slotted :=
  let (outcome, after) := run (Bench.executor convention) method state
  ⟨method, state, outcome, after⟩

def runDirectly (convention : BatteryConvention) :
    List Step → Bench → List (Direct convention) × Bench
  | [], bench => ([], bench)
  | .change edit :: rest, bench => runDirectly convention rest (edit bench)
  | .call method :: rest, bench =>
    let call := callDirectly convention method bench
    let (calls, bench) := runDirectly convention rest call.after
    (call :: calls, bench)

def runThroughSlot (convention : BatteryConvention) :
    List Step → State Bench → List Slotted × State Bench
  | [], state => ([], state)
  | .change edit :: rest, state =>
    runThroughSlot convention rest { state with link := edit state.link }
  | .call method :: rest, state =>
    let call := callThroughSlot convention method state
    let (calls, state) := runThroughSlot convention rest call.after
    (call :: calls, state)

-- One call as both callers see it, on benches that are the same before and after.
-- A call that breaks down tells neither of them anything.
inductive Agree (convention : BatteryConvention) : Direct convention → Slotted → Prop where
  | completed {method : Method} {before after : Bench} {last : LastStatus}
      {answer : (method.direct.command convention).Answer} {body : Bytes} {response : Response}
      (answered : before.answer (method.direct.command convention) = .finished (.ok body))
      (read : Response.ofBytes body = .ok response) (nonneg : 0 ≤ response.status) :
      Agree convention ⟨method, before, .finished (.ok answer), after⟩
        ⟨method, ⟨last, before⟩, .finished (method.shown convention response.status answer),
          ⟨.ok response.status, after⟩⟩
  | failed {method : Method} {before after : Bench} {last : LastStatus} {error : CommandError}
      (neg : error.code < 0) (code : (LastStatus.ofError error).code = error.code) :
      Agree convention ⟨method, before, .finished (.error error), after⟩
        ⟨method, ⟨last, before⟩, .finished (method.missing error), ⟨.ofError error, after⟩⟩
  | crashed {method : Method} {before after : Bench} {last : LastStatus}
      (broken : before.answer (method.direct.command convention) = .crashed ∨
        before.openConnections? = none) :
      Agree convention ⟨method, before, .crashed, after⟩
        ⟨method, ⟨last, before⟩, .crashed, ⟨last, after⟩⟩

theorem Method.check_eq (method : Method) : method.check = method.direct.check := by
  cases method <;> rfl

theorem code_ofError (error : CommandError) : (LastStatus.ofError error).code = error.code := by
  cases error <;> rfl

-- What a caller through the slot is told of a result.
def Method.told (convention : BatteryConvention) (method : Method) :
    Executor.Result (method.direct.command convention) → method.Value
  | .ok completed => method.shown convention completed.status completed.value
  | .error error => method.missing error

-- The call itself, before either caller is told about it.
def attemptDirectly (convention : BatteryConvention) (method : Hardware.Method) (bench : Bench) :
    Outcome (Executor.Result (method.command convention)) × Bench :=
  match method.check with
  | .error fault => (.finished (.error (.decode fault)), bench)
  | .ok () => (Bench.executor convention).execute (method.command convention) bench

theorem ends_attemptDirectly (convention : BatteryConvention) (method : Hardware.Method)
    (bench : Bench) :
    (method.command convention).Ends (bench.answer (method.command convention))
      bench.openConnections? (attemptDirectly convention method bench).1 := by
  unfold attemptDirectly
  split
  · exact .failed (by decide : (-4 : Int32) < 0)
  · exact Bench.ends_execute convention _ bench

theorem call_directly (convention : BatteryConvention) (command : Command) (bench : Bench) :
    Hardware.call (Bench.executor convention) command bench =
      (((Bench.executor convention).execute command bench).1.map (Except.map Completed.value),
        ((Bench.executor convention).execute command bench).2) := by
  unfold Hardware.call
  obtain ⟨outcome, after⟩ := (Bench.executor convention).execute command bench
  cases outcome with
  | crashed => rfl
  | finished result => cases result <;> rfl

theorem run_directly (convention : BatteryConvention) (method : Hardware.Method)
    (bench : Bench) :
    method.run (Bench.executor convention) bench =
      ((attemptDirectly convention method bench).1.map (Except.map Completed.value),
        (attemptDirectly convention method bench).2) := by
  unfold attemptDirectly Hardware.Method.run
  cases method.check with
  | error fault => rfl
  | ok => exact call_directly convention (method.command convention) bench

theorem run_through_slot (convention : BatteryConvention) (method : Method) (state : State Bench) :
    run (Bench.executor convention) method state =
      match attemptDirectly convention method.direct state.link with
      | (.crashed, link) => (.crashed, { state with link })
      | (.finished result, link) =>
        (.finished (method.told convention result), ⟨outcome result, link⟩) := by
  unfold run attempt attemptDirectly
  rw [Method.check_eq]
  -- Either side has its own command and its own type of answer for a method. They are the same
  -- only once the method is known.
  cases method <;>
  · generalize Hardware.Method.check _ = checked
    cases checked with
    | error fault => rfl
    | ok =>
      dsimp only [Method.direct, Method.command, Hardware.Method.command, Bench.executor]
      generalize Executor.execute _ _ _ = talk
      obtain ⟨outcome, after⟩ := talk
      cases outcome with
      | crashed => rfl
      | finished result =>
        cases result with
        | error error => cases error <;> rfl
        | ok completed => rfl

-- One call, made in both ways from the same bench.
theorem agree_call (convention : BatteryConvention) (method : Method) (last : LastStatus)
    (bench : Bench) :
    Agree convention (callDirectly convention method bench)
        (callThroughSlot convention method ⟨last, bench⟩) ∧
      (callThroughSlot convention method ⟨last, bench⟩).after.link =
        (callDirectly convention method bench).after := by
  have he := ends_attemptDirectly convention method.direct bench
  simp only [callDirectly, callThroughSlot, run_directly, run_through_slot]
  generalize attemptDirectly convention method.direct bench = talk at he ⊢
  obtain ⟨outcome, after⟩ := talk
  cases he with
  | completed answered read status nonneg =>
      rename_i completed body response
      refine ⟨?_, rfl⟩
      simp only [Method.told, StatusSlot.outcome, status]
      exact .completed answered read nonneg
  | failed neg => exact ⟨.failed neg (code_ofError _), rfl⟩
  | crashed broken => exact ⟨.crashed broken, rfl⟩

-- Two runs of the same steps, from one bench and with anything in the slot. The steps say which
-- calls are made, and the two callers agree on each of them.
theorem both_callers_agree (convention : BatteryConvention) (steps : List Step)
    (last : LastStatus) (bench : Bench) :
    (runDirectly convention steps bench).1.map Direct.method = steps.filterMap Step.method? ∧
      List.Forall₂ (Agree convention) (runDirectly convention steps bench).1
        (runThroughSlot convention steps ⟨last, bench⟩).1 ∧
      (runThroughSlot convention steps ⟨last, bench⟩).2.link =
        (runDirectly convention steps bench).2 := by
  induction steps generalizing last bench with
  | nil => exact ⟨rfl, .nil, rfl⟩
  | cons step rest ih =>
      cases step with
      | change edit => exact ih last (edit bench)
      | call method =>
          obtain ⟨ha, hl⟩ := agree_call convention method last bench
          -- The slot differs from here on, but the benches are one bench again.
          have hs : (callThroughSlot convention method ⟨last, bench⟩).after =
              ⟨(callThroughSlot convention method ⟨last, bench⟩).after.last,
                (callDirectly convention method bench).after⟩ := by rw [← hl]
          obtain ⟨hm, hr, he⟩ := ih (callThroughSlot convention method ⟨last, bench⟩).after.last
            (callDirectly convention method bench).after
          rw [← hs] at hr he
          exact ⟨congrArg (method :: ·) hm, .cons ha hr, he⟩

end BoardLink.StatusSlot

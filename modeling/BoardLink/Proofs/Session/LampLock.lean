import BoardLink.Proofs.StatusSlot.Agreement

-- Three executors share one link and one lamp lock: one that is used as it is, one behind the
-- direct callers, and one behind the callers through the slot. Whatever they are asked for and
-- whatever comes of it, the lock is taken and let go once for every lamp write that gets to an
-- executor, and by then its connection is closed.
namespace BoardLink.LampLock

inductive Call where
  | execute (command : Command)
  | operate (operation : Operation)
  | direct (method : Hardware.Method)
  | readings
  | slotted (method : StatusSlot.Method)

-- Between calls the replies may become anything, and connections be refused or allowed again.
-- Each executor has its own way of judging the battery, so a call comes with one.
inductive Step where
  | respond (responder : Responder)
  | refuse (refusing : Bool)
  | call (convention : BatteryConvention) (made : Call)

-- A lamp write that gets to an executor. Both adapters turn away lamps that do not exist, but a lamp
-- that is given by its name does.
def Call.writesLamp : Call → Bool
  | .execute (.setLed ..) | .operate (.setLed ..) | .direct (.setLedId ..) => true
  | .direct (.setLed led ..) | .slotted (.setLed led ..) => led ≤ 2
  | _ => false

def Step.writesLamp : Step → Bool
  | .respond _ | .refuse _ => false
  | .call _ made => made.writesLamp

-- The slot is nobody's but its adapter's, and the link is everybody's.
abbrev State := StatusSlot.State Bench

def make (convention : BatteryConvention) (state : State) : Call → State
  | .execute command =>
    { state with link := ((Bench.executor convention).execute command state.link).2 }
  | .operate operation =>
    { state with link := ((Bench.executor convention).executeOperation operation state.link).2 }
  | .direct method =>
    { state with link := (method.run (Bench.executor convention) state.link).2 }
  | .readings =>
    { state with link := (Hardware.allReadings (Bench.executor convention) state.link).2 }
  | .slotted method => (StatusSlot.run (Bench.executor convention) method state).2

def take (state : State) : Step → State
  | .respond responder => { state with link := { state.link with responder } }
  | .refuse refusing => { state with link := { state.link with refusing } }
  | .call convention call => make convention state call

def run (state : State) (steps : List Step) : State := steps.foldl take state

-- Every connection was closed, and the lock was taken and let go once for each of so many lamp
-- writes, never while a connection was open.
structure Balanced (writes : Nat) (bench : Bench) : Prop where
  settled : bench.Settled
  acquired : bench.acquired = writes
  released : bench.released = writes
  closed : bench.releasedOpen = false

variable {convention : BatteryConvention} {writes : Nat} {bench : Bench}

theorem balanced_new (device : Device) : Balanced 0 (Bench.new device) := ⟨rfl, rfl, rfl, rfl⟩

theorem Balanced.answered (h : Balanced writes bench) (command : Command) :
    Balanced writes (bench.answered command) :=
  ⟨h.settled.answered command, h.acquired, h.released, h.closed⟩

theorem Balanced.countLock (h : Balanced writes bench) (exclusive : Bool) :
    Balanced (writes + exclusive.toNat) (bench.countLock exclusive) := by
  refine ⟨h.settled.countLock exclusive, ?_, ?_, ?_⟩
  · cases exclusive <;> simp [Bench.countLock, h.acquired]
  · cases exclusive <;> simp [Bench.countLock, h.released]
  · cases exclusive <;> simp [Bench.countLock, h.closed]

-- Refused, answered badly or broken down: every end of a call has let go of the lock.
theorem Balanced.execute (h : Balanced writes bench) (convention : BatteryConvention)
    (command : Command) :
    Balanced (writes + command.isExclusive.toNat)
      ((Bench.executor convention).execute command bench).2 := by
  cases hrefusal : command.refusal? bench.refusing with
  | some error =>
      rw [Bench.execute_refused h.settled hrefusal]
      exact h.countLock command.isExclusive
  | none =>
      rw [Bench.execute_answered h.settled hrefusal]
      exact (h.answered command).countLock command.isExclusive

-- What an adapter turns away is no lamp write, and what it lets through is one if the executor
-- takes it for one.
theorem writesLamp_direct (convention : BatteryConvention) (method : Hardware.Method) :
    (Call.direct method).writesLamp =
      match method.check with
      | .error _ => false
      | .ok () => (method.command convention).isExclusive := by
  cases method with
  | setLed led brightness rgb =>
      by_cases hled : led ≤ 2
      · have hcheck : (Hardware.Method.setLed led brightness rgb).check = .ok () :=
          if_neg (UInt8.not_lt.mpr hled)
        rw [hcheck]
        exact decide_eq_true hled
      · have hcheck : (Hardware.Method.setLed led brightness rgb).check =
            .error (.invalidValue .led led.toUInt32) := if_pos (UInt8.not_le.mp hled)
        rw [hcheck]
        exact decide_eq_false hled
  | setLedId led brightness rgb => cases led <;> rfl
  | ledStatus led => cases (Hardware.Method.ledStatus led).check <;> rfl
  | setPin pin value => cases (Hardware.Method.setPin pin value).check <;> rfl
  | setBusPower enable => cases enable <;> rfl
  | _ => rfl

theorem Balanced.attempt (h : Balanced writes bench) (convention : BatteryConvention)
    (method : Hardware.Method) :
    Balanced (writes + (Call.direct method).writesLamp.toNat)
      (StatusSlot.attemptDirectly convention method bench).2 := by
  rw [writesLamp_direct convention, StatusSlot.attemptDirectly]
  cases method.check with
  | error fault => exact h
  | ok => exact h.execute convention (method.command convention)

theorem Balanced.direct (h : Balanced writes bench) (convention : BatteryConvention)
    (method : Hardware.Method) :
    Balanced (writes + (Call.direct method).writesLamp.toNat)
      (method.run (Bench.executor convention) bench).2 := by
  rw [StatusSlot.run_directly]
  exact h.attempt convention method

theorem Balanced.readings (h : Balanced writes bench) (convention : BatteryConvention)
    (channels : List AdcChannel) :
    Balanced writes (Hardware.readings (Bench.executor convention) channels bench).2 := by
  induction channels generalizing bench with
  | nil => exact h
  | cons channel rest ih =>
      have hfirst := h.direct convention (.voltage channel)
      unfold Hardware.readings
      generalize (Hardware.Method.voltage channel).run (Bench.executor convention) bench = talk
        at hfirst
      obtain ⟨reading, after⟩ := talk
      cases reading with
      | crashed => exact hfirst
      | finished reading => exact ih hfirst

theorem Balanced.slotted {state : State} (h : Balanced writes state.link)
    (convention : BatteryConvention) (method : StatusSlot.Method) :
    Balanced (writes + (Call.slotted method).writesLamp.toNat)
      (StatusSlot.run (Bench.executor convention) method state).2.link := by
  have hattempt := h.attempt convention method.direct
  have hwrites : (Call.direct method.direct).writesLamp = (Call.slotted method).writesLamp := by
    cases method <;> rfl
  rw [hwrites] at hattempt
  rw [StatusSlot.run_through_slot]
  generalize StatusSlot.attemptDirectly convention method.direct state.link = talk at hattempt
  obtain ⟨outcome, after⟩ := talk
  cases outcome <;> exact hattempt

theorem Balanced.make {state : State} (h : Balanced writes state.link)
    (convention : BatteryConvention) (call : Call) :
    Balanced (writes + call.writesLamp.toNat) (LampLock.make convention state call).link := by
  cases call with
  | execute command =>
      have hwrites : (Call.execute command).writesLamp = command.isExclusive := by
        cases command <;> rfl
      rw [hwrites]
      exact h.execute convention command
  | operate operation =>
      have hwrites : (Call.operate operation).writesLamp =
          (operation.command convention).isExclusive := by
        cases operation <;> rfl
      rw [hwrites]
      exact h.execute convention (operation.command convention)
  | direct method => exact h.direct convention method
  | readings => exact h.readings convention AdcChannel.all
  | slotted method => exact h.slotted convention method

theorem Balanced.take {state : State} (h : Balanced writes state.link) (step : Step) :
    Balanced (writes + step.writesLamp.toNat) (LampLock.take state step).link := by
  cases step with
  | respond responder => exact ⟨h.settled, h.acquired, h.released, h.closed⟩
  | refuse refusing => exact ⟨h.settled, h.acquired, h.released, h.closed⟩
  | call convention call => exact h.make convention call

theorem Balanced.run {state : State} (h : Balanced writes state.link) (steps : List Step) :
    Balanced (writes + steps.countP Step.writesLamp) (LampLock.run state steps).link := by
  induction steps generalizing writes state with
  | nil => exact h
  | cons step rest ih =>
      have hrest := ih (h.take step)
      have hcount : (step :: rest).countP Step.writesLamp =
          step.writesLamp.toNat + rest.countP Step.writesLamp := by
        cases hwrites : step.writesLamp <;> simp [hwrites, Nat.add_comm]
      rw [hcount, ← Nat.add_assoc]
      exact hrest

-- After any calls on a new bench, with anything in the slot.
theorem lock_taken_once_for_each_write (device : Device) (last : LastStatus) (steps : List Step) :
    (run ⟨last, Bench.new device⟩ steps).link.acquired = steps.countP Step.writesLamp ∧
      (run ⟨last, Bench.new device⟩ steps).link.released = steps.countP Step.writesLamp ∧
      (run ⟨last, Bench.new device⟩ steps).link.releasedOpen = false ∧
      (run ⟨last, Bench.new device⟩ steps).link.openConnections? = some 0 := by
  have hbalanced : Balanced 0 (StatusSlot.State.mk last (Bench.new device)).link :=
    balanced_new device
  have hrun := hbalanced.run steps
  rw [Nat.zero_add] at hrun
  exact ⟨hrun.acquired, hrun.released, hrun.closed, Bench.openConnections?_of_settled hrun.settled⟩

end BoardLink.LampLock

import BoardLink.Proofs.Bench.Endings
import BoardLink.Proofs.Device.Handling

-- Two sessions that differ in how the battery is judged and in nothing else. The way of judging
-- comes to bear on the verdict about a battery and never gets any further.
namespace BoardLink

-- What no step of a call breaks.
structure Executor.Keeps {σ κ : Type} (executor : Executor σ κ) (P : σ → Prop) : Prop where
  connect : ∀ s, P s → P (executor.connect s).2
  exchange : ∀ connection request s, P s → P (executor.exchange connection request s).2
  disconnect : ∀ connection s, P s → P (executor.disconnect connection s)
  acquire : ∀ s, P s → P (executor.acquire s)
  release : ∀ s, P s → P (executor.release s).2
  log : ∀ line s, P s → P (executor.log line s)

namespace Executor.Keeps

variable {σ κ : Type} {executor : Executor σ κ} {P : σ → Prop} {s : σ}

theorem converse (h : executor.Keeps P) (command : Command) (hs : P s) :
    P (executor.converse command s).2 := by
  have hconnect := h.connect s hs
  unfold Executor.converse
  generalize executor.connect s = opened at hconnect ⊢
  obtain ⟨_ | connection, s⟩ := opened
  · exact h.log _ _ hconnect
  · dsimp only
    generalize hc : executor.trace guardTarget "Session closed" _ = closed
    have hclosed : P closed := by
      rw [← hc]
      exact h.log _ _ (h.disconnect _ _ (h.exchange _ _ _ (h.log _ _ (h.log _ _ hconnect))))
    split
    · exact hclosed
    · split
      · exact h.log _ _ hclosed
      · exact hclosed

theorem execute (h : executor.Keeps P) (command : Command) (hs : P s) :
    P (executor.execute command s).2 := by
  unfold Executor.execute
  split
  · split
    · exact hs
    · split
      · have hreleased := h.release _ (h.converse command (h.acquire s hs))
        dsimp only
        split
        · rename_i hr
          rwa [hr] at hreleased
        · rename_i hr
          rwa [hr] at hreleased
      · exact h.converse command hs
  · exact h.log _ s hs

end Executor.Keeps

namespace BatteryJudging

-- Between calls the bench may be changed in any way.
inductive Step where
  | change (edit : Bench → Bench)
  | call (operation : Operation)

def Step.operation? : Step → Option Operation
  | .change _ => none
  | .call operation => some operation

structure Visit where
  operation : Operation
  before : Bench
  outcome : Outcome (Except CommandError (Completed Reply))
  after : Bench

def visit (convention : BatteryConvention) (operation : Operation) (bench : Bench) : Visit :=
  let (outcome, after) := (Bench.executor convention).executeOperation operation bench
  ⟨operation, bench, outcome, after⟩

def run (convention : BatteryConvention) : List Step → Bench → List Visit × Bench
  | [], bench => ([], bench)
  | .change edit :: rest, bench => run convention rest (edit bench)
  | .call operation :: rest, bench =>
    let call := visit convention operation bench
    let (visits, bench) := run convention rest call.after
    (call :: visits, bench)

-- The outcomes of one operation under two ways of judging. They are the same unless a battery was
-- judged, and then both verdicts are about one and the same reading.
inductive Alike (a b : BatteryConvention) : Operation →
    Outcome (Except CommandError (Completed Reply)) →
    Outcome (Except CommandError (Completed Reply)) → Prop where
  | other {operation : Operation} {outcome : Outcome (Except CommandError (Completed Reply))}
      (h : operation ≠ .battery) : Alike a b operation outcome outcome
  | crashed : Alike a b .battery .crashed .crashed
  | failed {error : CommandError} :
      Alike a b .battery (.finished (.error error)) (.finished (.error error))
  | judged {status : Int32} {state : UInt8} :
      Alike a b .battery (.finished (.ok ⟨status, .battery (a.evaluate status state)⟩))
        (.finished (.ok ⟨status, .battery (b.evaluate status state)⟩))

-- The board itself answers, and it has no script for the battery.
def Simulated (bench : Bench) : Prop :=
  bench.responder = Responder.device ∧ bench.device.scripts.lookup .checkRtcBattery = none

-- Two visits at one point of the two sessions.
structure Corresponds (a b : BatteryConvention) (one other : Visit) : Prop where
  operation : one.operation = other.operation
  before : one.before = other.before
  after : one.after = other.after
  outcome : Alike a b one.operation one.outcome other.outcome
  simulated : Simulated one.before → one.outcome = other.outcome

section Verdicts

variable {a b : BatteryConvention}

-- What becomes of one reply in the two sessions.
inductive Verdicts (a b : BatteryConvention) : Except CommandError (Completed BatteryHealth) →
    Except CommandError (Completed BatteryHealth) → Prop where
  | failed {error : CommandError} : Verdicts a b (.error error) (.error error)
  | judged {status : Int32} {state : UInt8} :
      Verdicts a b (.ok ⟨status, a.evaluate status state⟩) (.ok ⟨status, b.evaluate status state⟩)

theorem verdicts_judge (body : Bytes) :
    Verdicts a b ((Command.battery a).judge body) ((Command.battery b).judge body) := by
  simp only [Command.judge, Command.opcode]
  split
  · exact .failed
  · rename_i response _
    split
    · exact .failed
    · split
      · exact .failed
      · simp only [Command.decode]
        cases Command.byte? response.payload with
        | none => exact .failed
        | some state => exact .judged

theorem verdicts_normalize (reply : Except TransportError Bytes) :
    Verdicts a b ((Command.battery a).normalize reply) ((Command.battery b).normalize reply) := by
  cases reply with
  | error fault => exact .failed
  | ok body => exact verdicts_judge body

end Verdicts

-- The call for the battery, whichever way it is judged.
theorem operate_battery (convention : BatteryConvention) (bench : Bench) :
    (Bench.executor convention).executeOperation .battery bench =
      if bench.refusing then (.finished (.error .unavailable), bench)
      else
        ((bench.answer (.battery convention)).map fun reply =>
            ((Command.battery convention).normalize reply).map (Completed.map .battery),
          bench.answered (.battery convention)) := by
  have he : (Bench.executor convention).execute (.battery convention) bench =
      (Bench.executor convention).converse (.battery convention) bench :=
    Bench.execute_of_not_exclusive rfl rfl rfl
  have ho : (Bench.executor convention).executeOperation .battery bench =
      (((Bench.executor convention).execute (.battery convention) bench).1.map
          (Except.map (Completed.map .battery)),
        ((Bench.executor convention).execute (.battery convention) bench).2) := rfl
  rw [ho, he]
  cases hr : bench.refusing with
  | true =>
      rw [Bench.converse_refused hr]
      rfl
  | false =>
      rw [Bench.converse_answered hr, ← Bench.answer]
      cases bench.answer (.battery convention) <;> rfl

-- Every other operation stands for the same command in both sessions.
theorem operate_other (a b : BatteryConvention) {operation : Operation}
    (h : operation ≠ .battery) (bench : Bench) :
    (Bench.executor a).executeOperation operation bench =
      (Bench.executor b).executeOperation operation bench := by
  cases operation with
  | battery => exact absurd rfl h
  | _ => rfl

theorem alike_battery (a b : BatteryConvention) (bench : Bench) :
    Alike a b .battery ((Bench.executor a).executeOperation .battery bench).1
        ((Bench.executor b).executeOperation .battery bench).1 ∧
      ((Bench.executor a).executeOperation .battery bench).2 =
        ((Bench.executor b).executeOperation .battery bench).2 := by
  have ha : bench.answer (.battery a) = bench.answer (.battery b) := rfl
  rw [operate_battery, operate_battery, ha]
  split
  · exact ⟨.failed, rfl⟩
  · refine ⟨?_, rfl⟩
    cases bench.answer (.battery b) with
    | crashed => exact .crashed
    | finished reply =>
        have hv : Verdicts a b ((Command.battery a).normalize reply)
            ((Command.battery b).normalize reply) := verdicts_normalize reply
        simp only [Outcome.map]
        generalize (Command.battery a).normalize reply = one at hv ⊢
        generalize (Command.battery b).normalize reply = other at hv ⊢
        cases hv with
        | failed => exact .failed
        | judged => exact .judged

section Simulated

variable {bench : Bench}

-- Status and payload of the board agree, so it does not matter which of them is looked at.
theorem judge_respond (convention : BatteryConvention) (device : Device) :
    (Command.battery convention).judge
        (device.respond (Command.battery convention).request).1.toBytes =
      .ok (if device.batteryState = 0 then ⟨0, .lowOrAbsent⟩ else ⟨1, .good⟩) := by
  by_cases hzero : device.batteryState = 0
  · have hr : (device.respond (Command.battery convention).request).1 =
        ⟨(Command.battery convention).opcode, 0, [0]⟩ := by
      simp [Device.respond, Command.opcode, Command.payload, hzero]
    have hd : (Command.battery convention).decode 0 [0] = .ok .lowOrAbsent := by
      cases convention <;> rfl
    rw [hr, if_pos hzero, Command.judge_toBytes (by decide) (by decide) hd]
  · have hr : (device.respond (Command.battery convention).request).1 =
        ⟨(Command.battery convention).opcode, 1, [device.batteryState]⟩ := by
      simp [Device.respond, Command.opcode, Command.payload, hzero]
    have hd : (Command.battery convention).decode 1 [device.batteryState] = .ok .good := by
      cases convention <;>
        simp [Command.decode, Command.expecting, Command.byte?, BatteryConvention.evaluate, hzero]
    rw [hr, if_neg hzero, Command.judge_toBytes (by decide) (by simp [maxPayload]) hd]

theorem Simulated.operate_eq (h : Simulated bench) (a b : BatteryConvention)
    (operation : Operation) :
    (Bench.executor a).executeOperation operation bench =
      (Bench.executor b).executeOperation operation bench := by
  by_cases hb : operation = .battery
  · subst hb
    have hanswer : ∀ convention, bench.answer (.battery convention) = .finished
        (.ok (bench.device.respond (Command.battery convention).request).1.toBytes) := by
      intro convention
      have hs : bench.device.scripts.lookup (Command.battery convention).opcode = none := h.2
      rw [Bench.answer, h.1, Device.responder_unscripted hs]
    simp only [operate_battery, hanswer, Outcome.map, Command.normalize, judge_respond]
    rfl
  · exact operate_other a b hb bench

theorem keeps_simulated (convention : BatteryConvention) :
    (Bench.executor convention).Keeps Simulated where
  connect := by
    intro bench h
    simp only [Bench.executor, Bench.connect]
    split
    · exact h
    · exact h
  exchange := by
    rintro connection request bench ⟨hr, hs⟩
    refine ⟨hr, ?_⟩
    simp only [Bench.executor, Bench.exchange, Bench.record, hr, Responder.device,
      (Device.quiet_handle bench.device request).1]
    exact hs
  disconnect := fun _ _ h => h
  acquire := fun _ h => h
  release := by
    intro bench h
    simpa only [Simulated, Bench.executor, Bench.responder_release, Bench.device_release] using h
  log := fun _ _ h => h

theorem Simulated.after_visit (h : Simulated bench) (convention : BatteryConvention)
    (operation : Operation) : Simulated (visit convention operation bench).after :=
  (keeps_simulated convention).execute _ h

end Simulated

-- One call, made in both sessions on the same bench.
theorem corresponds_visit (a b : BatteryConvention) (operation : Operation) (bench : Bench) :
    Corresponds a b (visit a operation bench) (visit b operation bench) := by
  have hsimulated : Simulated bench →
      (visit a operation bench).outcome = (visit b operation bench).outcome := by
    intro h
    exact congrArg Prod.fst (h.operate_eq a b operation)
  by_cases hb : operation = .battery
  · subst hb
    obtain ⟨ho, ha⟩ := alike_battery a b bench
    exact ⟨rfl, rfl, ha, ho, hsimulated⟩
  · have he := operate_other a b hb bench
    refine ⟨rfl, rfl, congrArg Prod.snd he, ?_, hsimulated⟩
    have ho : (visit a operation bench).outcome = (visit b operation bench).outcome :=
      congrArg Prod.fst he
    rw [ho]
    exact .other hb

-- A change that leaves the board to answer for itself, if it did before.
def Step.Plain : Step → Prop
  | .change edit => ∀ bench, Simulated bench → Simulated (edit bench)
  | .call _ => True

theorem Simulated.run_eq (a b : BatteryConvention) {steps : List Step}
    (hplain : ∀ step ∈ steps, step.Plain) {bench : Bench} (h : Simulated bench) :
    run a steps bench = run b steps bench := by
  induction steps generalizing bench with
  | nil => rfl
  | cons step rest ih =>
      have hrest : ∀ step ∈ rest, step.Plain := fun step hm => hplain step (.tail _ hm)
      cases step with
      | change edit => exact ih hrest (hplain (.change edit) (.head _) bench h)
      | call operation =>
          have hv : visit a operation bench = visit b operation bench := by
            rw [visit, h.operate_eq a b operation]
            rfl
          have hafter : Simulated (visit b operation bench).after := h.after_visit b operation
          simp only [run, hv, ih hrest hafter]

-- Two sessions of the same steps on the same bench, judged in any two ways. They leave the same
-- events, locks and board behind, after each call and at the end, and differ in verdicts about
-- batteries alone. Where the board answers for itself they do not differ at all.
theorem judging_stays_apart (a b : BatteryConvention) (steps : List Step) (bench : Bench) :
    (run a steps bench).1.map Visit.operation = steps.filterMap Step.operation? ∧
      List.Forall₂ (Corresponds a b) (run a steps bench).1 (run b steps bench).1 ∧
      (run a steps bench).2 = (run b steps bench).2 ∧
      ((∀ step ∈ steps, step.Plain) → Simulated bench → run a steps bench = run b steps bench) := by
  suffices hall : (run a steps bench).1.map Visit.operation = steps.filterMap Step.operation? ∧
      List.Forall₂ (Corresponds a b) (run a steps bench).1 (run b steps bench).1 ∧
      (run a steps bench).2 = (run b steps bench).2 from
    ⟨hall.1, hall.2.1, hall.2.2, fun hplain h => h.run_eq a b hplain⟩
  induction steps generalizing bench with
  | nil => exact ⟨rfl, .nil, rfl⟩
  | cons step rest ih =>
      cases step with
      | change edit => exact ih (edit bench)
      | call operation =>
          have hv := corresponds_visit a b operation bench
          obtain ⟨hm, hr, he⟩ := ih (visit a operation bench).after
          -- The sessions go on from one bench.
          have hb : run b rest (visit a operation bench).after =
              run b rest (visit b operation bench).after := by rw [hv.after]
          rw [hb] at hr he
          exact ⟨congrArg (operation :: ·) hm, .cons hv hr, he⟩

end BatteryJudging
end BoardLink

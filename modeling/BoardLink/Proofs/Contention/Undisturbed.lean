import BoardLink.Proofs.Bench.Carrying
import BoardLink.Proofs.Contention.Steps
import Mathlib.Logic.Relation

-- The single steps of a call are those of the executor. With nobody else's in between, they come to
-- the result and to the bench that the executor comes to at once.
namespace BoardLink.Contention

open Relation

-- A caller with the link and the lock, before and after one step of it.
def CallerTurn (before after : Bench × Bool × Caller) : Prop :=
  stepCaller before.1 before.2.1 before.2.2 = some after

-- The same contention with another link, another lock and another caller at one place.
def after (contention : Contention) (place : Nat) (turn : Bench × Bool × Caller) : Contention :=
  ⟨turn.1, turn.2.1, contention.callers.set place turn.2.2⟩

-- One caller takes all the turns for a while.
def Undisturbed (place : Nat) : Contention → Contention → Prop :=
  ReflTransGen fun before after => before.step? place = some after

variable (convention : BatteryConvention) (command : Command) (waiting : List Command)
  (results : List (Σ command : Command, Outcome (Executor.Result command))) (bench : Bench)

-- From before the connection until after it.
theorem turns_converse (locked : Bool) :
    ReflTransGen CallerTurn (bench, locked, ⟨waiting, .entered command, results⟩)
      (((Bench.executor convention).converse command bench).2, locked, ⟨waiting,
        .closed command ((Bench.executor convention).converse command bench).1, results⟩) := by
  cases hr : bench.refusing with
  | true =>
      rw [Bench.converse_refused hr]
      exact .single (by simp [CallerTurn, stepCaller, Bench.connect_refused hr])
  | false =>
      have hconnect : CallerTurn (bench, locked, ⟨waiting, .entered command, results⟩)
          (bench.connect.2, locked,
            ⟨waiting, .connected command bench.nextConnection, results⟩) := by
        simp [CallerTurn, stepCaller, Bench.connect_allowed hr]
      rw [Bench.converse_answered hr, ← Bench.disconnect_exchange_connect hr,
        ← Bench.exchange_connect hr]
      exact (((ReflTransGen.single hconnect).tail rfl).tail rfl).tail rfl

-- A lamp write has to find the lock free. The lock is then as free as before.
theorem turns_execute {locked : Bool}
    (hfree : command.isExclusive = true → locked = false) :
    ReflTransGen CallerTurn (bench, locked, ⟨command :: waiting, .idle, results⟩)
      (((Bench.executor convention).execute command bench).2, locked, ⟨waiting, .idle,
        ⟨command, ((Bench.executor convention).execute command bench).1⟩ :: results⟩) := by
  have hway := Bench.way_execute convention command bench
  generalize (Bench.executor convention).execute command bench = talk at hway
  cases hway with
  | unimplemented hi => exact .single (by simp [CallerTurn, stepCaller, hi])
  | invalid hi hv he => exact .single (by simp [CallerTurn, stepCaller, hi, hv])
  | free hi hv he =>
      have hconverse := turns_converse convention command waiting results bench locked
      refine .head ?_ (.tail hconverse ?_)
      · simp [CallerTurn, stepCaller, hi, hv, he]
      · simp [CallerTurn, stepCaller, he]
  | @locked result after hi hv he hc =>
      obtain rfl := hfree he
      have hconverse : ReflTransGen CallerTurn
          (bench.acquire, true, ⟨waiting, .entered command, results⟩)
          (after, true, ⟨waiting, .closed command result, results⟩) := by
        have hturns := turns_converse convention command waiting results bench.acquire true
        rwa [hc] at hturns
      refine .head ?_ (.tail hconverse ?_)
      · simp [CallerTurn, stepCaller, hi, hv, he]
      · simp only [CallerTurn, stepCaller, he, if_true, Bench.afterRelease]
        generalize after.release = release
        obtain ⟨ended, released⟩ := release
        cases ended <;> rfl

theorem step?_of_callerTurn {contention : Contention} {place : Nat}
    (hplace : place < contention.callers.length) {before after : Bench × Bool × Caller}
    (h : CallerTurn before after) :
    (contention.after place before).step? place = some (contention.after place after) := by
  unfold CallerTurn at h
  simp [Contention.after, step?, hplace, h]

-- Wherever the other callers stand in their calls, if they stay there.
theorem execute_undisturbed {contention : Contention} {place : Nat}
    (hc : contention.callers[place]? = some ⟨command :: waiting, .idle, results⟩)
    (hfree : command.isExclusive = true → contention.locked = false) :
    Undisturbed place contention
      (contention.after place
        (((Bench.executor convention).execute command contention.bench).2, contention.locked,
          ⟨waiting, .idle,
            ⟨command, ((Bench.executor convention).execute command contention.bench).1⟩ ::
              results⟩)) := by
  obtain ⟨hplace, hcaller⟩ := List.getElem?_eq_some_iff.mp hc
  have hstart : contention.after place
      (contention.bench, contention.locked, ⟨command :: waiting, .idle, results⟩) = contention := by
    rw [Contention.after, ← hcaller, List.set_getElem_self]
  have hlift : ∀ {start finish}, ReflTransGen CallerTurn start finish →
      Undisturbed place (contention.after place start) (contention.after place finish) :=
    fun hturns => ReflTransGen.lift _ (fun _ _ => step?_of_callerTurn hplace) _ _ hturns
  have hturns := hlift (turns_execute convention command waiting results contention.bench hfree)
  rwa [hstart] at hturns

end BoardLink.Contention

import BoardLink.Contention
import BoardLink.Proofs.Bench.Calls

-- Everything a single step can do, and the runs that the steps of all callers make up.
namespace BoardLink

-- The connection that the next step of a caller opens for a lamp write, if it opens one.
def Caller.opening (caller : Caller) (bench : Bench) : List Nat :=
  match caller.stage with
  | .entered command =>
    if command.opcode = .setLedValue then bench.connect.1.toList else []
  | _ => []

namespace Contention

-- One rule for each step of a call. Each names what it needs, and all that it changes.
inductive CallerStep (bench : Bench) : Bool → Caller → Bench → Bool → Caller → Prop where
  | turnAway {locked command waiting results error}
      (h : command.refusal? false = some error) :
      CallerStep bench locked ⟨command :: waiting, .idle, results⟩
        bench locked ⟨waiting, .idle, ⟨command, .finished (.error error)⟩ :: results⟩
  | enter {locked command waiting results} (he : command.isExclusive = false) :
      CallerStep bench locked ⟨command :: waiting, .idle, results⟩
        bench locked ⟨waiting, .entered command, results⟩
  | acquire {command waiting results} (he : command.isExclusive = true) :
      CallerStep bench false ⟨command :: waiting, .idle, results⟩
        bench.acquire true ⟨waiting, .entered command, results⟩
  | refused {locked command waiting results} (h : bench.refusing = true) :
      CallerStep bench locked ⟨waiting, .entered command, results⟩
        bench locked ⟨waiting, .closed command (.finished (.error .unavailable)), results⟩
  | connect {locked command waiting results} (h : bench.refusing = false) :
      CallerStep bench locked ⟨waiting, .entered command, results⟩
        (Bench.record (.connect bench.nextConnection)
          { bench with nextConnection := bench.nextConnection + 1 })
        locked ⟨waiting, .connected command bench.nextConnection, results⟩
  | record {locked command connection waiting results} :
      CallerStep bench locked ⟨waiting, .connected command connection, results⟩
        (bench.record (.exchange connection command.opcode.toByte))
        locked ⟨waiting, .recorded command connection, results⟩
  | answer {locked command connection waiting results} :
      CallerStep bench locked ⟨waiting, .recorded command connection, results⟩
        { bench with device := (bench.responder command.request.toBytes bench.device).2 }
        locked ⟨waiting, .answered command connection
          (bench.responder command.request.toBytes bench.device).1, results⟩
  | disconnect {locked command connection response waiting results} :
      CallerStep bench locked ⟨waiting, .answered command connection response, results⟩
        (bench.disconnect connection)
        locked ⟨waiting, .closed command (response.map command.normalize), results⟩
  | leave {locked command result waiting results} (he : command.isExclusive = false) :
      CallerStep bench locked ⟨waiting, .closed command result, results⟩
        bench locked ⟨waiting, .idle, ⟨command, result⟩ :: results⟩
  | release {locked command result waiting results} (he : command.isExclusive = true) :
      CallerStep bench locked ⟨waiting, .closed command result, results⟩
        bench.release.2 false ⟨waiting, .idle, ⟨command, bench.afterRelease result⟩ :: results⟩

section Step

variable {bench bench' : Bench} {locked locked' : Bool} {caller' : Caller} {command : Command}
  {waiting : List Command} {results : List (Σ command : Command, Outcome (Executor.Result command))}

-- The beginning of a call.
theorem callerStep_of_idle
    (h : stepCaller bench locked ⟨command :: waiting, .idle, results⟩ =
      some (bench', locked', caller')) :
    CallerStep bench locked ⟨command :: waiting, .idle, results⟩ bench' locked' caller' := by
  simp only [stepCaller] at h
  cases hi : command.isImplemented with
  | false =>
      simp only [hi, Bool.not_false, if_true] at h
      cases h
      exact .turnAway (by simp [Command.refusal?, hi])
  | true =>
      simp only [hi, Bool.not_true, Bool.false_eq_true, if_false] at h
      cases hv : command.validate with
      | error fault =>
          simp only [hv] at h
          cases h
          exact .turnAway (by simp [Command.refusal?, hi, hv])
      | ok =>
          simp only [hv] at h
          cases he : command.isExclusive with
          | false =>
              simp only [he, Bool.not_false, if_true] at h
              cases h
              exact .enter he
          | true =>
              cases locked with
              | true => simp [he] at h
              | false =>
                  simp only [he, Bool.not_true, Bool.false_eq_true, if_false] at h
                  cases h
                  exact .acquire he

-- The end of a call. Letting go of the lock may break down, and the lock is free all the same.
theorem callerStep_of_closed {result : Outcome (Executor.Result command)}
    (h : stepCaller bench locked ⟨waiting, .closed command result, results⟩ =
      some (bench', locked', caller')) :
    CallerStep bench locked ⟨waiting, .closed command result, results⟩ bench' locked' caller' := by
  simp only [stepCaller] at h
  cases he : command.isExclusive with
  | false =>
      simp only [he, Bool.false_eq_true, if_false] at h
      cases h
      exact .leave he
  | true =>
      have hrelease : CallerStep bench locked ⟨waiting, .closed command result, results⟩
          bench.release.2 false
          ⟨waiting, .idle, ⟨command, bench.afterRelease result⟩ :: results⟩ := .release he
      simp only [he, if_true] at h
      unfold Bench.afterRelease at hrelease
      generalize bench.release = release at h hrelease
      obtain ⟨ended, after⟩ := release
      cases ended with
      | finished =>
          cases h
          exact hrelease
      | crashed =>
          cases h
          exact hrelease

theorem callerStep_of_stepCaller {caller : Caller}
    (h : stepCaller bench locked caller = some (bench', locked', caller')) :
    CallerStep bench locked caller bench' locked' caller' := by
  obtain ⟨waiting, stage, results⟩ := caller
  cases stage with
  | idle =>
      cases waiting with
      | nil => simp [stepCaller] at h
      | cons command waiting => exact callerStep_of_idle h
  | entered command =>
      cases hr : bench.refusing with
      | true =>
          simp only [stepCaller, Bench.connect_refused hr] at h
          cases h
          exact .refused hr
      | false =>
          simp only [stepCaller, Bench.connect_allowed hr] at h
          cases h
          exact .connect hr
  | connected command connection =>
      cases h
      exact .record
  | recorded command connection =>
      cases h
      exact .answer
  | answered command connection response =>
      cases h
      exact .disconnect
  | closed command result => exact callerStep_of_closed h

end Step

-- A step replaces one caller and leaves all others where they are.
theorem callerStep_of_step? {contention next : Contention} {place : Nat}
    (h : contention.step? place = some next) :
    ∃ before caller after bench locked caller',
      contention.callers = before ++ caller :: after ∧ before.length = place ∧
      CallerStep contention.bench contention.locked caller bench locked caller' ∧
      next = ⟨bench, locked, before ++ caller' :: after⟩ := by
  simp only [step?, Option.bind_eq_bind, Option.bind_eq_some_iff] at h
  obtain ⟨caller, hc, ⟨bench, locked, caller'⟩, hs, hn⟩ := h
  obtain ⟨hl, hg⟩ := List.getElem?_eq_some_iff.mp hc
  obtain ⟨before, after, hb, hlen, hset⟩ : ∃ before after,
      contention.callers = before ++ contention.callers[place] :: after ∧
        before.length = place ∧
        contention.callers.set place caller' = before ++ caller' :: after := List.exists_of_set hl
  cases hn
  rw [hg] at hb
  exact ⟨before, caller, after, bench, locked, caller', hb, hlen,
    callerStep_of_stepCaller hs, by rw [hset]⟩

-- One move of a run: a turn for one caller, or a change from outside, which may come at any time.
inductive Move where
  | turn (place : Nat)
  | respond (responder : Responder)
  | refuse (refusing : Bool)

def move (contention : Contention) : Move → Contention
  | .turn place => (contention.step? place).getD contention
  | .respond responder => { contention with bench := { contention.bench with responder } }
  | .refuse refusing => { contention with bench := { contention.bench with refusing } }

-- The connection that a move opens for a lamp write, if it opens one.
def opening (contention : Contention) : Move → List Nat
  | .turn place =>
    match contention.callers[place]? with
    | some caller => caller.opening contention.bench
    | none => []
  | .respond _ | .refuse _ => []

-- A run from one state, together with the connections that lamp writes have opened so far, in
-- the order in which they opened them.
def play (contention : Contention) (lamps : List Nat) : List Move → Contention × List Nat
  | [] => (contention, lamps)
  | next :: rest =>
    play (contention.move next) (lamps ++ contention.opening next) rest

end Contention
end BoardLink

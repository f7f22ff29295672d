import BoardLink.Proofs.Bench.Calls
import BoardLink.Proofs.Wire.Normalize

-- How a call ends on any bench, also on one whose connections were lost count of.
-- Every end has its reason in what the other side did, and every failure has a number below zero.
namespace BoardLink

namespace CommandError

-- The number that stands for a failure. Only the board itself gives one of its own.
def code : CommandError → Int32
  | .unavailable => -1
  | .device status => status
  | .decode _ => -4
  | .unimplemented _ => -5

theorem OfReply.code_neg {error : CommandError} (h : error.OfReply) : error.code < 0 := by
  cases h with
  | decode fault => exact (by decide : (-4 : Int32) < 0)
  | device status h => exact h

end CommandError

namespace Command

-- The end of a call, with the reason for it: the other side gave an answer or broke down, and
-- some connections were open. Letting go of the lock breaks down when they cannot be counted.
inductive Ends (command : Command) (answer : Outcome (Except TransportError Bytes))
    (connections : Option Nat) : Outcome (Executor.Result command) → Prop where
  | completed {completed : Completed command.Answer} {body : Bytes} {response : Response}
      (answered : answer = .finished (.ok body)) (read : Response.ofBytes body = .ok response)
      (status : completed.status = response.status) (nonneg : 0 ≤ response.status) :
      Ends command answer connections (.finished (.ok completed))
  | failed {error : CommandError} (neg : error.code < 0) :
      Ends command answer connections (.finished (.error error))
  | crashed (broken : answer = .crashed ∨ connections = none) :
      Ends command answer connections .crashed

theorem response_of_judge {command : Command} {body : Bytes}
    {completed : Completed command.Answer} (h : command.judge body = .ok completed) :
    ∃ response, Response.ofBytes body = .ok response ∧ completed.status = response.status := by
  unfold judge at h
  split at h
  · cases h
  · rename_i response hb
    split at h
    · cases h
    · split at h
      · cases h
      · split at h
        · cases h
        · cases h
          exact ⟨response, hb, rfl⟩

theorem ends_map_normalize (command : Command)
    (answer : Outcome (Except TransportError Bytes)) (connections : Option Nat) :
    command.Ends answer connections (answer.map command.normalize) := by
  cases answer with
  | crashed => exact .crashed (.inl rfl)
  | finished reply =>
      simp only [Outcome.map]
      cases hn : command.normalize reply with
      | error error => exact .failed (ofReply_of_normalize hn).code_neg
      | ok completed =>
          cases reply with
          | error fault => cases hn
          | ok body =>
              have hs : 0 ≤ completed.status := status_of_normalize hn
              obtain ⟨response, hb, he⟩ := response_of_judge hn
              exact .completed rfl hb he (he ▸ hs)

end Command

namespace Bench

-- What the other side makes of a command.
def answer (bench : Bench) (command : Command) : Outcome (Except TransportError Bytes) :=
  (bench.responder command.request.toBytes bench.device).1

theorem openConnections?_answered (command : Command) (bench : Bench) :
    (bench.answered command).openConnections? = bench.openConnections? := by
  have hc : (bench.answered command).connectCount = bench.connectCount + 1 := by
    simp [connectCount, Event.block, List.countP_cons, Event.isConnect]
  have hd : (bench.answered command).disconnectCount = bench.disconnectCount + 1 := by
    simp [disconnectCount, Event.block]
  simp only [openConnections?, hc, hd, Nat.add_le_add_iff_right, Nat.add_sub_add_right]

-- A conversation closes what it opened.
theorem ends_converse (convention : BatteryConvention) (command : Command) (bench : Bench) :
    command.Ends (bench.answer command) bench.openConnections?
        ((executor convention).converse command bench).1 ∧
      ((executor convention).converse command bench).2.openConnections? =
        bench.openConnections? := by
  cases hr : bench.refusing with
  | true =>
      rw [converse_refused hr]
      exact ⟨.failed (by decide : (-1 : Int32) < 0), rfl⟩
  | false =>
      rw [converse_answered hr]
      exact ⟨command.ends_map_normalize (bench.answer command) bench.openConnections?,
        openConnections?_answered command bench⟩

-- Taking the lock changes neither the answer nor the connections.
theorem ends_execute_of_exclusive (convention : BatteryConvention) {command : Command}
    (he : command.isExclusive = true) (bench : Bench) :
    command.Ends (bench.answer command) bench.openConnections?
      ((executor convention).execute command bench).1 := by
  obtain ⟨result, after, hconverse⟩ : ∃ result after,
      (executor convention).converse command bench.acquire = (result, after) := ⟨_, _, rfl⟩
  have hends : command.Ends (bench.answer command) bench.openConnections? result ∧
      after.openConnections? = bench.openConnections? := by
    have hc := ends_converse convention command bench.acquire
    rw [hconverse] at hc
    exact hc
  obtain ⟨hends, hopen⟩ := hends
  rw [execute_of_exclusive he hconverse]
  simp only [afterRelease, release, hopen]
  cases hn : bench.openConnections? with
  | none => exact .crashed (.inr rfl)
  | some count =>
      rw [hn] at hends
      exact hends

theorem ends_execute (convention : BatteryConvention) (command : Command) (bench : Bench) :
    command.Ends (bench.answer command) bench.openConnections?
      ((executor convention).execute command bench).1 := by
  cases hi : command.isImplemented with
  | false =>
      simp only [Executor.execute, hi]
      exact .failed (by decide : (-5 : Int32) < 0)
  | true =>
      cases hv : command.validate with
      | error fault =>
          simp only [Executor.execute, hi, hv, if_true]
          exact .failed (by decide : (-4 : Int32) < 0)
      | ok =>
          cases he : command.isExclusive with
          | true => exact ends_execute_of_exclusive convention he bench
          | false =>
              rw [execute_of_not_exclusive hi hv he]
              exact (ends_converse convention command bench).1

end Bench

end BoardLink

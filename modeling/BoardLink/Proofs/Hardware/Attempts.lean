import BoardLink.Hardware.Method

-- How often the board is called on over a link that never breaks down in the middle. Reading all
-- voltages makes one attempt for each channel, and no failure keeps it from the next.
namespace BoardLink

namespace Executor

variable {σ κ : Type}

-- Every exchange comes to an end, and so does letting go of the lock.
structure Unbroken (executor : Executor σ κ) : Prop where
  exchange : ∀ connection body s, (executor.exchange connection body s).1 ≠ .crashed
  release : ∀ s, (executor.release s).1 ≠ .crashed

variable {executor : Executor σ κ}

theorem Unbroken.converse (h : executor.Unbroken) (command : Command) (s : σ) :
    (executor.converse command s).1 ≠ .crashed := by
  unfold Executor.converse
  split
  · nofun
  · rename_i connection opened _
    have hexchange := h.exchange connection command.request.toBytes
      (executor.traceCommand command
        ("sending " ++ toString command.request.toBytes.length ++ " bytes")
        (executor.trace guardTarget "Session opened" opened))
    dsimp only
    split
    · rename_i hcrashed
      exact absurd hcrashed hexchange
    · split <;> nofun

theorem Unbroken.execute (h : executor.Unbroken) (command : Command) (s : σ) :
    (executor.execute command s).1 ≠ .crashed := by
  unfold Executor.execute
  split
  · split
    · nofun
    · split
      · dsimp only
        split
        · exact h.converse command (executor.acquire s)
        · rename_i after hcrashed
          have hrelease := h.release (executor.converse command (executor.acquire s)).2
          exact absurd (congrArg Prod.fst hcrashed) hrelease
      · exact h.converse command s
  · nofun

-- What a call leaves on a link: an attempt to connect, which may fail, and a message.
inductive Footprint where
  | attempt (opened : Bool)
  | message (body : Bytes)
  deriving DecidableEq, Repr

-- The same executor, with its footprints listed beside its state.
def traced (executor : Executor σ κ) : Executor (σ × List Footprint) κ where
  connect := fun (s, trace) =>
    ((executor.connect s).1,
      ((executor.connect s).2, trace ++ [Footprint.attempt (executor.connect s).1.isSome]))
  exchange := fun connection body (s, trace) =>
    ((executor.exchange connection body s).1,
      ((executor.exchange connection body s).2, trace ++ [Footprint.message body]))
  disconnect := fun connection (s, trace) => (executor.disconnect connection s, trace)
  acquire := fun (s, trace) => (executor.acquire s, trace)
  release := fun (s, trace) => ((executor.release s).1, ((executor.release s).2, trace))
  log := fun line (s, trace) => (executor.log line s, trace)
  convention := executor.convention

-- The footprints of one conversation.
inductive Converses (command : Command) : List Footprint → Prop where
  | refused : Converses command [.attempt false]
  | opened : Converses command [.attempt true, .message command.request.toBytes]

-- Listing the footprints changes nothing else.
theorem converse_traced (executor : Executor σ κ) (command : Command) (s : σ)
    (trace : List Footprint) :
    ∃ prints, Converses command prints ∧
      executor.traced.converse command (s, trace) =
        ((executor.converse command s).1, ((executor.converse command s).2, trace ++ prints)) := by
  obtain ⟨connect, exchange, disconnect, acquire, release, log, convention⟩ := executor
  simp only [Executor.converse, traced, traceCommand, Executor.trace]
  obtain ⟨connection, opened, hconnect⟩ : ∃ connection opened, connect s = (connection, opened) :=
    ⟨_, _, rfl⟩
  simp only [hconnect]
  cases connection with
  | none => exact ⟨_, .refused, rfl⟩
  | some connection =>
      refine ⟨_, .opened, ?_⟩
      simp only [Option.isSome_some, List.append_assoc, List.cons_append, List.nil_append]
      generalize exchange connection _ _ = talk
      obtain ⟨response, after⟩ := talk
      cases response with
      | crashed => rfl
      | finished response =>
          dsimp only
          cases command.normalize response <;> rfl

end Executor

namespace Hardware

open Executor

variable {σ κ : Type} {executor : Executor σ κ}

theorem Method.run_ne_crashed (h : executor.Unbroken) (method : Method) (s : σ) :
    (method.run executor s).1 ≠ .crashed := by
  unfold run
  split
  · nofun
  · have hexecute := h.execute (method.command executor.convention) s
    unfold call
    dsimp only
    split
    · rename_i hcrashed
      exact absurd (congrArg Prod.fst hcrashed) hexecute
    · nofun
    · nofun

-- A channel is not looked at before it is sent, and no lock is taken for it.
theorem Method.run_voltage_traced (h : executor.Unbroken) (channel : AdcChannel) (s : σ)
    (trace : List Footprint) :
    ∃ reading after prints, Converses (.voltage channel.toByte) prints ∧
      (Method.voltage channel).run executor s = (.finished reading, after) ∧
      (Method.voltage channel).run executor.traced (s, trace) =
        (.finished reading, (after, trace ++ prints)) := by
  obtain ⟨prints, hprints, hconverse⟩ := converse_traced executor (.voltage channel.toByte) s trace
  have hunbroken := h.converse (.voltage channel.toByte) s
  have hplain : executor.execute (.voltage channel.toByte) s =
      executor.converse (.voltage channel.toByte) s := rfl
  have htraced : executor.traced.execute (.voltage channel.toByte) (s, trace) =
      executor.traced.converse (.voltage channel.toByte) (s, trace) := rfl
  simp only [run, check, command, call, hplain, htraced, hconverse]
  generalize executor.converse (.voltage channel.toByte) s = talk at hunbroken
  obtain ⟨result, after⟩ := talk
  match result with
  | .crashed => exact absurd rfl hunbroken
  | .finished (.error error) => exact ⟨_, _, prints, hprints, rfl, rfl⟩
  | .finished (.ok completed) => exact ⟨_, _, prints, hprints, rfl, rfl⟩

-- The footprints of one conversation about each channel.
inductive Attempted : List AdcChannel → List Footprint → Prop where
  | nil : Attempted [] []
  | cons {channel : AdcChannel} {rest : List AdcChannel} {prints others : List Footprint}
      (head : Converses (.voltage channel.toByte) prints) (tail : Attempted rest others) :
      Attempted (channel :: rest) (prints ++ others)

-- Whatever became of the channels before.
theorem readings_traced (h : executor.Unbroken) (channels : List AdcChannel) (s : σ)
    (trace : List Footprint) :
    ∃ found after prints, Attempted channels prints ∧ found.map Prod.fst = channels ∧
      readings executor channels s = (.finished found, after) ∧
      readings executor.traced channels (s, trace) =
        (.finished found, (after, trace ++ prints)) := by
  induction channels generalizing s trace with
  | nil => exact ⟨[], s, [], .nil, rfl, rfl, by rw [List.append_nil]; rfl⟩
  | cons channel rest ih =>
      obtain ⟨reading, next, prints, hprints, hplain, htraced⟩ :=
        Method.run_voltage_traced h channel s trace
      obtain ⟨found, after, others, hothers, hfound, hrest, hrestTraced⟩ :=
        ih next (trace ++ prints)
      refine ⟨(channel, reading) :: found, after, prints ++ others, .cons hprints hothers, ?_, ?_, ?_⟩
      · rw [List.map_cons, hfound]
      · simp only [readings, hplain, hrest, Outcome.map]
      · simp only [readings, htraced, hrestTraced, Outcome.map, List.append_assoc]

theorem allReadings_traced (h : executor.Unbroken) (s : σ) :
    ∃ found after prints, found.map Prod.fst = AdcChannel.all ∧
      allReadings executor s = (.finished found, after) ∧
      allReadings executor.traced (s, []) = (.finished found, (after, prints)) ∧
      Attempted AdcChannel.all prints := by
  obtain ⟨found, after, prints, hattempted, hchannels, hplain, htraced⟩ :=
    readings_traced h AdcChannel.all s []
  exact ⟨found, after, prints, hchannels, hplain, htraced, hattempted⟩

end Hardware

end BoardLink

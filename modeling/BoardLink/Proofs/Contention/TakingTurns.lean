import BoardLink.Proofs.Contention.Finishing
import BoardLink.Proofs.Contention.Undisturbed

-- However the steps of all callers are mixed, lamp writes follow one another on the link, and
-- some caller can always go on.
namespace BoardLink.Contention

-- The events of the connections that lamp writes have opened.
def lampLog (contention : Contention) (lamps : List Nat) : List Event :=
  contention.bench.events.filter (·.connection ∈ lamps)

-- What a lamp write under way has recorded: its connection, and perhaps its request.
def Begun (connection : Nat) (events : List Event) : Prop :=
  events = [.connect connection] ∨
    events = [.connect connection, .exchange connection Opcode.setLedValue.toByte]

-- One whole block for each connection, in order, of which only the last may be unfinished.
def InTurn (lamps : List Nat) (events : List Event) : Prop :=
  events = lamps.flatMap (Event.block · .setLedValue) ∨
    ∃ finished last part, lamps = finished ++ [last] ∧ Begun last part ∧
      events = finished.flatMap (Event.block · .setLedValue) ++ part

theorem begun_of_holdsLock {caller : Caller} (h : caller.holdsLock = true) :
    (caller.lampConnection = [] ∧ caller.lampEvents = []) ∨
      ∃ connection, caller.lampConnection = [connection] ∧
        Begun connection caller.lampEvents := by
  obtain ⟨waiting, stage, results⟩ := caller
  cases stage with
  | idle | entered | closed => simp
  | connected command connection =>
      have he : command.isExclusive = true := h
      exact .inr ⟨connection, by simp [he], .inl (by simp [he])⟩
  | recorded command connection | answered command connection response =>
      have he : command.isExclusive = true := h
      exact .inr ⟨connection, by simp [he], .inr (by simp [he])⟩

theorem inTurn_of_orderly {contention : Contention} {lamps : List Nat}
    (h : Orderly contention lamps) : InTurn lamps (contention.lampLog lamps) := by
  by_cases hh : contention.callers.countP Caller.holdsLock = 0
  · obtain ⟨finished, hl, hf⟩ := h.logged
    obtain ⟨hc, he⟩ := Caller.lamp_eq_nil_of_not_holdsLock hh
    rw [hc, List.append_nil] at hl
    rw [he, List.append_nil] at hf
    exact .inl (hl ▸ hf)
  · obtain ⟨caller, hm, hcaller⟩ := List.countP_pos_iff.mp (Nat.pos_of_ne_zero hh)
    obtain ⟨before, after, hsplit⟩ := List.append_of_mem hm
    have h' : Orderly ⟨contention.bench, contention.locked, before ++ caller :: after⟩ lamps :=
      hsplit ▸ h
    obtain ⟨hb, ha⟩ := h'.others_idle hcaller
    obtain ⟨finished, hl, hf⟩ := (Logged.holder_iff hb ha).mp h'.logged
    rcases begun_of_holdsLock hcaller with ⟨hc, he⟩ | ⟨connection, hc, he⟩
    · rw [hc, List.append_nil] at hl
      rw [he, List.append_nil] at hf
      exact .inl (hl ▸ hf)
    · exact .inr ⟨finished, connection, caller.lampEvents, hc ▸ hl, he, hf⟩

-- Any number of callers, any calls, any order of their steps, and any behaviour of the other
-- side, which may break down or refuse connections at any time. Nobody is ever stuck for good:
-- while calls are left, some caller can take its next step, and every step leaves less to do. When
-- everyone is given turns, there is a result for each call in the end. What the steps of one call
-- come to is what the executor comes to.
theorem lamp_writes_take_turns (device : Device) (calls : List (List Command))
    (moves : List Move) :
    ∃ reached lamps, (new (Bench.new device) calls).play [] moves = (reached, lamps) ∧
      reached.callers.countP Caller.holdsLock ≤ 1 ∧
      lamps.Nodup ∧
      InTurn lamps (reached.lampLog lamps) ∧
      (reached.callers.all Caller.isDone = true ∨
        ∃ (place : Nat) (caller : Caller), reached.callers[place]? = some caller ∧
          caller.isDone = false ∧ (reached.step? place).isSome) ∧
      (∀ place next, reached.step? place = some next →
        reached.GoesOn place next ∧ next.stepsLeft < reached.stepsLeft) ∧
      (reached.run.callers.all Caller.isDone = true ∧
        reached.run.callers.map Caller.finished = calls) ∧
      ∀ convention place command waiting results,
        reached.callers[place]? = some ⟨command :: waiting, .idle, results⟩ →
        (command.isExclusive = true → reached.locked = false) →
        ∃ outcome bench,
          (Bench.executor convention).execute command reached.bench = (outcome, bench) ∧
          Undisturbed place reached (reached.after place
            (bench, reached.locked, ⟨waiting, .idle, ⟨command, outcome⟩ :: results⟩)) := by
  have h := orderly_play moves (orderly_new device calls)
  have hcalls := calls_play (new (Bench.new device) calls) [] moves
  generalize (new (Bench.new device) calls).play [] moves = play at h hcalls ⊢
  obtain ⟨reached, lamps⟩ := play
  refine ⟨reached, lamps, rfl, ?_, h.numbered.distinct, inTurn_of_orderly h, ?_, ?_, ?_, ?_⟩
  · rw [h.lock]
    exact Bool.toNat_le _
  · cases hd : reached.callers.all Caller.isDone with
    | true => exact .inl rfl
    | false => exact .inr (exists_turn h hd)
  · exact fun place next hs => ⟨goesOn_of_step? hs, stepsLeft_step? hs⟩
  · obtain ⟨hdone, hfinished⟩ := run_finished h
    exact ⟨hdone, hfinished.trans (hcalls.trans (calls_new _ calls))⟩
  · intro convention place command waiting results hc hfree
    exact ⟨_, _, rfl, execute_undisturbed convention command waiting results hc hfree⟩

end BoardLink.Contention

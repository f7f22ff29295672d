import BoardLink.Proofs.Bench.Calls
import BoardLink.Proofs.Device.Respond
import BoardLink.Proofs.Value.Timestamp

-- Times sent by their fields. A field is cut to its digits before it is sent, so the board's clock
-- is always set, but not always to the time that was meant.
namespace BoardLink.ClockWrite

-- The board itself answers every request over this bench, and grants every connection.
structure Answering (bench : Bench) : Prop where
  responder : bench.responder = Responder.device
  refusing : bench.refusing = false
  scripts : bench.device.scripts = []

variable {convention : BatteryConvention} {command : Command} {bench : Bench} {time : Timestamp}

theorem execute_answering (h : Answering bench) (hi : command.isImplemented = true)
    (hv : command.validate = .ok ()) (he : command.isExclusive = false) :
    (Bench.executor convention).execute command bench =
      (.finished (command.judge (bench.device.respond command.request).1.toBytes),
        { bench.answered command with device := (bench.device.respond command.request).2 }) := by
  rw [Bench.execute_of_not_exclusive hi hv he, Bench.converse_answered h.refusing, Bench.answered,
    h.responder, Device.responder_request h.scripts]
  rfl

theorem text_reduced (time : Timestamp) : time.reduced.text = time.text := by
  rw [Timestamp.text, Timestamp.characters_reduced, Timestamp.text]

-- Whatever the fields are, the command is sent, and the board takes what is left of them.
theorem execute_setTime (h : Answering bench) (time : Timestamp) :
    (Bench.executor convention).execute (.setTime time) bench =
      (.finished (.ok ⟨0, ()⟩),
        { bench.answered (.setTime time) with
          device := { bench.device with clock := time.reduced } }) := by
  have hread := Timestamp.ofText_text_eq time
  have hvalid : (Command.setTime time).validate = .ok () := by
    simp only [Command.setTime, Command.validate, hread]
  have hrespond : bench.device.respond (Command.setTime time).request =
      (.success .setRtcDateTime [], { bench.device with clock := time.reduced }) :=
    Device.respond_setClock hread
  have hjudge : (Command.setTime time).judge (Response.success .setRtcDateTime []).toBytes =
      .ok ⟨0, ()⟩ := Command.judge_toBytes (by decide) (Nat.zero_le _) rfl
  rw [execute_answering h rfl hvalid rfl, hrespond, hjudge]

-- A clock that was set from a text is read back as it was set.
theorem execute_clock (h : Answering bench) (hc : bench.device.clock = time.reduced) :
    (Bench.executor convention).execute .clock bench =
      (.finished (.ok ⟨0, time.reduced⟩), { bench.answered .clock with device := bench.device }) := by
  have hrespond : bench.device.respond Command.clock.request =
      (.success .getRtcDateTime time.reduced.toWire, bench.device) := by rw [← hc]; rfl
  have hlen : time.reduced.toWire.length = Timestamp.fieldLength := Timestamp.length_field _
  have hread : Timestamp.ofWire time.reduced.toWire = .ok time.reduced := by
    rw [Timestamp.toWire, text_reduced]
    exact Timestamp.ofWire_field (Timestamp.ofText_text_eq time)
  have hjudge : Command.clock.judge
      (Response.success .getRtcDateTime time.reduced.toWire).toBytes =
        .ok ⟨0, time.reduced⟩ := by
    refine Command.judge_toBytes (by decide) (by rw [hlen]; decide) ?_
    rw [Command.decode, if_pos hlen, hread]
  rw [execute_answering h rfl rfl rfl, hrespond, hjudge]

-- A time that is sent may be turned away before a connection is opened.
def TurnedAway (convention : BatteryConvention) (bench : Bench) (time : Timestamp) : Prop :=
  ∃ fault, (Bench.executor convention).execute (.setTime time) bench =
    (.finished (.error (.decode fault)), bench)

-- Or it is sent over the next connection, the board's clock is set to `kept` and nothing else on
-- the board is, and the clock is then read as `kept`.
def Kept (convention : BatteryConvention) (bench : Bench) (time kept : Timestamp) : Prop :=
  ∃ after later, (Bench.executor convention).execute (.setTime time) bench =
      (.finished (.ok ⟨0, ()⟩), after) ∧
    after.events = bench.events ++ Event.block bench.nextConnection .setRtcDateTime ∧
    after.device = { bench.device with clock := kept } ∧
    (Bench.executor convention).execute .clock after = (.finished (.ok ⟨0, kept⟩), later)

theorem kept_reduced (convention : BatteryConvention) (h : Answering bench) (time : Timestamp) :
    Kept convention bench time time.reduced := by
  -- The clock is read on the bench that the first command left behind.
  have hafter : Answering { bench.answered (.setTime time) with
      device := { bench.device with clock := time.reduced } } :=
    ⟨h.responder, h.refusing, h.scripts⟩
  exact ⟨_, _, execute_setTime h time, rfl, rfl, execute_clock hafter rfl⟩

theorem eq_reduced_of_kept (h : Answering bench) {kept : Timestamp}
    (hk : Kept convention bench time kept) : kept = time.reduced := by
  obtain ⟨after, later, hset, -, hdevice, -⟩ := hk
  rw [execute_setTime h] at hset
  have hbench := congrArg (fun result => result.2.device.clock) hset
  have hclock := congrArg Device.clock hdevice
  exact (hbench.trans hclock).symm

theorem not_turnedAway (h : Answering bench) : ¬ TurnedAway convention bench time := by
  rintro ⟨fault, hset⟩
  rw [execute_setTime h] at hset
  cases (Prod.mk.inj hset).1

-- Every time is sent, and the board keeps the lowest digits of its fields: four of the year and two
-- of the others. That is the time that was meant if and only if its fields have no more digits.
theorem sent_time_keeps_its_digits (convention : BatteryConvention) {bench : Bench}
    (h : Answering bench) (time : Timestamp) :
    Kept convention bench time time.reduced ∧ (time.reduced = time ↔ time.InRange) :=
  ⟨kept_reduced convention h time, Timestamp.reduced_eq_iff⟩

-- The year 12016 is kept as 2016.
theorem year_12016_keeps_its_digits : Answering (Bench.new .initial) ∧
    Kept .payloadNonZero (Bench.new .initial) ⟨12016, 3, 29, 19, 9, 6, 58⟩
      ⟨2016, 3, 29, 19, 9, 6, 58⟩ ∧
    ¬ Timestamp.InRange ⟨12016, 3, 29, 19, 9, 6, 58⟩ := by
  have h : Answering (Bench.new .initial) := ⟨rfl, rfl, rfl⟩
  obtain ⟨hkept, -⟩ := sent_time_keeps_its_digits .payloadNonZero h ⟨12016, 3, 29, 19, 9, 6, 58⟩
  exact ⟨h, hkept, by unfold Timestamp.InRange; decide⟩

-- The first time after the year 9999 is neither turned away nor kept, though the board answers.
theorem year_10000_is_sent_as_another : Answering (Bench.new .initial) ∧
    ¬ (TurnedAway .payloadNonZero (Bench.new .initial) ⟨10000, 1, 1, 0, 0, 0, 0⟩ ∨
      Kept .payloadNonZero (Bench.new .initial) ⟨10000, 1, 1, 0, 0, 0, 0⟩
        ⟨10000, 1, 1, 0, 0, 0, 0⟩) := by
  have h : Answering (Bench.new .initial) := ⟨rfl, rfl, rfl⟩
  refine ⟨h, ?_⟩
  rintro (haway | hkept)
  · exact not_turnedAway h haway
  · exact absurd (eq_reduced_of_kept h hkept) (by decide)

end BoardLink.ClockWrite

import BoardLink.Proofs.Contention.Steps

-- The order that the lamp lock brings into the mixed steps of all callers, as an invariant.
namespace BoardLink

theorem Command.isExclusive_iff {command : Command} :
    command.isExclusive = true ↔ command.opcode = .setLedValue := by
  cases command <;> simp [isExclusive, opcode]

namespace Stage

-- Whether a caller is between taking and letting go of the lamp lock.
@[simp] def holdsLock : Stage → Bool
  | .idle => false
  | .entered command | .connected command _ | .recorded command _ | .answered command _ _
  | .closed command _ => command.isExclusive

-- The connection that a caller has opened and not closed.
@[simp] def connection? : Stage → Option Nat
  | .connected _ connection | .recorded _ connection | .answered _ connection _ => some connection
  | .idle | .entered _ | .closed .. => none

-- The connection of an unfinished lamp write, and the events of it so far.
@[simp] def lampConnection : Stage → List Nat
  | .connected command connection | .recorded command connection
  | .answered command connection _ => if command.isExclusive then [connection] else []
  | .idle | .entered _ | .closed .. => []

@[simp] def lampEvents : Stage → List Event
  | .connected command connection => if command.isExclusive then [.connect connection] else []
  | .recorded command connection | .answered command connection _ =>
    if command.isExclusive then
      [.connect connection, .exchange connection Opcode.setLedValue.toByte]
    else []
  | .idle | .entered _ | .closed .. => []

end Stage

namespace Caller

def holdsLock (caller : Caller) : Bool := caller.stage.holdsLock

def connection? (caller : Caller) : Option Nat := caller.stage.connection?

def lampConnection (caller : Caller) : List Nat := caller.stage.lampConnection

def lampEvents (caller : Caller) : List Event := caller.stage.lampEvents

section Fields

variable {waiting : List Command} {stage : Stage}
  {results : List (Σ command : Command, Outcome (Executor.Result command))}

@[simp] theorem holdsLock_mk : holdsLock ⟨waiting, stage, results⟩ = stage.holdsLock := rfl

@[simp] theorem connection?_mk : connection? ⟨waiting, stage, results⟩ = stage.connection? := rfl

@[simp] theorem lampConnection_mk :
    lampConnection ⟨waiting, stage, results⟩ = stage.lampConnection := rfl

@[simp] theorem lampEvents_mk : lampEvents ⟨waiting, stage, results⟩ = stage.lampEvents := rfl

end Fields

-- An open connection has a number below the next one, and is listed if the lock is held.
def Fits (next : Nat) (lamps : List Nat) (caller : Caller) : Prop :=
  ∀ connection, caller.connection? = some connection →
    connection < next ∧ (connection ∈ lamps ↔ caller.holdsLock = true)

theorem fits_of_connection?_eq_none {next : Nat} {lamps : List Nat} {caller : Caller}
    (h : caller.connection? = none) : caller.Fits next lamps := by
  intro connection hc
  rw [h] at hc
  cases hc

theorem lamp_eq_nil_of_connection?_eq_none {caller : Caller} (h : caller.connection? = none) :
    caller.lampConnection = [] ∧ caller.lampEvents = [] := by
  obtain ⟨waiting, stage, results⟩ := caller
  cases stage <;> simp_all

theorem lamp_eq_nil {caller : Caller} (h : caller.holdsLock = false) :
    caller.lampConnection = [] ∧ caller.lampEvents = [] := by
  obtain ⟨waiting, stage, results⟩ := caller
  cases stage <;> simp_all

theorem lamp_eq_nil_of_not_holdsLock {callers : List Caller}
    (h : callers.countP holdsLock = 0) :
    callers.flatMap lampConnection = [] ∧ callers.flatMap lampEvents = [] := by
  have hn : ∀ caller ∈ callers, caller.lampConnection = [] ∧ caller.lampEvents = [] := by
    intro caller hm
    exact lamp_eq_nil (by simpa using List.countP_eq_zero.mp h caller hm)
  exact ⟨List.flatMap_eq_nil_iff.mpr fun caller hm => (hn caller hm).1,
    List.flatMap_eq_nil_iff.mpr fun caller hm => (hn caller hm).2⟩

end Caller

namespace Contention

-- Numbers are given out once: what is recorded, listed or open lies below the next number.
structure Numbered (events : List Event) (next : Nat) (lamps : List Nat)
    (callers : List Caller) : Prop where
  recorded : ∀ event ∈ events, event.connection < next
  listed : ∀ connection ∈ lamps, connection < next
  distinct : lamps.Nodup
  opened : ∀ caller ∈ callers, caller.Fits next lamps

namespace Numbered

variable {events : List Event} {next : Nat} {lamps : List Nat} {callers before after : List Caller}
  {caller caller' : Caller}

theorem notMem_next (h : Numbered events next lamps callers) : next ∉ lamps :=
  fun hm => Nat.lt_irrefl _ (h.listed next hm)

theorem fits (h : Numbered events next lamps (before ++ caller :: after)) :
    caller.Fits next lamps :=
  h.opened caller (by simp)

theorem replace (h : Numbered events next lamps (before ++ caller :: after))
    (hf : caller'.Fits next lamps) : Numbered events next lamps (before ++ caller' :: after) := by
  refine { h with opened := ?_ }
  have ho := h.opened
  simp only [List.forall_mem_append, List.forall_mem_cons] at ho ⊢
  exact ⟨ho.1, hf, ho.2.2⟩

theorem record (h : Numbered events next lamps callers) (event : Event)
    (he : event.connection < next) : Numbered (events ++ [event]) next lamps callers := by
  refine { h with recorded := ?_ }
  simp only [List.forall_mem_append, List.forall_mem_cons]
  exact ⟨h.recorded, he, nofun⟩

theorem skip (h : Numbered events next lamps callers) :
    Numbered events (next + 1) lamps callers where
  recorded event hm := Nat.lt_succ_of_lt (h.recorded event hm)
  listed connection hm := Nat.lt_succ_of_lt (h.listed connection hm)
  distinct := h.distinct
  opened caller hm connection hc := by
    obtain ⟨hlt, hiff⟩ := h.opened caller hm connection hc
    exact ⟨Nat.lt_succ_of_lt hlt, hiff⟩

theorem list (h : Numbered events next lamps callers) :
    Numbered events (next + 1) (lamps ++ [next]) callers where
  recorded := h.skip.recorded
  listed connection hm := by
    rcases List.mem_append.mp hm with hm | hm
    · exact h.skip.listed connection hm
    · exact List.mem_singleton.mp hm ▸ Nat.lt_succ_self next
  distinct := by
    have hd := h.distinct
    have hn := h.notMem_next
    simp only [List.nodup_append, List.mem_singleton]
    exact ⟨hd, by simp, fun a ha b hb hab => hn (hb ▸ hab ▸ ha)⟩
  opened caller hm connection hc := by
    obtain ⟨hlt, hiff⟩ := h.opened caller hm connection hc
    have hne : connection ≠ next := Nat.ne_of_lt hlt
    exact ⟨Nat.lt_succ_of_lt hlt, by simp [hiff, hne]⟩

end Numbered

-- The events of the listed connections are whole blocks, and what the holder has done so far.
def Logged (events : List Event) (lamps : List Nat) (callers : List Caller) : Prop :=
  ∃ finished, lamps = finished ++ callers.flatMap Caller.lampConnection ∧
    events.filter (·.connection ∈ lamps) = finished.flatMap (Event.block · .setLedValue) ++
      callers.flatMap Caller.lampEvents

namespace Logged

variable {events : List Event} {lamps : List Nat} {callers before after : List Caller}
  {caller caller' : Caller}

theorem replace (h : Logged events lamps (before ++ caller :: after))
    (hc : caller'.lampConnection = caller.lampConnection)
    (he : caller'.lampEvents = caller.lampEvents) :
    Logged events lamps (before ++ caller' :: after) := by
  simpa only [Logged, List.flatMap_append, List.flatMap_cons, hc, he] using h

theorem record_other (h : Logged events lamps callers) {event : Event}
    (he : event.connection ∉ lamps) : Logged (events ++ [event]) lamps callers := by
  simpa [Logged, he] using h

-- With the lock held, the log of lamp writes is a matter of the holder alone.
theorem holder_iff (hb : before.countP Caller.holdsLock = 0)
    (ha : after.countP Caller.holdsLock = 0) :
    Logged events lamps (before ++ caller :: after) ↔
      ∃ finished, lamps = finished ++ caller.lampConnection ∧
        events.filter (·.connection ∈ lamps) = finished.flatMap (Event.block · .setLedValue) ++
          caller.lampEvents := by
  obtain ⟨hbc, hbe⟩ := Caller.lamp_eq_nil_of_not_holdsLock hb
  obtain ⟨hac, hae⟩ := Caller.lamp_eq_nil_of_not_holdsLock ha
  simp only [Logged, List.flatMap_append, List.flatMap_cons, hbc, hbe, hac, hae, List.nil_append,
    List.append_nil]

end Logged

-- What holds between any two steps. The lock flag counts the callers that hold the lock.
structure Orderly (contention : Contention) (lamps : List Nat) : Prop where
  lock : contention.callers.countP Caller.holdsLock = contention.locked.toNat
  numbered : Numbered contention.bench.events contention.bench.nextConnection lamps
    contention.callers
  logged : Logged contention.bench.events lamps contention.callers

theorem idle_new {bench : Bench} {calls : List (List Command)} {caller : Caller}
    (h : caller ∈ (new bench calls).callers) : caller.stage = .idle ∧ caller.results = [] := by
  obtain ⟨commands, _, rfl⟩ := List.mem_map.mp h
  exact ⟨rfl, rfl⟩

theorem orderly_new (device : Device) (calls : List (List Command)) :
    Orderly (new (Bench.new device) calls) [] := by
  have hlock : (new (Bench.new device) calls).callers.countP Caller.holdsLock = 0 := by
    apply List.countP_eq_zero.mpr
    intro caller hm
    simp [Caller.holdsLock, (idle_new hm).1]
  obtain ⟨hc, he⟩ := Caller.lamp_eq_nil_of_not_holdsLock hlock
  refine ⟨hlock, ⟨nofun, nofun, List.nodup_nil, ?_⟩, [], ?_, ?_⟩
  · intro caller hm
    exact Caller.fits_of_connection?_eq_none (by simp [Caller.connection?, (idle_new hm).1])
  · rw [hc]
    rfl
  · rw [he]
    rfl

section Step

variable {bench bench' : Bench} {locked locked' : Bool} {before after : List Caller}
  {caller caller' : Caller} {lamps : List Nat}

-- Nobody but the holder holds the lock, so nobody else has a lamp write under way.
theorem Orderly.others_idle (h : Orderly ⟨bench, locked, before ++ caller :: after⟩ lamps)
    (hc : caller.holdsLock = true) :
    before.countP Caller.holdsLock = 0 ∧ after.countP Caller.holdsLock = 0 := by
  have hl := h.lock
  have := Bool.toNat_le locked
  simp only [List.countP_append, List.countP_cons, hc, if_true] at hl
  omega

theorem lock_replace
    (h : (before ++ caller :: after).countP Caller.holdsLock = locked.toNat)
    (hl : caller'.holdsLock.toNat + locked.toNat = caller.holdsLock.toNat + locked'.toNat) :
    (before ++ caller' :: after).countP Caller.holdsLock = locked'.toNat := by
  simp only [List.countP_append, List.countP_cons] at h ⊢
  cases hx : caller.holdsLock <;> cases hy : caller'.holdsLock <;>
    simp [hx, hy] at hl h ⊢ <;> omega

theorem lock_step (hs : CallerStep bench locked caller bench' locked' caller')
    (h : (before ++ caller :: after).countP Caller.holdsLock = locked.toNat) :
    (before ++ caller' :: after).countP Caller.holdsLock = locked'.toNat := by
  apply lock_replace h
  cases hs with
  | turnAway | refused | connect | record | answer | disconnect => rfl
  | enter he | leave he => simp [he]
  | acquire he => simp [he]
  | release he =>
      have hlocked : locked = true := by
        have hb := Bool.toNat_le locked
        cases locked with
        | true => rfl
        | false => simp [he] at h
      simp [he, hlocked]

section Link

variable {events : List Event} {next connection : Nat} {command : Command} {waiting : List Command}
  {response : Outcome (Except TransportError Bytes)}
  {results : List (Σ command : Command, Outcome (Executor.Result command))}

theorem logged_connect_lamp (he : command.isExclusive = true)
    (hb : before.countP Caller.holdsLock = 0) (ha : after.countP Caller.holdsLock = 0)
    (hn : Numbered events next lamps (before ++ ⟨waiting, .entered command, results⟩ :: after))
    (h : Logged events lamps (before ++ ⟨waiting, .entered command, results⟩ :: after)) :
    Logged (events ++ [.connect next]) (lamps ++ [next])
      (before ++ ⟨waiting, .connected command next, results⟩ :: after) := by
  obtain ⟨finished, hl, hf⟩ := (Logged.holder_iff hb ha).mp h
  simp only [Caller.lampConnection_mk, Caller.lampEvents_mk, Stage.lampConnection, Stage.lampEvents,
    List.append_nil] at hl hf
  -- Events recorded earlier belong to lower numbers.
  have hold : events.filter (·.connection ∈ lamps ++ [next]) =
      events.filter (·.connection ∈ lamps) := by
    apply List.filter_congr
    intro event hm
    have hne : event.connection ≠ next := Nat.ne_of_lt (hn.recorded event hm)
    simp [hne]
  apply (Logged.holder_iff hb ha).mpr
  refine ⟨finished, ?_, ?_⟩
  · simp [he, hl]
  · rw [List.filter_append, hold, hf]
    simp [he]

theorem logged_connect_other (he : command.isExclusive = false)
    (hn : Numbered events next lamps (before ++ ⟨waiting, .entered command, results⟩ :: after))
    (h : Logged events lamps (before ++ ⟨waiting, .entered command, results⟩ :: after)) :
    Logged (events ++ [.connect next]) lamps
      (before ++ ⟨waiting, .connected command next, results⟩ :: after) := by
  apply Logged.record_other _ hn.notMem_next
  apply h.replace <;> simp [he]

theorem logged_record (he : command.isExclusive = true)
    (hb : before.countP Caller.holdsLock = 0) (ha : after.countP Caller.holdsLock = 0)
    (hm : connection ∈ lamps)
    (h : Logged events lamps
      (before ++ ⟨waiting, .connected command connection, results⟩ :: after)) :
    Logged (events ++ [.exchange connection command.opcode.toByte]) lamps
      (before ++ ⟨waiting, .recorded command connection, results⟩ :: after) := by
  obtain ⟨finished, hl, hf⟩ := (Logged.holder_iff hb ha).mp h
  have ho := Command.isExclusive_iff.mp he
  apply (Logged.holder_iff hb ha).mpr
  refine ⟨finished, hl, ?_⟩
  rw [List.filter_append, hf]
  simp [he, hm, ho]

theorem logged_disconnect (he : command.isExclusive = true)
    (hb : before.countP Caller.holdsLock = 0) (ha : after.countP Caller.holdsLock = 0)
    (hm : connection ∈ lamps)
    (h : Logged events lamps
      (before ++ ⟨waiting, .answered command connection response, results⟩ :: after)) :
    Logged (events ++ [.disconnect connection]) lamps
      (before ++ ⟨waiting, .closed command (response.map command.normalize), results⟩ :: after) := by
  obtain ⟨finished, hl, hf⟩ := (Logged.holder_iff hb ha).mp h
  simp only [Caller.lampConnection_mk, Caller.lampEvents_mk, Stage.lampConnection, Stage.lampEvents,
    he, if_true] at hl hf
  apply (Logged.holder_iff hb ha).mpr
  refine ⟨finished ++ [connection], ?_, ?_⟩
  · simp [hl]
  · rw [List.filter_append, hf]
    simp [Event.block, hm]

end Link

-- The steps that leave the log and the number of the next connection alone.
theorem Orderly.keep (h : Orderly ⟨bench, locked, before ++ caller :: after⟩ lamps)
    (hs : CallerStep bench locked caller bench' locked' caller')
    (he : bench'.events = bench.events) (hn : bench'.nextConnection = bench.nextConnection)
    (hf : caller'.Fits bench.nextConnection lamps)
    (hc : caller'.lampConnection = caller.lampConnection)
    (hl : caller'.lampEvents = caller.lampEvents) :
    Orderly ⟨bench', locked', before ++ caller' :: after⟩ lamps := by
  refine ⟨lock_step hs h.lock, ?_, ?_⟩
  · simp only [he, hn]
    exact h.numbered.replace hf
  · simp only [he]
    exact h.logged.replace hc hl

-- The steps of callers that have no connection, except for opening one.
theorem Orderly.keep_unconnected (h : Orderly ⟨bench, locked, before ++ caller :: after⟩ lamps)
    (hs : CallerStep bench locked caller bench' locked' caller')
    (he : bench'.events = bench.events) (hn : bench'.nextConnection = bench.nextConnection)
    (hc : caller.connection? = none) (hc' : caller'.connection? = none) :
    Orderly ⟨bench', locked', before ++ caller' :: after⟩ lamps := by
  obtain ⟨hconnection, hevents⟩ := Caller.lamp_eq_nil_of_connection?_eq_none hc
  obtain ⟨hconnection', hevents'⟩ := Caller.lamp_eq_nil_of_connection?_eq_none hc'
  exact h.keep hs he hn (Caller.fits_of_connection?_eq_none hc')
    (hconnection'.trans hconnection.symm) (hevents'.trans hevents.symm)

section Link

variable {connection : Nat} {command : Command} {waiting : List Command}
  {response : Outcome (Except TransportError Bytes)}
  {results : List (Σ command : Command, Outcome (Executor.Result command))}

-- A lamp write opens the next connection, and every other command opens one that is not listed.
theorem orderly_connect (hr : bench.refusing = false)
    (h : Orderly ⟨bench, locked, before ++ ⟨waiting, .entered command, results⟩ :: after⟩ lamps) :
    Orderly ⟨Bench.record (.connect bench.nextConnection)
        { bench with nextConnection := bench.nextConnection + 1 }, locked,
        before ++ ⟨waiting, .connected command bench.nextConnection, results⟩ :: after⟩
      (lamps ++ Caller.opening ⟨waiting, .entered command, results⟩ bench) := by
  have hlock := lock_step (.connect hr) h.lock
  have hnew := h.numbered.notMem_next
  cases he : command.isExclusive with
  | true =>
      have ho : Caller.opening ⟨waiting, .entered command, results⟩ bench =
          [bench.nextConnection] := by
        simp [Caller.opening, Bench.connect_allowed hr, Command.isExclusive_iff.mp he]
      obtain ⟨hb, ha⟩ := h.others_idle he
      rw [ho]
      refine ⟨hlock, ?_, logged_connect_lamp he hb ha h.numbered h.logged⟩
      apply (h.numbered.list.record _ (Nat.lt_succ_self _)).replace
      rintro connection ⟨⟩
      exact ⟨Nat.lt_succ_self _, by simp [he]⟩
  | false =>
      have ho : Caller.opening ⟨waiting, .entered command, results⟩ bench = [] := by
        have hne : command.opcode ≠ .setLedValue := by
          rw [ne_eq, ← Command.isExclusive_iff, he]
          exact Bool.false_ne_true
        simp [Caller.opening, hne]
      rw [ho, List.append_nil]
      refine ⟨hlock, ?_, logged_connect_other he h.numbered h.logged⟩
      apply (h.numbered.skip.record _ (Nat.lt_succ_self _)).replace
      rintro connection ⟨⟩
      exact ⟨Nat.lt_succ_self _, by simp [he, hnew]⟩

theorem orderly_record
    (h : Orderly ⟨bench, locked,
      before ++ ⟨waiting, .connected command connection, results⟩ :: after⟩ lamps) :
    Orderly ⟨bench.record (.exchange connection command.opcode.toByte), locked,
      before ++ ⟨waiting, .recorded command connection, results⟩ :: after⟩ lamps := by
  have hfits := h.numbered.fits
  obtain ⟨hlt, hiff⟩ := hfits connection rfl
  have hlock := lock_step (@CallerStep.record bench locked command _ _ _) h.lock
  have hnumbered := h.numbered.record (.exchange connection command.opcode.toByte) hlt
  refine ⟨hlock, hnumbered.replace hfits, ?_⟩
  cases he : command.isExclusive with
  | true =>
      obtain ⟨hb, ha⟩ := h.others_idle he
      exact logged_record he hb ha (hiff.mpr he) h.logged
  | false =>
      apply Logged.record_other _ (by rw [Event.connection, hiff]; simp [he])
      apply h.logged.replace <;> simp [he]

theorem orderly_disconnect
    (h : Orderly ⟨bench, locked,
      before ++ ⟨waiting, .answered command connection response, results⟩ :: after⟩ lamps) :
    Orderly ⟨bench.disconnect connection, locked,
      before ++ ⟨waiting, .closed command (response.map command.normalize), results⟩ :: after⟩
      lamps := by
  obtain ⟨hlt, hiff⟩ := h.numbered.fits connection rfl
  have hlock := lock_step (@CallerStep.disconnect bench locked command _ _ _ _) h.lock
  have hnumbered := h.numbered.record (.disconnect connection) hlt
  refine ⟨hlock, hnumbered.replace (Caller.fits_of_connection?_eq_none rfl), ?_⟩
  cases he : command.isExclusive with
  | true =>
      obtain ⟨hb, ha⟩ := h.others_idle he
      exact logged_disconnect he hb ha (hiff.mpr he) h.logged
  | false =>
      apply Logged.record_other _ (by rw [Event.connection, hiff]; simp [he])
      apply h.logged.replace <;> simp [he]

end Link

theorem orderly_step (hs : CallerStep bench locked caller bench' locked' caller')
    (h : Orderly ⟨bench, locked, before ++ caller :: after⟩ lamps) :
    Orderly ⟨bench', locked', before ++ caller' :: after⟩ (lamps ++ caller.opening bench) := by
  cases hs with
  | turnAway hr =>
      rw [Caller.opening, List.append_nil]
      exact h.keep_unconnected (.turnAway hr) rfl rfl rfl rfl
  | enter he =>
      rw [Caller.opening, List.append_nil]
      exact h.keep_unconnected (.enter he) rfl rfl rfl rfl
  | acquire he =>
      rw [Caller.opening, List.append_nil]
      exact h.keep_unconnected (.acquire he) rfl rfl rfl rfl
  | @refused _ command waiting results hr =>
      have ho : Caller.opening ⟨waiting, .entered command, results⟩ bench = [] := by
        simp [Caller.opening, Bench.connect_refused hr]
      rw [ho, List.append_nil]
      exact h.keep_unconnected (.refused hr) rfl rfl rfl rfl
  | connect hr => exact orderly_connect hr h
  | record =>
      rw [Caller.opening, List.append_nil]
      exact orderly_record h
  | answer =>
      rw [Caller.opening, List.append_nil]
      exact h.keep .answer rfl rfl h.numbered.fits rfl rfl
  | disconnect =>
      rw [Caller.opening, List.append_nil]
      exact orderly_disconnect h
  | leave he =>
      rw [Caller.opening, List.append_nil]
      exact h.keep_unconnected (.leave he) rfl rfl rfl rfl
  | release he =>
      rw [Caller.opening, List.append_nil]
      exact h.keep_unconnected (.release he) (Bench.events_release bench)
        (Bench.nextConnection_release bench) rfl rfl

end Step

end Contention
end BoardLink

import BoardLink.Proofs.Bench.Calls

-- The open connections, as they are and as the recorded events tell them. Both are the same until
-- the events are cleared under an open connection. From then on every connection that was open at
-- that time is missed, and when it is closed the events tell of a connection too few.
namespace BoardLink.OpenConnections

inductive Step where
  | connect
  | exchange (connection : Nat) (request : Bytes)
  | disconnect (connection : Nat)
  | clearEvents
  | refuse (refusing : Bool)
  | respond (responder : Responder)

-- `live` are the connections that were handed out and not given back. `missed` is how many there
-- were when the events were last cleared.
structure State where
  bench : Bench
  live : List Nat
  missed : Nat

def start (device : Device) : State := ⟨Bench.new device, [], 0⟩

-- Only a connection that somebody holds can be used or given back, and giving it back ends it.
def take (state : State) : Step → State
  | .connect =>
    match state.bench.connect with
    | (none, bench) => { state with bench }
    | (some connection, bench) => { state with bench, live := connection :: state.live }
  | .exchange connection request =>
    if connection ∈ state.live then
      { state with bench := (state.bench.exchange connection request).2 }
    else state
  | .disconnect connection =>
    if connection ∈ state.live then
      { state with
        bench := state.bench.disconnect connection
        live := state.live.erase connection }
    else state
  | .clearEvents =>
    { state with bench := state.bench.clearEvents, missed := state.live.length }
  | .refuse refusing => { state with bench := { state.bench with refusing } }
  | .respond responder => { state with bench := { state.bench with responder } }

def run (state : State) (steps : List Step) : State := steps.foldl take state

-- The events account for all connections but the missed ones, and no connection is held twice.
structure Accounted (state : State) : Prop where
  account : state.bench.connectCount + state.missed =
    state.live.length + state.bench.disconnectCount
  earlier : ∀ connection ∈ state.live, connection < state.bench.nextConnection
  distinct : state.live.Nodup

variable {state : State}

theorem accounted_start (device : Device) : Accounted (start device) where
  account := rfl
  earlier := nofun
  distinct := List.nodup_nil

-- The counts go by the events alone.
theorem counts_concat {bench after : Bench} {event : Event}
    (h : after.events = bench.events ++ [event]) :
    after.connectCount = bench.connectCount + event.isConnect.toNat ∧
      after.disconnectCount = bench.disconnectCount + event.isDisconnect.toNat := by
  unfold Bench.connectCount Bench.disconnectCount
  rw [h, List.countP_append, List.countP_append]
  cases event <;> exact ⟨rfl, rfl⟩

-- A new connection has a number that no held one has.
theorem Accounted.connect (h : Accounted state) : Accounted (take state .connect) := by
  cases hr : state.bench.refusing with
  | true =>
      simp only [take, Bench.connect_refused hr]
      exact h
  | false =>
      have hfresh : state.bench.nextConnection ∉ state.live := fun hm =>
        Nat.lt_irrefl _ (h.earlier _ hm)
      simp only [take, Bench.connect_allowed hr]
      refine ⟨?_, ?_, List.nodup_cons.mpr ⟨hfresh, h.distinct⟩⟩
      · have haccount := h.account
        have hrecorded : (Bench.record (.connect state.bench.nextConnection)
            { state.bench with nextConnection := state.bench.nextConnection + 1 }).events =
          state.bench.events ++ [Event.connect state.bench.nextConnection] := rfl
        obtain ⟨hopened, hclosed⟩ := counts_concat hrecorded
        simp only [hopened, hclosed, Event.isConnect, Event.isDisconnect, List.length_cons,
          Bool.toNat_true, Bool.toNat_false]
        omega
      · intro connection hm
        rcases List.mem_cons.mp hm with rfl | hm
        · exact Nat.lt_succ_self _
        · exact Nat.lt_succ_of_lt (h.earlier connection hm)

theorem Accounted.exchange (h : Accounted state) (connection : Nat) (request : Bytes) :
    Accounted (take state (.exchange connection request)) := by
  by_cases hm : connection ∈ state.live
  · simp only [take, if_pos hm]
    have hrecorded : (state.bench.exchange connection request).2.events =
      state.bench.events ++ [Event.exchange connection (request.headD 0)] := rfl
    obtain ⟨hopened, hclosed⟩ := counts_concat hrecorded
    refine ⟨?_, h.earlier, h.distinct⟩
    simp only [hopened, hclosed]
    exact h.account
  · simp only [take, if_neg hm]
    exact h

theorem Accounted.disconnect (h : Accounted state) (connection : Nat) :
    Accounted (take state (.disconnect connection)) := by
  by_cases hm : connection ∈ state.live
  · simp only [take, if_pos hm]
    refine ⟨?_, fun other ho => h.earlier other (List.mem_of_mem_erase ho), h.distinct.erase _⟩
    have haccount := h.account
    have hpos := List.length_pos_of_mem hm
    have hlive := List.length_erase_of_mem hm
    have hrecorded : (state.bench.disconnect connection).events =
      state.bench.events ++ [Event.disconnect connection] := rfl
    obtain ⟨hopened, hclosed⟩ := counts_concat hrecorded
    simp only [hopened, hclosed, Event.isConnect, Event.isDisconnect, Bool.toNat_true,
      Bool.toNat_false]
    omega
  · simp only [take, if_neg hm]
    exact h

-- What is open at that time will never be told by the events again.
theorem Accounted.clearEvents (h : Accounted state) : Accounted (take state .clearEvents) where
  account := Nat.add_comm 0 _
  earlier := h.earlier
  distinct := h.distinct

theorem Accounted.take (h : Accounted state) (step : Step) :
    Accounted (OpenConnections.take state step) := by
  cases step with
  | connect => exact h.connect
  | exchange connection request => exact h.exchange connection request
  | disconnect connection => exact h.disconnect connection
  | clearEvents => exact h.clearEvents
  | refuse refusing => exact ⟨h.account, h.earlier, h.distinct⟩
  | respond responder => exact ⟨h.account, h.earlier, h.distinct⟩

theorem Accounted.run (h : Accounted state) (steps : List Step) :
    Accounted (OpenConnections.run state steps) := by
  induction steps generalizing state with
  | nil => exact h
  | cons step rest ih => exact ih (h.take step)

theorem Accounted.openConnections? (h : Accounted state) :
    state.bench.openConnections? =
      if state.missed ≤ state.live.length then some (state.live.length - state.missed)
      else none := by
  have haccount := h.account
  unfold Bench.openConnections?
  by_cases hle : state.missed ≤ state.live.length
  · rw [if_pos hle, if_pos (by omega), Option.some_inj]
    omega
  · rw [if_neg hle, if_neg (by omega)]

-- The events tell of all open connections but the missed ones, and of no number at all once so many
-- are closed that there would be less than none. So they tell the number of the open connections if
-- and only if none was open when they were last cleared.
theorem counted_without_missed (device : Device) (steps : List Step) :
    ∃ after live missed, run (start device) steps = ⟨after, live, missed⟩ ∧ live.Nodup ∧
      after.openConnections? =
        (if missed ≤ live.length then some (live.length - missed) else none) ∧
      (after.openConnections? = some live.length ↔ missed = 0) := by
  have haccounted := (accounted_start device).run steps
  generalize run (start device) steps = state at haccounted
  have hopen := haccounted.openConnections?
  refine ⟨state.bench, state.live, state.missed, rfl, haccounted.distinct, hopen, ?_⟩
  rw [hopen]
  split
  · rw [Option.some_inj]
    omega
  · simp only [reduceCtorEq, false_iff]
    omega

-- A connection is missed while it is open, and closing it leaves no number.
theorem cleared_connection_is_missed :
    (run (start .initial) [.connect, .clearEvents]).live = [1] ∧
      (run (start .initial) [.connect, .clearEvents]).bench.openConnections? = some 0 ∧
      (run (start .initial) [.connect, .clearEvents, .disconnect 1]).live = [] ∧
      (run (start .initial) [.connect, .clearEvents, .disconnect 1]).bench.openConnections? =
        none :=
  ⟨rfl, rfl, rfl, rfl⟩

end BoardLink.OpenConnections

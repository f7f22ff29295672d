import BoardLink.Proofs.Session.Run
import BoardLink.Proofs.Wire.Normalize

-- The life of every connection of a session: a call either leaves no trace on the link, or it
-- opens a connection of its own, sends one request over it and closes it again.
namespace BoardLink.Session

variable {convention : BatteryConvention}

def Visit.refusal? (visit : Visit) : Option CommandError :=
  visit.command.refusal? visit.refusing

-- A call that is refused gives the reason. A call that is carried out cannot give an outcome
-- that tells that nothing was sent.
def Visit.Explained (visit : Visit) : Prop :=
  match visit.refusal? with
  | some error => visit.outcome = .finished (.error error)
  | none => visit.outcome ≠ .finished (.error .unavailable) ∧
      ∀ opcode, visit.outcome ≠ .finished (.error (.unimplemented opcode))

-- The events of the calls, one block for each, when the first connection is `number`.
@[simp] def blocks : (number : Nat) → List Visit → List (List Event)
  | _, [] => []
  | number, visit :: rest =>
    match visit.refusal? with
    | some _ => [] :: blocks number rest
    | none => Event.block number visit.command.opcode :: blocks (number + 1) rest

theorem explained_reply {command : Command} {response : Outcome (Except TransportError Bytes)}
    {refusing : Bool} (h : command.refusal? refusing = none) :
    Visit.Explained ⟨command, refusing, reply command (response.map command.normalize)⟩ := by
  simp only [Visit.Explained, Visit.refusal?, h]
  cases response with
  | crashed => simp [reply]
  | finished response =>
      simp only [reply, Outcome.map, ne_eq, Outcome.finished.injEq]
      cases hn : command.normalize response with
      | error error =>
          have ho := Command.ofReply_of_normalize hn
          simp only [Except.map, Except.error.injEq]
          exact ⟨ho.ne_unavailable, ho.ne_unimplemented⟩
      | ok completed => simp [Except.map]

-- One call on a bench where every connection was closed.
theorem take_call {bench : Bench} (hs : bench.Settled) {step : Step} {command : Command}
    (hc : step.command? convention = some command) :
    ∃ visit after, take convention bench step = (some visit, after) ∧ visit.command = command ∧
      visit.Explained ∧ after.Settled ∧
      after.events = bench.events ++ (blocks bench.nextConnection [visit]).flatten ∧
      after.nextConnection = bench.nextConnection +
        if visit.refusal?.isNone then 1 else 0 := by
  rw [take_of_command? hc]
  refine ⟨_, _, rfl, rfl, ?_⟩
  cases hr : command.refusal? bench.refusing with
  | some error =>
      rw [Bench.execute_refused hs hr]
      simp [Visit.Explained, Visit.refusal?, hr, reply, Except.map, hs.countLock]
  | none =>
      rw [Bench.execute_answered hs hr]
      refine ⟨explained_reply hr, (hs.answered command).countLock _, ?_, ?_⟩ <;>
        simp [Visit.refusal?, hr]

-- Changing the replies or refusing connections leaves the link as it is.
theorem take_change (bench : Bench) {step : Step} (hc : step.command? convention = none) :
    ∃ after, take convention bench step = (none, after) ∧ after.events = bench.events ∧
      after.nextConnection = bench.nextConnection := by
  cases step with
  | respond responder => exact ⟨_, rfl, rfl, rfl⟩
  | refuse refusing => exact ⟨_, rfl, rfl, rfl⟩
  | execute command => cases hc
  | operate operation => cases hc

theorem blocks_cons (number : Nat) (visit : Visit) (rest : List Visit) :
    (blocks number (visit :: rest)).flatten = (blocks number [visit]).flatten ++
      (blocks (number + if visit.refusal?.isNone then 1 else 0) rest).flatten := by
  cases h : visit.refusal? <;> simp [h]

theorem run_blocks (convention : BatteryConvention) (steps : List Step) (bench : Bench)
    (hs : bench.Settled) :
    (run convention bench steps).1.map Visit.command =
        steps.filterMap (Step.command? convention) ∧
      (∀ visit ∈ (run convention bench steps).1, visit.Explained) ∧
      (run convention bench steps).2.Settled ∧
      (run convention bench steps).2.events =
        bench.events ++ (blocks bench.nextConnection (run convention bench steps).1).flatten := by
  induction steps generalizing bench with
  | nil => simp [run, hs]
  | cons step rest ih =>
      cases hc : step.command? convention with
      | none =>
          obtain ⟨after, ht, he, hn⟩ := take_change bench hc
          obtain ⟨hcs, hex, hset, hev⟩ := ih after (hs.of_events he)
          simp only [run, ht, Option.toList_none, List.nil_append, List.filterMap_cons, hc]
          rw [he, hn] at hev
          exact ⟨hcs, hex, hset, hev⟩
      | some command =>
          obtain ⟨visit, after, ht, hv, hx, hsa, he, hn⟩ := take_call hs hc
          obtain ⟨hcs, hex, hset, hev⟩ := ih after hsa
          simp only [run, ht, Option.toList_some, List.singleton_append, List.filterMap_cons, hc,
            List.map_cons, hv]
          refine ⟨congrArg _ hcs, ?_, hset, ?_⟩
          · intro other ho
            rcases List.mem_cons.mp ho with rfl | ho
            · exact hx
            · exact hex other ho
          · rw [hev, he, hn, blocks_cons _ _ (run convention after rest).1, List.append_assoc]

theorem le_connection_of_mem_blocks (number : Nat) (visits : List Visit) :
    ∀ event ∈ (blocks number visits).flatten, number ≤ event.connection := by
  induction visits generalizing number with
  | nil => simp
  | cons visit rest ih =>
      intro event hm
      cases hr : visit.refusal? with
      | some error =>
          simp only [blocks, hr, List.flatten_cons, List.nil_append] at hm
          exact ih number event hm
      | none =>
          simp only [blocks, hr, List.flatten_cons, List.mem_append] at hm
          rcases hm with hm | hm
          · exact Nat.le_of_eq (Event.connection_of_mem_block hm).symm
          · have := ih (number + 1) event hm
            omega

-- A connection belongs to the one call whose block begins with it.
theorem filter_connection_blocks (number : Nat) (visits : List Visit) (connection : Nat) :
    (blocks number visits).flatten.filter (·.connection = connection) = [] ∨
      ∃ visit ∈ visits, visit.refusal? = none ∧
        (blocks number visits).flatten.filter (·.connection = connection) =
          Event.block connection visit.command.opcode := by
  induction visits generalizing number with
  | nil => simp
  | cons visit rest ih =>
      cases hr : visit.refusal? with
      | some error =>
          simp only [blocks, hr, List.flatten_cons, List.nil_append, List.mem_cons]
          rcases ih number with h | ⟨other, hm, hn, hf⟩
          · exact .inl h
          · exact .inr ⟨other, .inr hm, hn, hf⟩
      | none =>
          simp only [blocks, hr, List.flatten_cons, List.filter_append]
          by_cases hc : connection = number
          · subst connection
            right
            have hrest : (blocks (number + 1) rest).flatten.filter
                (·.connection = number) = [] := by
              apply List.filter_eq_nil_iff.mpr
              intro event hm
              have := le_connection_of_mem_blocks (number + 1) rest event hm
              simp only [decide_eq_true_eq]
              omega
            refine ⟨visit, List.mem_cons_self, hr, ?_⟩
            rw [hrest, List.append_nil]
            exact List.filter_eq_self.mpr fun event hm =>
              decide_eq_true (Event.connection_of_mem_block hm)
          · have hblock : (Event.block number visit.command.opcode).filter
                (·.connection = connection) = [] := by
              apply List.filter_eq_nil_iff.mpr
              intro event hm
              simp [Event.connection_of_mem_block hm, Ne.symm hc]
            rw [hblock, List.nil_append]
            rcases ih (number + 1) with h | ⟨other, hm, hn, hf⟩
            · exact .inl h
            · exact .inr ⟨other, List.mem_cons_of_mem _ hm, hn, hf⟩

-- The whole law of a session that begins on a new bench. The last part says that no connection
-- serves two calls, nor one call twice.
theorem events_of_run (convention : BatteryConvention) (device : Device) (steps : List Step) :
    ∃ visits after, run convention (Bench.new device) steps = (visits, after) ∧
      visits.map Visit.command = steps.filterMap (Step.command? convention) ∧
      after.events = (blocks 1 visits).flatten ∧
      (∀ visit ∈ visits, visit.Explained) ∧
      after.openConnections? = some 0 ∧
      ∀ connection,
        after.events.filter (·.connection = connection) = [] ∨
          ∃ visit ∈ visits, visit.refusal? = none ∧
            after.events.filter (·.connection = connection) =
              Event.block connection visit.command.opcode := by
  obtain ⟨hc, hx, hs, he⟩ := run_blocks convention steps (Bench.new device) rfl
  rw [show (Bench.new device).events = [] from rfl, List.nil_append,
    show (Bench.new device).nextConnection = 1 from rfl] at he
  refine ⟨_, _, rfl, hc, he, hx, Bench.openConnections?_of_settled hs, ?_⟩
  intro connection
  rw [he]
  exact filter_connection_blocks 1 _ connection

end BoardLink.Session

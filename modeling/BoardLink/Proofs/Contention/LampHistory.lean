import BoardLink.Proofs.Contention.TakingTurns
import BoardLink.Proofs.Device.Lamps

-- What the mixed steps of all callers leave in the lamps. A request is recorded in one step and
-- handled by the board in another, so the log tells the order of lamp writes only because of
-- the lock.
namespace BoardLink

-- The request that a caller has recorded and the board has not handled, if it is a lamp write.
@[simp] def Stage.pendingWrite : Stage → List Command
  | .recorded command _ => if command.isExclusive then [command] else []
  | .idle | .entered _ | .connected .. | .answered .. | .closed .. => []

def Caller.pendingWrite (caller : Caller) : List Command := caller.stage.pendingWrite

@[simp] theorem Caller.pendingWrite_mk {waiting : List Command} {stage : Stage}
    {results : List (Σ command : Command, Outcome (Executor.Result command))} :
    pendingWrite ⟨waiting, stage, results⟩ = stage.pendingWrite := rfl

-- The results that a caller has had. That of the present call counts from the reply on.
def Caller.replies (caller : Caller) :
    List (Σ command : Command, Outcome (Executor.Result command)) :=
  match caller.stage with
  | .answered command _ response => ⟨command, response.map command.normalize⟩ :: caller.results
  | .closed command result => ⟨command, result⟩ :: caller.results
  | _ => caller.results

namespace Contention

-- The requests of a run. `sent` has them in the order in which they were recorded, with their
-- connections, and `handled` in the order in which the board handled them, with the places of
-- their callers. `refused` has those that found no connection.
structure History where
  sent : List (Nat × Command)
  handled : List (Nat × Command)
  refused : List (Nat × Command)

namespace History

def send (history : History) (connection : Nat) (command : Command) : History :=
  { history with sent := history.sent ++ [(connection, command)] }

def handle (history : History) (place : Nat) (command : Command) : History :=
  { history with handled := history.handled ++ [(place, command)] }

def refuse (history : History) (place : Nat) (command : Command) : History :=
  { history with refused := history.refused ++ [(place, command)] }

-- What the turn of a caller at a place adds.
def observe (history : History) (refusing : Bool) (place : Nat) (caller : Caller) : History :=
  match caller.stage with
  | .entered command => if refusing then history.refuse place command else history
  | .connected command connection => history.send connection command
  | .recorded command _ => history.handle place command
  | _ => history

def commandsSent (history : History) : List Command := history.sent.map Prod.snd

def commandsHandled (history : History) : List Command := history.handled.map Prod.snd

@[simp] theorem commandsSent_send (history : History) (connection : Nat) (command : Command) :
    (history.send connection command).commandsSent = history.commandsSent ++ [command] := by
  simp [commandsSent, send]

@[simp] theorem commandsHandled_send (history : History) (connection : Nat) (command : Command) :
    (history.send connection command).commandsHandled = history.commandsHandled := rfl

@[simp] theorem commandsSent_handle (history : History) (place : Nat) (command : Command) :
    (history.handle place command).commandsSent = history.commandsSent := rfl

@[simp] theorem commandsHandled_handle (history : History) (place : Nat) (command : Command) :
    (history.handle place command).commandsHandled = history.commandsHandled ++ [command] := by
  simp [commandsHandled, handle]

-- A question about a lamp is answered by the last write to it that the board had handled.
def Reads (history : History) (place : Nat) (led : UInt8)
    (outcome : Outcome (Executor.Result (.ledStatus led))) : Prop :=
  ∃ before after, history.handled = before ++ (place, .ledStatus led) :: after ∧
    outcome = .finished
      (if led.toNat < 3 then .ok ⟨0, litAfter (before.map Prod.snd) led.toNat⟩
      else .error (.device (-1)))

-- Such a question may also find no connection. Results of other commands do not matter here.
def Told (history : History) (place : Nat) :
    (Σ command : Command, Outcome (Executor.Result command)) → Prop
  | ⟨.ledStatus led, outcome⟩ =>
    (outcome = .finished (.error .unavailable) ∧ (place, .ledStatus led) ∈ history.refused) ∨
      history.Reads place led outcome
  | _ => True

end History

-- A turn for one caller, or a change of whether connections are refused.
inductive Turn where
  | caller (place : Nat)
  | refuse (refusing : Bool)

-- A run from one state, together with the history that it adds.
def watch (contention : Contention) (history : History) : List Turn → Contention × History
  | [] => (contention, history)
  | .refuse refusing :: rest => watch (contention.move (.refuse refusing)) history rest
  | .caller place :: rest =>
    let history := match contention.callers[place]? with
      | some caller => history.observe contention.bench.refusing place caller
      | none => history
    watch (contention.move (.turn place)) history rest

-- What holds between any two steps. Lamp writes are handled in the order in which they were
-- recorded, and at most the last one is still to be handled.
structure Kept (contention : Contention) (history : History) : Prop where
  responder : contention.bench.responder = Responder.device
  exchanges : contention.bench.events.filter Event.isExchange =
    history.sent.map fun entry => .exchange entry.1 entry.2.opcode.toByte
  shines : Device.Shines history.commandsHandled contention.bench.device
  pending : history.commandsSent.filter Command.isExclusive =
    history.commandsHandled.filter Command.isExclusive ++
      contention.callers.flatMap Caller.pendingWrite
  told : ∀ place caller, contention.callers[place]? = some caller →
    ∀ entry ∈ caller.replies, history.Told place entry

theorem pendingWrite_of_not_holdsLock {callers : List Caller}
    (h : callers.countP Caller.holdsLock = 0) : callers.flatMap Caller.pendingWrite = [] := by
  apply List.flatMap_eq_nil_iff.mpr
  intro caller hm
  have hn : caller.holdsLock = false := by simpa using List.countP_eq_zero.mp h caller hm
  obtain ⟨waiting, stage, results⟩ := caller
  cases stage with
  | recorded command connection =>
      have he : command.isExclusive = false := hn
      simp [he]
  | _ => rfl

section Told

variable {history : History} {place : Nat}

theorem told_of_isExclusive {command : Command} (h : command.isExclusive = true)
    (outcome : Outcome (Executor.Result command)) : history.Told place ⟨command, outcome⟩ := by
  cases command with
  | setLed => trivial
  | _ => cases h

theorem told_refusal {command : Command} {error : CommandError}
    (h : command.refusal? false = some error) :
    history.Told place ⟨command, .finished (.error error)⟩ := by
  cases command with
  | ledStatus led => cases h
  | _ => trivial

theorem told_refused {command : Command} (hm : (place, command) ∈ history.refused) :
    history.Told place ⟨command, .finished (.error .unavailable)⟩ := by
  cases command with
  | ledStatus led => exact .inl ⟨rfl, hm⟩
  | _ => trivial

-- What was told stays told, since a history only grows.
theorem told_of_prefix {entry : Σ command : Command, Outcome (Executor.Result command)}
    (h : history.Told place entry) {later : History} (hh : history.handled <+: later.handled)
    (hr : history.refused <+: later.refused) : later.Told place entry := by
  obtain ⟨command, outcome⟩ := entry
  obtain ⟨more, hmore⟩ := hh
  cases command with
  | ledStatus led =>
      rcases h with ⟨ho, hm⟩ | ⟨before, after, hb, ho⟩
      · exact .inl ⟨ho, hr.subset hm⟩
      · exact .inr ⟨before, after ++ more, by simp [← hmore, hb], ho⟩
  | _ => trivial

end Told

section Step

variable {bench bench' : Bench} {locked locked' : Bool} {before after : List Caller}
  {caller caller' : Caller} {history : History} {lamps : List Nat}

theorem getElem?_replace {place : Nat} {other : Caller}
    (h : (before ++ caller' :: after)[place]? = some other) :
    (place = before.length ∧ other = caller') ∨
      (before ++ caller :: after)[place]? = some other := by
  have hset : before ++ caller' :: after = (before ++ caller :: after).set before.length caller' :=
    by simp
  by_cases hp : before.length = place
  · subst hp
    have ho : caller' = other := by simpa using h
    exact .inl ⟨rfl, ho.symm⟩
  · rw [hset, List.getElem?_set_ne hp] at h
    exact .inr h

theorem told_replace
    (h : ∀ place other, (before ++ caller :: after)[place]? = some other →
      ∀ entry ∈ other.replies, history.Told place entry)
    (ht : ∀ entry ∈ caller'.replies, history.Told before.length entry) :
    ∀ place other, (before ++ caller' :: after)[place]? = some other →
      ∀ entry ∈ other.replies, history.Told place entry := by
  intro place other hp
  rcases getElem?_replace hp with ⟨rfl, rfl⟩ | hp
  · exact ht
  · exact h place other hp

theorem Kept.told_self (h : Kept ⟨bench, locked, before ++ caller :: after⟩ history) :
    ∀ entry ∈ caller.replies, history.Told before.length entry :=
  h.told before.length caller (by simp)

-- The steps at which nothing is recorded and the board does nothing.
theorem Kept.keep (h : Kept ⟨bench, locked, before ++ caller :: after⟩ history)
    (hr : bench'.responder = bench.responder) (hd : bench'.device = bench.device)
    (he : bench'.events.filter Event.isExchange = bench.events.filter Event.isExchange)
    (hp : caller'.pendingWrite = caller.pendingWrite)
    (ht : ∀ entry ∈ caller'.replies, history.Told before.length entry) :
    Kept ⟨bench', locked', before ++ caller' :: after⟩ history where
  responder := hr.trans h.responder
  exchanges := he.trans h.exchanges
  shines := hd ▸ h.shines
  pending := by
    have hpending := h.pending
    simp only [List.flatMap_append, List.flatMap_cons, hp] at hpending ⊢
    exact hpending
  told := told_replace h.told ht

theorem Kept.told_later {contention : Contention} (h : Kept contention history) (later : History)
    (hh : history.handled <+: later.handled) (hr : history.refused <+: later.refused) :
    ∀ place caller, contention.callers[place]? = some caller →
      ∀ entry ∈ caller.replies, later.Told place entry :=
  fun place caller hc entry hm => told_of_prefix (h.told place caller hc entry hm) hh hr

theorem Kept.refuse {contention : Contention} (h : Kept contention history) (place : Nat)
    (command : Command) : Kept contention (history.refuse place command) where
  responder := h.responder
  exchanges := h.exchanges
  shines := h.shines
  pending := h.pending
  told := h.told_later (history.refuse place command) List.prefix_rfl (List.prefix_append _ _)

section Link

variable {command : Command} {connection : Nat} {waiting : List Command}
  {results : List (Σ command : Command, Outcome (Executor.Result command))}

-- A lamp write is recorded while no other is pending.
theorem kept_record
    (ho : Orderly ⟨bench, locked,
      before ++ ⟨waiting, .connected command connection, results⟩ :: after⟩ lamps)
    (h : Kept ⟨bench, locked,
      before ++ ⟨waiting, .connected command connection, results⟩ :: after⟩ history) :
    Kept ⟨bench.record (.exchange connection command.opcode.toByte), locked,
        before ++ ⟨waiting, .recorded command connection, results⟩ :: after⟩
      (history.send connection command) where
  responder := h.responder
  exchanges := by
    have he := h.exchanges
    simp only [Bench.record, History.send, List.filter_append, List.map_append, he]
    rfl
  shines := h.shines
  pending := by
    rw [History.commandsSent_send, List.filter_append, h.pending]
    cases he : command.isExclusive with
    | true =>
        obtain ⟨hb, ha⟩ := ho.others_idle he
        simp [pendingWrite_of_not_holdsLock hb, pendingWrite_of_not_holdsLock ha, he]
    | false => simp [he]
  told := by
    have ht := h.told_later (history.send connection command) List.prefix_rfl List.prefix_rfl
    exact told_replace ht (ht before.length ⟨waiting, .connected command connection, results⟩
      (by simp))

theorem told_answer {device : Device}
    (hs : Device.Shines history.commandsHandled device) (place : Nat) :
    (history.handle place command).Told place
      ⟨command, .finished (command.judge (device.respond command.request).1.toBytes)⟩ := by
  cases command with
  | ledStatus led =>
      refine .inr ⟨history.handled, [], rfl, ?_⟩
      rw [hs.judge_ledStatus]
      rfl
  | _ => trivial

-- The pending write is the one that is handled.
theorem kept_answer
    (ho : Orderly ⟨bench, locked,
      before ++ ⟨waiting, .recorded command connection, results⟩ :: after⟩ lamps)
    (h : Kept ⟨bench, locked,
      before ++ ⟨waiting, .recorded command connection, results⟩ :: after⟩ history) :
    Kept ⟨{ bench with device := (bench.responder command.request.toBytes bench.device).2 }, locked,
        before ++ ⟨waiting, .answered command connection
          (bench.responder command.request.toBytes bench.device).1, results⟩ :: after⟩
      (history.handle before.length command) := by
  have hresponder : bench.responder = Responder.device := h.responder
  have hanswer : bench.responder command.request.toBytes bench.device =
      (.finished (.ok (bench.device.respond command.request).1.toBytes),
        (bench.device.respond command.request).2) := by
    rw [hresponder, Device.responder_request h.shines.scripts]
  have hpending := h.pending
  rw [hanswer]
  refine ⟨h.responder, h.exchanges, ?_, ?_, ?_⟩
  · rw [History.commandsHandled_handle]
    exact h.shines.respond command
  · rw [History.commandsSent_handle, History.commandsHandled_handle, List.filter_append]
    cases he : command.isExclusive with
    | true =>
        obtain ⟨hb, ha⟩ := ho.others_idle he
        simpa [pendingWrite_of_not_holdsLock hb, pendingWrite_of_not_holdsLock ha, he]
          using hpending
    | false => simpa [he] using hpending
  · have ht := h.told_later (history.handle before.length command) (List.prefix_append _ _)
      List.prefix_rfl
    refine told_replace ht ?_
    intro entry hm
    rcases List.mem_cons.mp hm with rfl | hm
    · exact told_answer h.shines before.length
    · exact ht before.length ⟨waiting, .recorded command connection, results⟩ (by simp) entry hm

end Link

theorem kept_step (hs : CallerStep bench locked caller bench' locked' caller')
    (ho : Orderly ⟨bench, locked, before ++ caller :: after⟩ lamps)
    (h : Kept ⟨bench, locked, before ++ caller :: after⟩ history) :
    Kept ⟨bench', locked', before ++ caller' :: after⟩
      (history.observe bench.refusing before.length caller) := by
  have htold := h.told_self
  cases hs with
  | turnAway hr =>
      refine h.keep rfl rfl rfl rfl fun entry hm => ?_
      rcases List.mem_cons.mp hm with rfl | hm
      · exact told_refusal hr
      · exact htold entry hm
  | enter he => exact h.keep rfl rfl rfl rfl htold
  | acquire he => exact h.keep rfl rfl rfl rfl htold
  | @refused _ command waiting results hr =>
      have hobserve : history.observe bench.refusing before.length
          ⟨waiting, .entered command, results⟩ = history.refuse before.length command := by
        simp [History.observe, hr]
      have hrefuse := h.refuse before.length command
      rw [hobserve]
      refine hrefuse.keep rfl rfl rfl rfl fun entry hm => ?_
      rcases List.mem_cons.mp hm with rfl | hm
      · exact told_refused (by simp [History.refuse])
      · exact hrefuse.told_self entry hm
  | @connect _ command waiting results hr =>
      have hobserve : history.observe bench.refusing before.length
          ⟨waiting, .entered command, results⟩ = history := by
        simp [History.observe, hr]
      rw [hobserve]
      refine h.keep rfl rfl ?_ rfl htold
      simp [Bench.record]
  | record => exact kept_record ho h
  | answer => exact kept_answer ho h
  | disconnect =>
      refine h.keep rfl rfl ?_ rfl htold
      simp [Bench.disconnect, Bench.record]
  | leave he => exact h.keep rfl rfl rfl rfl htold
  | release he =>
      refine h.keep (Bench.responder_release bench) (Bench.device_release bench)
        (by rw [Bench.events_release]) rfl fun entry hm => ?_
      rcases List.mem_cons.mp hm with rfl | hm
      · exact told_of_isExclusive he _
      · exact htold entry (List.mem_cons_of_mem _ hm)

end Step

theorem kept_new (settings : List Device.Setting) (calls : List (List Command)) :
    Kept (new (Bench.new (Device.configured settings)) calls) ⟨[], [], []⟩ := by
  refine ⟨rfl, rfl, Device.shines_configured settings, ?_, ?_⟩
  · refine (List.flatMap_eq_nil_iff.mpr fun caller hm => ?_).symm
    simp [Caller.pendingWrite, (idle_new hm).1]
  · intro place caller hc entry hm
    obtain ⟨hs, hr⟩ := idle_new (List.mem_of_getElem? hc)
    simp [Caller.replies, hs, hr] at hm

theorem kept_watch (turns : List Turn) {contention : Contention} {lamps : List Nat}
    {history : History} (ho : Orderly contention lamps) (h : Kept contention history) :
    Kept (contention.watch history turns).1 (contention.watch history turns).2 := by
  induction turns generalizing contention lamps history with
  | nil => exact h
  | cons turn rest ih =>
      cases turn with
      | refuse refusing =>
          exact ih (orderly_move ho (.refuse refusing))
            ⟨h.responder, h.exchanges, h.shines, h.pending, h.told⟩
      | caller place =>
          refine ih (orderly_move ho (.turn place)) ?_
          cases hs : contention.step? place with
          | none =>
              rw [move, hs, Option.getD_none]
              cases hc : contention.callers[place]? with
              | none => exact h
              | some caller =>
                  simp only [History.observe, stage_of_step?_eq_none hc hs]
                  exact h
          | some next =>
              obtain ⟨before, caller, after, bench, locked, caller', hc, rfl, hstep, rfl⟩ :=
                callerStep_of_step? hs
              have hcaller : contention.callers[before.length]? = some caller := by simp [hc]
              rw [move, hs, Option.getD_some, hcaller]
              have ho' : Orderly
                  ⟨contention.bench, contention.locked, before ++ caller :: after⟩ lamps := hc ▸ ho
              have h' : Kept
                  ⟨contention.bench, contention.locked, before ++ caller :: after⟩ history := hc ▸ h
              exact kept_step hstep ho' h'

-- With no call in progress, nothing is pending.
theorem litAfter_of_idle {contention : Contention} {history : History}
    (h : Kept contention history) (hi : ∀ caller ∈ contention.callers, caller.stage = .idle)
    (lamp : Nat) : litAfter history.commandsSent lamp = litAfter history.commandsHandled lamp := by
  have hpending : contention.callers.flatMap Caller.pendingWrite = [] := by
    refine List.flatMap_eq_nil_iff.mpr fun caller hm => ?_
    simp [Caller.pendingWrite, hi caller hm]
  rw [← litAfter_filter history.commandsSent, h.pending, hpending, List.append_nil,
    litAfter_filter]

-- Any number of callers, any calls, any order of their steps, with connections refused or not.
-- Between calls every lamp shows the last write to it that went over the link, and every question
-- about a lamp is answered by one such write as a whole.
theorem lamps_show_last_write (settings : List Device.Setting) (calls : List (List Command))
    (turns : List Turn) :
    ∃ after history,
      (new (Bench.new (Device.configured settings)) calls).watch ⟨[], [], []⟩ turns =
        (after, history) ∧
      after.bench.events.filter Event.isExchange =
        history.sent.map (fun entry => .exchange entry.1 entry.2.opcode.toByte) ∧
      ((∀ caller ∈ after.callers, caller.stage = .idle) → ∀ lamp, lamp < 3 →
        after.bench.device.led? lamp = some (litAfter history.commandsSent lamp)) ∧
      ∀ place caller led outcome, after.callers[place]? = some caller →
        ⟨.ledStatus led, outcome⟩ ∈ caller.replies →
          (outcome = .finished (.error .unavailable) ∧
            (place, .ledStatus led) ∈ history.refused) ∨ history.Reads place led outcome := by
  have h := kept_watch turns (orderly_new (Device.configured settings) calls)
    (kept_new settings calls)
  refine ⟨_, _, rfl, h.exchanges, ?_, ?_⟩
  · intro hidle lamp hlt
    rw [h.shines.lamp lamp hlt, litAfter_of_idle h hidle]
  · intro place caller led outcome hc hm
    exact h.told place caller hc _ hm

end Contention
end BoardLink

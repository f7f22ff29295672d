import BoardLink.Proofs.StatusSlot.Agreement

-- One slot for many callers. A call carries its command out in one step and settles in another,
-- so that others may write the slot between the two. What a call gives back is told by its own
-- outcome all the same, and the slot shows the outcome of the call that settled last.
namespace BoardLink

-- The sign of the number tells success from failure.
def LastStatus.Signed (status : LastStatus) : Prop := 0 ≤ status.code ↔ status.isOk = true

namespace SharedSlot

open StatusSlot

variable {σ κ : Type} {convention : BatteryConvention}

-- A call whose command was carried out, and how that ended.
structure Made (convention : BatteryConvention) where
  method : Method
  outcome : Outcome (Executor.Result (method.command convention))

namespace Made

-- What the caller is given back, if the call does not break down.
def given (made : Made convention) : Σ method : Method, Outcome method.Value :=
  ⟨made.method, made.outcome.map (made.method.plain convention)⟩

-- What the call leaves in the slot. A call that broke down leaves nothing.
def status? (made : Made convention) : Option LastStatus :=
  match made.outcome with
  | .finished result => some (StatusSlot.outcome result)
  | .crashed => none

def ofPending : (Σ method : Method, Executor.Result (method.command convention)) →
    Made convention
  | ⟨method, result⟩ => ⟨method, .finished result⟩

-- Carrying out the method over some link has come to this.
def Arises (executor : Executor σ κ) (made : Made executor.convention) : Prop :=
  ∃ link, (attempt executor made.method link).1 = made.outcome

end Made

-- The number that a method gives back which only writes.
def number? : (Σ method : Method, Outcome method.Value) → Option Int32
  | ⟨.setLed .., .finished code⟩ => some code
  | ⟨.powerOff _, .finished code⟩ => some code
  | ⟨.setClock _, .finished code⟩ => some code
  | ⟨.setPin .., .finished code⟩ => some code
  | _ => none

-- A caller with the methods it has still to call, the result that has not settled, and what its
-- calls gave back so far, in order.
structure Caller (convention : BatteryConvention) where
  waiting : List Method
  pending : Option (Σ method : Method, Executor.Result (method.command convention))
  given : List (Σ method : Method, Outcome method.Value)

structure Scene (σ : Type) (convention : BatteryConvention) where
  slot : State σ
  callers : List (Caller convention)

-- The two steps of a call.
inductive Deed (convention : BatteryConvention) where
  | make (made : Made convention)
  | settle (made : Made convention)

namespace Deed

@[simp] def made? : Deed convention → Option (Made convention)
  | .make made => some made
  | .settle _ => none

@[simp] def settled? : Deed convention → Option (Made convention)
  | .make _ => none
  | .settle made => some made

end Deed

-- What the caller at a place carried out in a run, in order.
def madeBy (place : Nat) (deeds : List (Nat × Deed convention)) : List (Made convention) :=
  deeds.filterMap fun deed => if deed.1 = place then deed.2.made? else none

def settledBy (place : Nat) (deeds : List (Nat × Deed convention)) : List (Made convention) :=
  deeds.filterMap fun deed => if deed.1 = place then deed.2.settled? else none

-- What was settled by anyone.
def settled (deeds : List (Nat × Deed convention)) : List (Made convention) :=
  deeds.filterMap fun deed => deed.2.settled?

def settle (executor : Executor σ κ) (method : Method)
    (result : Executor.Result (method.command executor.convention)) (slot : State σ) :
    method.Value × State σ :=
  (method.plain executor.convention result,
    ⟨outcome result,
      executor.log (settledLine (method.command executor.convention).opcode result) slot.link⟩)

-- Without others in between, the two steps make up the call.
theorem run_eq_settle (executor : Executor σ κ) (method : Method) (slot : State σ) :
    run executor method slot =
      match attempt executor method slot.link with
      | (.crashed, link) => (.crashed, { slot with link })
      | (.finished result, link) =>
        (.finished (settle executor method result { slot with link }).1,
          (settle executor method result { slot with link }).2) := rfl

def stepCaller (executor : Executor σ κ) (slot : State σ) (caller : Caller executor.convention) :
    Option (Deed executor.convention × State σ × Caller executor.convention) :=
  match caller.pending, caller.waiting with
  | some ⟨method, result⟩, _ =>
    let (value, slot) := settle executor method result slot
    some (.settle ⟨method, .finished result⟩, slot,
      { caller with pending := none, given := caller.given ++ [⟨method, .finished value⟩] })
  | none, [] => none
  | none, method :: waiting =>
    match attempt executor method slot.link with
    | (.crashed, link) =>
      some (.make ⟨method, .crashed⟩, { slot with link },
        { caller with waiting, given := caller.given ++ [⟨method, .crashed⟩] })
    | (.finished result, link) =>
      some (.make ⟨method, .finished result⟩, { slot with link },
        { caller with waiting, pending := some ⟨method, result⟩ })

def step? (executor : Executor σ κ) (scene : Scene σ executor.convention) (place : Nat) :
    Option (Deed executor.convention × Scene σ executor.convention) := do
  let caller ← scene.callers[place]?
  let (deed, slot, caller) ← stepCaller executor scene.slot caller
  return (deed, ⟨slot, scene.callers.set place caller⟩)

-- A turn for one caller, or a change of the link from outside.
inductive Move (σ : Type) where
  | turn (place : Nat)
  | change (edit : σ → σ)

-- A run of many turns, and the steps that were taken in it with the places of their callers.
def play (executor : Executor σ κ) (scene : Scene σ executor.convention) :
    List (Move σ) → List (Nat × Deed executor.convention) × Scene σ executor.convention
  | [] => ([], scene)
  | .change edit :: rest =>
    play executor { scene with slot.link := edit scene.slot.link } rest
  | .turn place :: rest =>
    match step? executor scene place with
    | none => play executor scene rest
    | some (deed, scene) =>
      let (deeds, scene) := play executor scene rest
      ((place, deed) :: deeds, scene)

def start (calls : List (List Method)) (link : σ) : Scene σ convention :=
  ⟨⟨.none, link⟩, calls.map fun waiting => ⟨waiting, none, []⟩⟩

section Signs

theorem signed_error {α : Type} {error : CommandError} (h : error.code < 0) :
    (outcome (.error error : Except CommandError (Completed α))).Signed := by
  have hcode : (LastStatus.ofError error).code < 0 := by rwa [code_ofError]
  refine iff_of_false (Int32.not_le.mpr hcode) ?_
  cases error <;> exact Bool.false_ne_true

theorem signed_normalize (command : Command) (response : Except TransportError Bytes) :
    (outcome (command.normalize response)).Signed := by
  cases hn : command.normalize response with
  | ok completed => exact iff_of_true (Command.status_of_normalize hn) rfl
  | error error => exact signed_error (Command.ofReply_of_normalize hn).code_neg

-- Over any link, with anything on the other side of it.
theorem signed_converse (executor : Executor σ κ) (command : Command) (s : σ)
    {result : Executor.Result command} (h : (executor.converse command s).1 = .finished result) :
    (outcome result).Signed := by
  unfold Executor.converse at h
  split at h
  · cases h
    exact signed_error (by decide : (-1 : Int32) < 0)
  · dsimp only at h
    split at h
    · cases h
    · rename_i response hresponse
      have hsigned := signed_normalize command response
      split at h
      · rename_i error hn
        cases h
        rwa [hn] at hsigned
      · rename_i completed hn
        cases h
        rwa [hn] at hsigned

theorem signed_execute (executor : Executor σ κ) (command : Command) (s : σ)
    {result : Executor.Result command} (h : (executor.execute command s).1 = .finished result) :
    (outcome result).Signed := by
  unfold Executor.execute at h
  split at h
  · split at h
    · cases h
      exact signed_error (by decide : (-4 : Int32) < 0)
    · split at h
      · dsimp only at h
        split at h
        · exact signed_converse executor command _ h
        · cases h
      · exact signed_converse executor command s h
  · cases h
    exact signed_error (by decide : (-5 : Int32) < 0)

theorem signed_attempt (executor : Executor σ κ) (method : Method) (s : σ)
    {result : Executor.Result (method.command executor.convention)}
    (h : (attempt executor method s).1 = .finished result) : (outcome result).Signed := by
  unfold attempt at h
  split at h
  · cases h
    exact signed_error (by decide : (-4 : Int32) < 0)
  · exact signed_execute executor _ s h

end Signs

-- What a caller has been told against what it carried out. Every call that it was told about is
-- told by its own outcome, all but the ones that broke down have settled, once each, and the
-- calls are those that the caller was to make, in their order.
structure Told (calls : List (List Method)) (deeds : List (Nat × Deed convention)) (place : Nat)
    (caller : Caller convention) (done : List (Made convention)) : Prop where
  made : madeBy place deeds = done ++ caller.pending.toList.map Made.ofPending
  settled : settledBy place deeds = done.filter fun made => made.status?.isSome
  given : caller.given = done.map Made.given
  calls : calls[place]? = some ((madeBy place deeds).map Made.method ++ caller.waiting)

-- What the slot shows after a run: nothing, or the outcome of the call that settled last.
inductive Shows (deeds : List (Nat × Deed convention)) : LastStatus → Prop where
  | nothing (h : settled deeds = []) : Shows deeds .none
  | outcome {earlier : List (Made convention)} {made : Made convention} {status : LastStatus}
      (last : settled deeds = earlier ++ [made]) (of : made.status? = some status)
      (signed : status.Signed) : Shows deeds status

section Deeds

variable {deeds : List (Nat × Deed convention)} {place other : Nat}

@[simp] theorem madeBy_concat (deed : Deed convention) :
    madeBy place (deeds ++ [(place, deed)]) = madeBy place deeds ++ deed.made?.toList := by
  cases deed <;> simp [madeBy]

@[simp] theorem settledBy_concat (deed : Deed convention) :
    settledBy place (deeds ++ [(place, deed)]) = settledBy place deeds ++ deed.settled?.toList := by
  cases deed <;> simp [settledBy]

@[simp] theorem settled_concat (deed : Deed convention) :
    settled (deeds ++ [(place, deed)]) = settled deeds ++ deed.settled?.toList := by
  cases deed <;> simp [settled]

theorem madeBy_concat_of_ne (h : place ≠ other) (deed : Deed convention) :
    madeBy other (deeds ++ [(place, deed)]) = madeBy other deeds := by
  simp [madeBy, h]

theorem settledBy_concat_of_ne (h : place ≠ other) (deed : Deed convention) :
    settledBy other (deeds ++ [(place, deed)]) = settledBy other deeds := by
  simp [settledBy, h]

theorem mem_of_mem_madeBy {made : Made convention} (h : made ∈ madeBy place deeds) :
    (place, .make made) ∈ deeds := by
  obtain ⟨⟨maker, deed⟩, hm, he⟩ := List.mem_filterMap.mp h
  split at he
  · rename_i hp
    cases deed with
    | make =>
        cases hp
        cases he
        exact hm
    | settle => cases he
  · cases he

-- A turn of one caller changes nothing that concerns another.
theorem Told.of_ne {calls : List (List Method)} {caller : Caller convention}
    {done : List (Made convention)} (h : Told calls deeds other caller done) (hne : place ≠ other)
    (deed : Deed convention) : Told calls (deeds ++ [(place, deed)]) other caller done where
  made := by rw [madeBy_concat_of_ne hne, h.made]
  settled := by rw [settledBy_concat_of_ne hne, h.settled]
  given := h.given
  calls := by rw [madeBy_concat_of_ne hne, h.calls]

end Deeds

theorem Made.Arises.signed {executor : Executor σ κ} {made : Made executor.convention}
    {status : LastStatus} (h : made.Arises executor) (hs : made.status? = some status) :
    status.Signed := by
  obtain ⟨link, hl⟩ := h
  obtain ⟨method, outcome⟩ := made
  cases outcome with
  | crashed => cases hs
  | finished result =>
      cases hs
      exact signed_attempt executor method link hl

-- A number that a caller is given is the code of what this very call leaves in the slot.
theorem status_of_number {made : Made convention} {code : Int32}
    (h : number? made.given = some code) :
    ∃ status, made.status? = some status ∧ code = status.code := by
  obtain ⟨method, outcome⟩ := made
  cases outcome with
  | crashed => cases method <;> cases h
  | finished result =>
      refine ⟨StatusSlot.outcome result, rfl, ?_⟩
      cases method with
      | setLed => exact (Option.some.inj h).symm
      | powerOff => exact (Option.some.inj h).symm
      | setClock => exact (Option.some.inj h).symm
      | setPin => exact (Option.some.inj h).symm
      | _ => cases h

-- What holds between any two steps.
structure Kept (executor : Executor σ κ) (calls : List (List Method))
    (deeds : List (Nat × Deed executor.convention)) (scene : Scene σ executor.convention) :
    Prop where
  callers : scene.callers.length = calls.length
  arises : ∀ place made, (place, .make made) ∈ deeds → made.Arises executor
  told : ∀ place caller, scene.callers[place]? = some caller →
    ∃ done, Told calls deeds place caller done
  shows : Shows deeds scene.slot.last

section Steps

variable {executor : Executor σ κ} {calls : List (List Method)}
  {deeds : List (Nat × Deed executor.convention)} {scene : Scene σ executor.convention}

theorem kept_start (calls : List (List Method)) (link : σ) :
    Kept executor calls [] (start calls link) where
  callers := List.length_map _
  arises := by simp
  told := by
    intro place caller h
    obtain ⟨waiting, hw, rfl⟩ : ∃ waiting, calls[place]? = some waiting ∧
        (⟨waiting, none, []⟩ : Caller executor.convention) = caller := by
      simpa [start] using h
    exact ⟨[], rfl, rfl, rfl, hw⟩
  shows := .nothing rfl

theorem told_step {place : Nat} {caller caller' : Caller executor.convention}
    {done : List (Made executor.convention)} {slot slot' : State σ}
    {deed : Deed executor.convention} (ht : Told calls deeds place caller done)
    (h : stepCaller executor slot caller = some (deed, slot', caller')) :
    ∃ done', Told calls (deeds ++ [(place, deed)]) place caller' done' := by
  obtain ⟨waiting, pending, given⟩ := caller
  obtain ⟨hm, hs, hg, hc⟩ := ht
  cases pending with
  | some pending =>
      obtain ⟨method, result⟩ := pending
      cases h
      refine ⟨done ++ [⟨method, .finished result⟩], ?_, ?_, ?_, ?_⟩
      · simpa [Made.ofPending] using hm
      · simpa [Made.status?] using hs
      · simpa [Made.given, settle] using hg
      · simpa using hc
  | none =>
      cases waiting with
      | nil => cases h
      | cons method waiting =>
          simp only [stepCaller] at h
          split at h
          · cases h
            refine ⟨done ++ [⟨method, .crashed⟩], ?_, ?_, ?_, ?_⟩
            · simpa using hm
            · simpa [Made.status?] using hs
            · simpa [Made.given] using hg
            · simpa using hc
          · cases h
            refine ⟨done, ?_, ?_, hg, ?_⟩
            · simpa [Made.ofPending] using hm
            · simpa using hs
            · simpa using hc

-- Carrying out a command leaves the slot alone. Settling writes what was carried out before.
theorem deed_of_stepCaller {caller caller' : Caller executor.convention} {slot slot' : State σ}
    {deed : Deed executor.convention}
    (h : stepCaller executor slot caller = some (deed, slot', caller')) :
    (∃ made, deed = .make made ∧ made.Arises executor ∧ slot'.last = slot.last) ∨
      ∃ pending, caller.pending = some pending ∧ deed = .settle (Made.ofPending pending) ∧
        (Made.ofPending pending).status? = some slot'.last := by
  obtain ⟨waiting, pending, given⟩ := caller
  cases pending with
  | some pending =>
      cases h
      exact .inr ⟨pending, rfl, rfl, rfl⟩
  | none =>
      cases waiting with
      | nil => cases h
      | cons method waiting =>
          simp only [stepCaller] at h
          split at h
          · rename_i ha
            cases h
            exact .inl ⟨_, rfl, ⟨slot.link, congrArg Prod.fst ha⟩, rfl⟩
          · rename_i ha
            cases h
            exact .inl ⟨_, rfl, ⟨slot.link, congrArg Prod.fst ha⟩, rfl⟩

theorem of_step? {place : Nat} {deed : Deed executor.convention}
    {next : Scene σ executor.convention} (h : step? executor scene place = some (deed, next)) :
    ∃ caller slot caller', scene.callers[place]? = some caller ∧
      stepCaller executor scene.slot caller = some (deed, slot, caller') ∧
      next = ⟨slot, scene.callers.set place caller'⟩ := by
  simp only [step?, Option.bind_eq_bind, Option.bind_eq_some_iff] at h
  obtain ⟨caller, hc, ⟨deed', slot, caller'⟩, hs, he⟩ := h
  cases he
  exact ⟨caller, slot, caller', hc, hs, rfl⟩

theorem Kept.step {place : Nat} {deed : Deed executor.convention}
    {next : Scene σ executor.convention} (hk : Kept executor calls deeds scene)
    (h : step? executor scene place = some (deed, next)) :
    Kept executor calls (deeds ++ [(place, deed)]) next := by
  obtain ⟨caller, slot, caller', hc, hs, rfl⟩ := of_step? h
  obtain ⟨done, ht⟩ := hk.told place caller hc
  have hd := deed_of_stepCaller hs
  refine ⟨?_, ?_, ?_, ?_⟩
  · exact (List.length_set ..).trans hk.callers
  · intro maker made hm
    rcases List.mem_append.mp hm with hm | hm
    · exact hk.arises maker made hm
    · obtain ⟨made', rfl, ha, -⟩ | ⟨pending, -, rfl, -⟩ := hd
      · cases List.mem_singleton.mp hm
        exact ha
      · cases List.mem_singleton.mp hm
  · intro other held ho
    by_cases he : place = other
    · subst he
      have hheld : caller' = held := by
        simpa [List.getElem?_set, List.getElem?_eq_some_iff.mp hc |>.1] using ho
      subst hheld
      exact told_step ht hs
    · rw [List.getElem?_set_ne he] at ho
      obtain ⟨earlier, he'⟩ := hk.told other held ho
      exact ⟨earlier, he'.of_ne he deed⟩
  · obtain ⟨made, rfl, -, hl⟩ | ⟨pending, hp, rfl, hl⟩ := hd
    · dsimp only
      have hshows := hk.shows
      rw [hl]
      generalize scene.slot.last = last at hshows ⊢
      cases hshows with
      | nothing hn => exact .nothing (by simpa using hn)
      | outcome last of signed =>
          exact .outcome (by simpa using last) of signed
    · -- The caller carried this out before, whatever others have done since then.
      have hmade : Made.ofPending pending ∈ madeBy place deeds := by
        rw [ht.made, hp]
        simp
      exact .outcome (settled_concat (.settle (Made.ofPending pending))) hl
        ((hk.arises place _ (mem_of_mem_madeBy hmade)).signed hl)

theorem Kept.play (moves : List (Move σ)) (hk : Kept executor calls deeds scene) :
    Kept executor calls (deeds ++ (play executor scene moves).1) (play executor scene moves).2 := by
  induction moves generalizing deeds scene with
  | nil => simpa [SharedSlot.play] using hk
  | cons move rest ih =>
      cases move with
      | change edit => exact ih ⟨hk.callers, hk.arises, hk.told, hk.shows⟩
      | turn place =>
          simp only [SharedSlot.play]
          split
          · exact ih hk
          · rename_i deed next hs
            simpa using ih (hk.step hs)

end Steps

-- Callers on one slot, with any calls to make and any turns. Each is told by the outcomes of its
-- own calls, in particular where it is told a number, and whoever looks at the slot finds the
-- outcome of the call that settled last, with the sign that belongs to it. What is carried out
-- next, be it to the end or not, changes nothing in the slot.
theorem codes_follow_own_calls (executor : Executor σ κ) (calls : List (List Method)) (link : σ)
    (moves : List (Move σ)) :
    ∃ deeds after, play executor (start calls link) moves = (deeds, after) ∧
      after.callers.length = calls.length ∧
      (∀ place caller, after.callers[place]? = some caller →
        ∃ done, Told calls deeds place caller done ∧
          (∀ made ∈ madeBy place deeds, made.Arises executor) ∧
          ∀ (n : Nat) entry code, caller.given[n]? = some entry → number? entry = some code →
            ∃ made status, (madeBy place deeds)[n]? = some made ∧ made.given = entry ∧
              made.status? = some status ∧ code = status.code) ∧
      Shows deeds after.slot.last ∧
      ∀ place made next, step? executor after place = some (.make made, next) →
        next.slot.last = after.slot.last := by
  have hstart : Kept executor calls [] (start calls link) := kept_start calls link
  obtain ⟨hlength, harises, htold, hshows⟩ := hstart.play moves
  refine ⟨_, _, rfl, hlength, ?_, hshows, ?_⟩
  · intro place caller hc
    obtain ⟨done, ht⟩ := htold place caller hc
    refine ⟨done, ht, fun made hm => harises place made (mem_of_mem_madeBy hm), ?_⟩
    intro n entry code hn hcode
    rw [ht.given, List.getElem?_map] at hn
    obtain ⟨made, hmade, rfl⟩ := Option.map_eq_some_iff.mp hn
    obtain ⟨status, hs, he⟩ := status_of_number hcode
    refine ⟨made, status, ?_, rfl, hs, he⟩
    rw [List.nil_append] at ht
    rw [ht.made, List.getElem?_append_left (List.getElem?_eq_some_iff.mp hmade).1, hmade]
  · intro place made next h
    obtain ⟨caller, slot, caller', -, hs, rfl⟩ := of_step? h
    obtain ⟨made', -, -, hl⟩ | ⟨pending, -, hd, -⟩ := deed_of_stepCaller hs
    · exact hl
    · cases hd

end SharedSlot
end BoardLink

import BoardLink.Proofs.Contention.Orderly
import Mathlib.Algebra.GroupWithZero.Nat

-- Some caller can always go on, and every step leaves less to do. So all calls come to an end when
-- everyone gets turns, and each of them has a result then.
namespace BoardLink

-- The steps that a call takes from here at most, and the call itself.
@[simp] def Stage.stepsLeft : Stage → Nat
  | .idle => 0
  | .entered _ => 5
  | .connected .. => 4
  | .recorded .. => 3
  | .answered .. => 2
  | .closed .. => 1

@[simp] def Stage.command? : Stage → Option Command
  | .idle => none
  | .entered command | .connected command _ | .recorded command _ | .answered command _ _
  | .closed command _ => some command

namespace Caller

variable {caller : Caller}

-- A call that is still to be made takes one step more than one that has entered.
def stepsLeft (caller : Caller) : Nat := 6 * caller.waiting.length + caller.stage.stepsLeft

-- The calls that have a result, in the order in which they were made.
def finished (caller : Caller) : List Command := caller.results.reverse.map Sigma.fst

-- All calls of a caller: those that it has finished, its present one, and those that wait.
def calls (caller : Caller) : List Command :=
  caller.finished ++ caller.stage.command?.toList ++ caller.waiting

theorem isDone_iff : caller.isDone = true ↔ caller.waiting = [] ∧ caller.stage = .idle := by
  obtain ⟨waiting, stage, results⟩ := caller
  cases waiting <;> cases stage <;> simp [isDone]

theorem isDone_iff_stepsLeft : caller.isDone = true ↔ caller.stepsLeft = 0 := by
  obtain ⟨waiting, stage, results⟩ := caller
  rw [isDone_iff]
  cases waiting <;> cases stage <;> simp [stepsLeft]

theorem finished_of_isDone (h : caller.isDone = true) : caller.finished = caller.calls := by
  obtain ⟨hwaiting, hstage⟩ := isDone_iff.mp h
  simp [calls, hwaiting, hstage]

theorem isDone_of_stage (h : caller.stage ≠ .idle) : caller.isDone = false := by
  rw [Bool.eq_false_iff, ne_eq, isDone_iff]
  exact fun hdone => h hdone.2

theorem stage_of_holdsLock (h : caller.holdsLock = true) : caller.stage ≠ .idle := by
  intro hs
  simp [Caller.holdsLock, hs] at h

end Caller

namespace Contention

variable {contention next : Contention} {place : Nat} {caller : Caller} {lamps : List Nat}

section Progress

theorem stepCaller_isSome_of_stage {bench : Bench} {locked : Bool} (h : caller.stage ≠ .idle) :
    (stepCaller bench locked caller).isSome := by
  obtain ⟨waiting, stage, results⟩ := caller
  cases stage with
  | idle => exact absurd rfl h
  | entered command =>
      simp only [stepCaller]
      split <;> rfl
  | connected command connection => rfl
  | recorded command connection => rfl
  | answered command connection response => rfl
  | closed command result =>
      simp only [stepCaller]
      split
      · split <;> rfl
      · rfl

-- Only the lock can keep a caller waiting.
theorem stepCaller_isSome_of_unlocked {bench : Bench} (h : caller.isDone = false) :
    (stepCaller bench false caller).isSome := by
  obtain ⟨waiting, stage, results⟩ := caller
  cases stage with
  | idle =>
      cases waiting with
      | nil => simp [Caller.isDone] at h
      | cons command waiting =>
          simp only [stepCaller]
          split
          · rfl
          · split
            · rfl
            · split <;> simp
  | _ => exact stepCaller_isSome_of_stage (by simp)

theorem step?_isSome (hc : contention.callers[place]? = some caller)
    (h : (stepCaller contention.bench contention.locked caller).isSome) :
    (contention.step? place).isSome := by
  obtain ⟨next, hn⟩ := Option.isSome_iff_exists.mp h
  simp [step?, hc, hn]

-- While the lock is held, its holder can go on. While it is free, anyone can.
theorem exists_turn (h : Orderly contention lamps)
    (hd : contention.callers.all Caller.isDone = false) :
    ∃ (place : Nat) (caller : Caller), contention.callers[place]? = some caller ∧
      caller.isDone = false ∧ (contention.step? place).isSome := by
  cases hl : contention.locked with
  | true =>
      have hpos : 0 < contention.callers.countP Caller.holdsLock := by
        rw [h.lock, hl]
        exact Nat.zero_lt_one
      obtain ⟨caller, hm, hh⟩ := List.countP_pos_iff.mp hpos
      obtain ⟨place, hc⟩ := List.mem_iff_getElem?.mp hm
      have hstage := Caller.stage_of_holdsLock hh
      exact ⟨place, caller, hc, Caller.isDone_of_stage hstage,
        step?_isSome hc (stepCaller_isSome_of_stage hstage)⟩
  | false =>
      obtain ⟨caller, hm, hn⟩ := List.all_eq_false.mp hd
      obtain ⟨place, hc⟩ := List.mem_iff_getElem?.mp hm
      have hn : caller.isDone = false := by simpa using hn
      refine ⟨place, caller, hc, hn, step?_isSome hc ?_⟩
      rw [hl]
      exact stepCaller_isSome_of_unlocked hn

end Progress

section Measure

variable {bench bench' : Bench} {locked locked' : Bool} {caller' : Caller}

theorem CallerStep.stepsLeft_lt (h : CallerStep bench locked caller bench' locked' caller') :
    caller'.stepsLeft < caller.stepsLeft := by
  cases h <;> simp only [Caller.stepsLeft, Stage.stepsLeft, List.length_cons] <;> omega

theorem CallerStep.calls_eq (h : CallerStep bench locked caller bench' locked' caller') :
    caller'.calls = caller.calls := by
  cases h <;> simp [Caller.calls, Caller.finished]

def stepsLeft (contention : Contention) : Nat := (contention.callers.map Caller.stepsLeft).sum

theorem stepsLeft_step? (h : contention.step? place = some next) :
    next.stepsLeft < contention.stepsLeft := by
  obtain ⟨before, caller, after, bench, locked, caller', hc, -, hstep, rfl⟩ := callerStep_of_step? h
  have := hstep.stepsLeft_lt
  simp only [stepsLeft, hc, List.map_append, List.map_cons, List.sum_append, List.sum_cons]
  omega

theorem calls_step? (h : contention.step? place = some next) :
    next.callers.map Caller.calls = contention.callers.map Caller.calls := by
  obtain ⟨before, caller, after, bench, locked, caller', hc, -, hstep, rfl⟩ := callerStep_of_step? h
  simp only [hc, List.map_append, List.map_cons, hstep.calls_eq]

theorem all_isDone_of_stepsLeft (h : contention.stepsLeft = 0) :
    contention.callers.all Caller.isDone = true := by
  refine List.all_eq_true.mpr fun caller hm => Caller.isDone_iff_stepsLeft.mpr ?_
  exact List.sum_eq_zero_iff_forall_eq_nat.mp h _ (List.mem_map_of_mem hm)

end Measure

-- One caller takes the next step of its present call, and all others stay where they are.
def GoesOn (contention : Contention) (place : Nat) (next : Contention) : Prop :=
  ∃ caller caller', contention.callers[place]? = some caller ∧
    CallerStep contention.bench contention.locked caller next.bench next.locked caller' ∧
    next.callers = contention.callers.set place caller'

theorem goesOn_of_step? (h : contention.step? place = some next) :
    contention.GoesOn place next := by
  obtain ⟨before, caller, after, bench, locked, caller', hc, rfl, hstep, rfl⟩ :=
    callerStep_of_step? h
  exact ⟨caller, caller', by simp [hc], hstep, by simp [hc]⟩

-- A caller that cannot step is about to begin a call, if it has one left.
theorem stage_of_step?_eq_none (hc : contention.callers[place]? = some caller)
    (h : contention.step? place = none) : caller.stage = .idle := by
  refine Classical.byContradiction fun hs => ?_
  have := step?_isSome hc (stepCaller_isSome_of_stage hs)
  simp [h] at this

theorem opening_of_step?_eq_none (h : contention.step? place = none) :
    contention.opening (.turn place) = [] := by
  cases hc : contention.callers[place]? with
  | none => simp [opening, hc]
  | some caller => simp [opening, hc, Caller.opening, stage_of_step?_eq_none hc h]

section Play

theorem orderly_move (h : Orderly contention lamps) (next : Move) :
    Orderly (contention.move next) (lamps ++ contention.opening next) := by
  cases next with
  | respond responder =>
      rw [opening, List.append_nil]
      exact ⟨h.lock, h.numbered, h.logged⟩
  | refuse refusing =>
      rw [opening, List.append_nil]
      exact ⟨h.lock, h.numbered, h.logged⟩
  | turn place =>
      cases hs : contention.step? place with
      | none =>
          rw [move, hs, opening_of_step?_eq_none hs, List.append_nil]
          exact h
      | some next =>
          obtain ⟨before, caller, after, bench, locked, caller', hc, rfl, hstep, rfl⟩ :=
            callerStep_of_step? hs
          have ho : contention.opening (.turn before.length) = caller.opening contention.bench := by
            simp [opening, hc]
          have h' : Orderly
              ⟨contention.bench, contention.locked, before ++ caller :: after⟩ lamps := hc ▸ h
          rw [move, hs, Option.getD_some, ho]
          exact orderly_step hstep h'

theorem calls_move (contention : Contention) (next : Move) :
    (contention.move next).callers.map Caller.calls = contention.callers.map Caller.calls := by
  cases next with
  | respond responder => rfl
  | refuse refusing => rfl
  | turn place =>
      cases hs : contention.step? place with
      | none => rw [move, hs, Option.getD_none]
      | some next =>
          rw [move, hs, Option.getD_some]
          exact calls_step? hs

theorem orderly_play (moves : List Move) (h : Orderly contention lamps) :
    Orderly (contention.play lamps moves).1 (contention.play lamps moves).2 := by
  induction moves generalizing contention lamps with
  | nil => exact h
  | cons next rest ih => exact ih (orderly_move h next)

theorem calls_new (bench : Bench) (calls : List (List Command)) :
    (new bench calls).callers.map Caller.calls = calls := by
  rw [new, List.map_map]
  exact List.map_id'' (fun _ => rfl) calls

theorem calls_play (contention : Contention) (lamps : List Nat) (moves : List Move) :
    (contention.play lamps moves).1.callers.map Caller.calls =
      contention.callers.map Caller.calls := by
  induction moves generalizing contention lamps with
  | nil => rfl
  | cons next rest ih => rw [play, ih, calls_move]

theorem round_eq_play (contention : Contention) (lamps : List Nat) (places : List Nat) :
    contention.round places = (contention.play lamps (places.map .turn)).1 := by
  induction places generalizing contention lamps with
  | nil => rfl
  | cons place rest ih => exact ih _ _

end Play

-- A round in which anyone can go on leaves less to do.
theorem stepsLeft_round (places : List Nat) (contention : Contention) :
    (contention.round places).stepsLeft ≤ contention.stepsLeft ∧
      ∀ place ∈ places, (contention.step? place).isSome →
        (contention.round places).stepsLeft < contention.stepsLeft := by
  induction places generalizing contention with
  | nil => exact ⟨Nat.le_refl _, nofun⟩
  | cons first rest ih =>
      cases hs : contention.step? first with
      | none =>
          have hround : contention.round (first :: rest) = contention.round rest := by
            simp [round, hs]
          rw [hround]
          refine ⟨(ih contention).1, fun place hm hplace => ?_⟩
          rcases List.mem_cons.mp hm with rfl | hm
          · simp [hs] at hplace
          · exact (ih contention).2 place hm hplace
      | some next =>
          have hround : contention.round (first :: rest) = next.round rest := by
            simp [round, hs]
          have hlt : (next.round rest).stepsLeft < contention.stepsLeft :=
            Nat.lt_of_le_of_lt (ih next).1 (stepsLeft_step? hs)
          rw [hround]
          exact ⟨Nat.le_of_lt hlt, fun _ _ _ => hlt⟩

theorem stepsLeft_round_lt (h : Orderly contention lamps)
    (hd : contention.callers.all Caller.isDone = false) :
    (contention.round (List.range contention.callers.length)).stepsLeft < contention.stepsLeft := by
  obtain ⟨place, caller, hc, -, hplace⟩ := exists_turn h hd
  obtain ⟨hlt, -⟩ := List.getElem?_eq_some_iff.mp hc
  exact (stepsLeft_round _ contention).2 place (List.mem_range.mpr hlt) hplace

theorem rounds_done (fuel : Nat) (h : Orderly contention lamps)
    (hfuel : contention.stepsLeft ≤ fuel) :
    (rounds fuel contention).callers.all Caller.isDone = true ∧
      (rounds fuel contention).callers.map Caller.calls = contention.callers.map Caller.calls := by
  induction fuel generalizing contention lamps with
  | zero => exact ⟨all_isDone_of_stepsLeft (Nat.le_zero.mp hfuel), rfl⟩
  | succ fuel ih =>
      rw [rounds]
      cases hd : contention.callers.all Caller.isDone with
      | true => exact ⟨hd, rfl⟩
      | false =>
          have hlt := stepsLeft_round_lt h hd
          rw [round_eq_play contention lamps] at hlt ⊢
          have hafter := orderly_play ((List.range contention.callers.length).map .turn) h
          obtain ⟨hdone, hcalls⟩ := ih hafter (by omega)
          exact ⟨hdone, hcalls.trans (calls_play contention lamps _)⟩

-- There is a round for every step of every call.
theorem stepsLeft_le_turns (callers : List Caller) (turns : Nat) :
    7 * turns + (callers.map Caller.stepsLeft).sum ≤
      7 * callers.foldl (fun turns caller => turns + caller.waiting.length + 1) turns := by
  induction callers generalizing turns with
  | nil => exact Nat.le_refl _
  | cons caller rest ih =>
      have hstage : caller.stage.stepsLeft ≤ 5 := by
        cases caller.stage <;> simp
      have hrest := ih (turns + caller.waiting.length + 1)
      simp only [List.map_cons, List.sum_cons, List.foldl_cons, Caller.stepsLeft] at hrest ⊢
      omega

-- Once everyone has had enough turns, there is a result for each call.
theorem run_finished (h : Orderly contention lamps) :
    contention.run.callers.all Caller.isDone = true ∧
      contention.run.callers.map Caller.finished = contention.callers.map Caller.calls := by
  have hfuel := stepsLeft_le_turns contention.callers 0
  rw [Nat.mul_zero, Nat.zero_add] at hfuel
  obtain ⟨hdone, hcalls⟩ := rounds_done _ h hfuel
  refine ⟨hdone, hcalls ▸ List.map_congr_left fun caller hm => ?_⟩
  exact Caller.finished_of_isDone (List.all_eq_true.mp hdone caller hm)

end Contention
end BoardLink

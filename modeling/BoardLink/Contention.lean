import BoardLink.Bench

-- Many callers at once on one executor: every call is cut into its single steps, and the steps
-- of different callers come in any order.
namespace BoardLink

-- Where a caller stands in its present call.
inductive Stage where
  | idle
  | entered (command : Command)
  | connected (command : Command) (connection : Nat)
  | recorded (command : Command) (connection : Nat)
  | answered (command : Command) (connection : Nat)
      (response : Outcome (Except TransportError Bytes))
  | closed (command : Command) (result : Outcome (Executor.Result command))

-- A caller with the calls it has still to make and the results it has had, the latest first.
structure Caller where
  waiting : List Command
  stage : Stage
  results : List (Σ command : Command, Outcome (Executor.Result command))

namespace Caller

def new (commands : List Command) : Caller := ⟨commands, .idle, []⟩

def isDone (caller : Caller) : Bool :=
  match caller.waiting, caller.stage with
  | [], .idle => true
  | _, _ => false

def isFailure : (Σ command : Command, Outcome (Executor.Result command)) → Bool
  | ⟨_, .finished (.ok _)⟩ => false
  | _ => true

end Caller

-- `locked` tells whether a caller is between taking and letting go of the lamp lock.
structure Contention where
  bench : Bench
  locked : Bool
  callers : List Caller

namespace Contention

def new (bench : Bench) (calls : List (List Command)) : Contention :=
  ⟨bench, false, calls.map Caller.new⟩

-- The next step of one caller. There is none when it is done, or while it waits for the lock.
def stepCaller (bench : Bench) (locked : Bool) (caller : Caller) :
    Option (Bench × Bool × Caller) :=
  match caller.stage with
  | .idle =>
    match caller.waiting with
    | [] => none
    | command :: waiting =>
      if !command.isImplemented then
        some (bench, locked, { caller with
          waiting
          results := ⟨command, .finished (.error (.unimplemented command.opcode))⟩ ::
            caller.results })
      else
        match command.validate with
        | .error fault =>
          some (bench, locked, { caller with
            waiting
            results := ⟨command, .finished (.error (.decode fault))⟩ :: caller.results })
        | .ok () =>
          if !command.isExclusive then
            some (bench, locked, { caller with waiting, stage := .entered command })
          else if locked then none
          else some (bench.acquire, true, { caller with waiting, stage := .entered command })
  | .entered command =>
    match bench.connect with
    | (none, bench) =>
      some (bench, locked, { caller with
        stage := .closed command (.finished (.error .unavailable)) })
    | (some connection, bench) =>
      some (bench, locked, { caller with stage := .connected command connection })
  | .connected command connection =>
    let opcode := command.request.toBytes.headD 0
    some (bench.record (.exchange connection opcode), locked,
      { caller with stage := .recorded command connection })
  | .recorded command connection =>
    let (response, device) := bench.responder command.request.toBytes bench.device
    some ({ bench with device }, locked,
      { caller with stage := .answered command connection response })
  | .answered command connection response =>
    some (bench.disconnect connection, locked, { caller with
      stage := .closed command (response.map command.normalize) })
  | .closed command result =>
    let finish (result : Outcome (Executor.Result command)) : Caller :=
      { caller with stage := .idle, results := ⟨command, result⟩ :: caller.results }
    if command.isExclusive then
      match bench.release with
      | (.finished (), bench) => some (bench, false, finish result)
      | (.crashed, bench) => some (bench, false, finish .crashed)
    else some (bench, locked, finish result)

-- The step of the caller at one place.
def step? (contention : Contention) (place : Nat) : Option Contention := do
  let caller ← contention.callers[place]?
  let (bench, locked, caller) ← stepCaller contention.bench contention.locked caller
  return ⟨bench, locked, contention.callers.set place caller⟩

-- Give a turn to each of the places.
def round (contention : Contention) (places : List Nat) : Contention :=
  places.foldl (fun contention place => (contention.step? place).getD contention) contention

-- Turns for everyone, again and again until all calls are made.
def rounds : (fuel : Nat) → Contention → Contention
  | 0, contention => contention
  | fuel + 1, contention =>
    if contention.callers.all Caller.isDone then contention
    else rounds fuel (contention.round (List.range contention.callers.length))

-- No call takes more than six steps, and in every round some caller takes one.
def run (contention : Contention) : Contention :=
  let turns := contention.callers.foldl (fun turns caller => turns + caller.waiting.length + 1) 0
  rounds (7 * turns) contention

def failures (contention : Contention) : Nat :=
  contention.callers.foldl (fun count caller => count + caller.results.countP Caller.isFailure) 0

-- Every three events in turn belong to one connection, from its beginning to its end.
def grouped : List Event → Bool
  | [] => true
  | .connect a :: .exchange b _ :: .disconnect c :: rest => a == b && b == c && grouped rest
  | _ => false

end Contention
end BoardLink

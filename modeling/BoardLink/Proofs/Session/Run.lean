import BoardLink.Proofs.Bench.Calls

-- Sessions: calls made one after another on a bench, which may be changed between them.
namespace BoardLink.Session

-- Between calls the replies may become anything, and connections be refused or allowed again.
inductive Step where
  | respond (responder : Responder)
  | refuse (refusing : Bool)
  | execute (command : Command)
  | operate (operation : Operation)

-- A call that was made, whether connections were refused at that time, and how it ended.
structure Visit where
  command : Command
  refusing : Bool
  outcome : Outcome (Except CommandError (Completed Reply))

-- The command that a step carries out, if it is a call.
def Step.command? (convention : BatteryConvention) : Step → Option Command
  | .respond _ | .refuse _ => none
  | .execute command => some command
  | .operate operation => some (operation.command convention)

-- The answer of any command as a reply.
def reply (command : Command) (result : Outcome (Executor.Result command)) :
    Outcome (Except CommandError (Completed Reply)) :=
  result.map (Except.map (Completed.map (Reply.ofAnswer command)))

def take (convention : BatteryConvention) (bench : Bench) : Step → Option Visit × Bench
  | .respond responder => (none, { bench with responder })
  | .refuse refusing => (none, { bench with refusing })
  | .execute command =>
    let (result, after) := (Bench.executor convention).execute command bench
    (some ⟨command, bench.refusing, reply command result⟩, after)
  | .operate operation =>
    let (result, after) := (Bench.executor convention).executeOperation operation bench
    (some ⟨operation.command convention, bench.refusing, result⟩, after)

def run (convention : BatteryConvention) (bench : Bench) : List Step → List Visit × Bench
  | [] => ([], bench)
  | step :: rest =>
    let (visit, bench) := take convention bench step
    let (visits, bench) := run convention bench rest
    (visit.toList ++ visits, bench)

-- Both ways of making a call do the same thing.
theorem take_of_command? {convention : BatteryConvention} {bench : Bench} {step : Step}
    {command : Command} (h : step.command? convention = some command) :
    take convention bench step =
      (some ⟨command, bench.refusing,
        reply command ((Bench.executor convention).execute command bench).1⟩,
        ((Bench.executor convention).execute command bench).2) := by
  cases step with
  | respond responder => cases h
  | refuse refusing => cases h
  | execute command =>
      cases h
      rfl
  | operate operation =>
      cases h
      rfl

end BoardLink.Session

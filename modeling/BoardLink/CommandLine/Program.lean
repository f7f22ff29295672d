import BoardLink.CommandLine.Run

-- A whole run of the program: from the words of the command line to what is printed.
namespace BoardLink

-- What a run leaves behind, apart from changes to the host. Notices come before all else.
structure Transcript where
  exitCode : UInt32
  notices : List String
  output : List String
  errors : List String
  log : List Log.Line
  deriving DecidableEq, Repr

namespace Program

def name : String := "mctl-cli"

def version : String := "0.1.0"

def usage : String := "Usage: " ++ name ++ " [OPTIONS] <COMMAND>"

-- Help and the version are ordinary output. A command line that cannot be read has an exit code
-- of its own. Of any help text only the usage line is kept.
def stopped (notices : List String) : CommandLine.Stop → Transcript
  | .help => ⟨0, notices, [usage], [], []⟩
  | .version => ⟨0, notices, [name ++ " " ++ version], [], []⟩
  | .refused => ⟨2, notices, [], [usage], []⟩

-- `shown` asks for a part of the log, if anything does.
def run (environment : Environment) (shown : Option String) (now : LocalTime)
    (words : List String) (host : Host) : Transcript × Host :=
  let notices := Log.Filter.notices (shown.getD "")
  match CommandLine.read words with
  | .error stop => (stopped notices stop, host)
  | .ok (options, invocation) =>
    let (report, host) := Run.invocation environment now options invocation host
    let log := host.journal.filter (Log.Filter.ofRequest shown).shows
    (⟨report.exitCode, notices, report.output, report.errors, log⟩, host)

end Program
end BoardLink

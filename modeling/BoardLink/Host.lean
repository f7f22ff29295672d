import BoardLink.Executor
import BoardLink.Files.Tree
import BoardLink.Server

-- The surroundings of the client: its files, the server behind its socket, and its log.
namespace BoardLink

structure Host where
  files : FileTree
  server : Server
  journal : List Log.Line

namespace Host

def log (line : Log.Line) (host : Host) : Host := { host with journal := host.journal ++ [line] }

def socketTarget : String := "mctl_transport::unix"

-- Open a connection to the socket at a path. No connection can have a time limit of zero.
def connect (path : FilePath) (timeoutMs : Option UInt64) (host : Host) : Option Unit × Host :=
  let failed (reason : String) (host : Host) : Option Unit × Host :=
    (none, host.log ⟨.debug, socketTarget,
      "Failed to connect to " ++ path.text ++ ": " ++ reason⟩)
  match host.files.connect path with
  | .ok () =>
    let (accepted, server) := host.server.accept
    let host := { host with server }
    match accepted with
    | .error reason => failed reason host
    | .ok () =>
      if timeoutMs = some 0 then failed "cannot set a 0 duration timeout" host
      else (some (), host.log ⟨.trace, socketTarget, "Connected to " ++ path.text⟩)
  | .error error => failed error.message host

-- Send one body and wait for one. A body that is too long is not sent.
def exchange (body : Bytes) (host : Host) :
    Outcome (Except TransportError Bytes) × Host :=
  if Frame.maxLength < body.length then
    (.finished (.error (.frameTooLarge body.length Frame.maxLength)), host)
  else
    let (answer, server) := host.server.serve body
    let unsent := { host with server }
    let host := unsent.log ⟨.trace, socketTarget, "Sent " ++ toString body.length ++ " bytes"⟩
    match answer with
    | .error (.send fault) => (.finished (.error (.send fault)), unsent)
    | .error error => (.finished (.error error), host)
    | .ok response =>
      (.finished (.ok response), host.log ⟨.trace, socketTarget,
        "Received " ++ toString response.length ++ " bytes"⟩)

def disconnect (path : FilePath) (host : Host) : Host :=
  host.log ⟨.trace, socketTarget, "Disconnected from " ++ path.text⟩

-- Nothing competes for the lamp lock here, so its two ends leave no trace.
def executor (path : FilePath) (timeoutMs : Option UInt64) (convention : BatteryConvention) :
    Executor Host Unit where
  connect := connect path timeoutMs
  exchange := fun _ => exchange
  disconnect := fun _ => disconnect path
  acquire := id
  release := fun host => (.finished (), host)
  log := log
  convention := convention

end Host
end BoardLink

import BoardLink.CommandLine.Program
import Std.Time.Zoned

-- The program on a real machine. Runs are computed on a picture of the files they can touch, and
-- repeated with one more reply each time the board is asked something new.
namespace BoardLink.Main

def canOpen (path : String) (mode : IO.FS.Mode) : IO Bool := do
  try
    let _ ← IO.FS.Handle.mk path mode
    return true
  catch _ => return false

-- What is at a path on disk. What can be opened but not read is a directory.
def nodeAt (path : String) : IO (Option FileNode) := do
  try
    return some (.file (← IO.FS.readBinFile path).toList)
  catch _ =>
    return if ← canOpen path .read then some .directory else none

-- One frame out and one frame in, over a connection of its own.
def converse (endpoint : String) (body : Bytes) : IO PreparedReply := do
  try
    let handle ← IO.FS.Handle.mk endpoint .readWrite
    handle.write ⟨(Frame.encode body).toArray⟩
    handle.flush
    let header ← handle.read 2
    let length := BigEndian.decode header.toList
    let answer ← handle.read (USize.ofNat length)
    return .bytes (header ++ answer).toList
  catch _ => return .hangUp

def now : IO LocalTime := do
  let now ← Std.Time.Timestamp.now
  let offset ← try
      let rules ← Std.Time.Database.defaultGetLocalZoneRules
      pure (rules.findLocalTimeTypeForTimestamp now).getTimeZone.offset.second.val
    catch _ => pure 0
  return ⟨⟨now.val.second.val, now.val.nano.val.toNat⟩, offset⟩

-- The files that a request can look at or change.
def touched (environment : Environment) (options : Options) : Invocation → List FilePath
  | .inputs root =>
    DigitalInputs.exportPath root :: root :: [0, 1, 2, 3, 4, 5, 6, 7].map fun number =>
      DigitalInputs.valuePath root (DigitalInputs.firstPin + number)
  | .input root number =>
    [DigitalInputs.exportPath root, root,
      DigitalInputs.valuePath root (DigitalInputs.firstPin + number)]
  | _ =>
    match environment.settingsPath options with
    | .ok path => [path]
    | .error _ => []

-- A picture of the given files.
def picture (paths : List FilePath) : IO FileTree := do
  let here : FilePath := ⟨(← IO.currentDir).toString⟩
  let mut files : FileTree := (FileTree.mk here.steps []).plant here .directory
  for path in paths do
    if let some node ← nodeAt path.text then
      files := files.plant path node
  return files

-- Bring changed files to disk.
def store (before after : FileTree) (paths : List FilePath) : IO Unit := do
  for path in paths do
    match after.readBytes path with
    | .ok content =>
      if (before.readBytes path).toOption ≠ some content then
        if let some parent := path.parent? then
          if parent.text ≠ "" then IO.FS.createDirAll parent.text
        IO.FS.writeBinFile path.text ⟨content.toArray⟩
    | .error _ => pure ()

-- Run until every request has its reply. A new request is sent and the run is begun again.
partial def settle (endpoint : String) (run : List PreparedReply → Transcript × Host)
    (replies : List PreparedReply) : IO (Transcript × Host) := do
  let (transcript, host) := run replies
  match host.server.requests[replies.length]? with
  | some body => settle endpoint run (replies ++ [← converse endpoint body])
  | none => return (transcript, host)

def print (transcript : Transcript) : IO UInt32 := do
  for line in transcript.notices do IO.eprintln line
  for line in transcript.output do IO.println line
  for line in transcript.log do IO.eprintln line.text
  for line in transcript.errors do IO.eprintln line
  return transcript.exitCode

def run (words : List String) : IO UInt32 := do
  let environment : Environment := ⟨← IO.getEnv "HOME", ← IO.getEnv "XDG_CONFIG_HOME",
    ← IO.getEnv Settings.endpointVariable⟩
  let shown ← IO.getEnv "RUST_LOG"
  let now ← now
  let paths := match CommandLine.read words with
    | .ok (options, invocation) => touched environment options invocation
    | .error _ => []
  let files ← picture paths
  let host (files : FileTree) (replies : List PreparedReply) : Host :=
    ⟨files, .new .initial replies, []⟩
  let endpoint := match CommandLine.read words with
    | .ok (options, _) =>
      match (environment.reach options (host files [])).1 with
      | .ok reach => reach.endpoint
      | .error _ => ""
    | .error _ => ""
  let reachable := if ← canOpen endpoint .readWrite then files.plant ⟨endpoint⟩ .socket else files
  let (transcript, after) ← settle endpoint
    (fun replies => Program.run environment shown now words (host reachable replies)) []
  store files after.files paths
  print transcript

end BoardLink.Main

def main (words : List String) : IO UInt32 := BoardLink.Main.run words

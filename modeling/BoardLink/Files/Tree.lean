import BoardLink.Files.Path

-- A tree of files, and the few things the client does with files.
namespace BoardLink

inductive FileError where
  | notFound
  | alreadyExists
  | notDirectory
  | isDirectory
  | nameTooLong
  | noSuchDevice
  | refused
  | notText
  | zeroByte
  | socketPathZeroByte
  | socketPathTooLong
  | incompleteTree
  deriving DecidableEq, Repr

def FileError.message : FileError → String
  | .notFound => "No such file or directory (os error 2)"
  | .alreadyExists => "File exists (os error 17)"
  | .notDirectory => "Not a directory (os error 20)"
  | .isDirectory => "Is a directory (os error 21)"
  | .nameTooLong => "File name too long (os error 36)"
  | .noSuchDevice => "No such device or address (os error 6)"
  | .refused => "Connection refused (os error 111)"
  | .notText => "stream did not contain valid UTF-8"
  | .zeroByte => "file name contained an unexpected NUL byte"
  | .socketPathZeroByte => "paths must not contain interior null bytes"
  | .socketPathTooLong => "path must be shorter than SUN_LEN"
  | .incompleteTree => "failed to create whole tree"

inductive FileNode where
  | file (content : Bytes)
  | directory
  | socket
  deriving DecidableEq, Repr

-- The place of a node: the names from the root down to it.
abbrev Location := List String

-- Relative paths start at `workingDirectory`. The root is always a directory.
structure FileTree where
  workingDirectory : Location
  nodes : List (Location × FileNode)
  deriving DecidableEq, Repr

namespace FileTree

def node? (tree : FileTree) (place : Location) : Option FileNode :=
  if place = [] then some .directory else tree.nodes.lookup place

def put (tree : FileTree) (place : Location) (node : FileNode) : FileTree :=
  { tree with nodes := (place, node) :: tree.nodes.filter (·.1 ≠ place) }

-- What a path leads to: a node, or a free name in a directory.
inductive Target where
  | existing (place : Location) (node : FileNode)
  | free (place : Location)
  deriving DecidableEq, Repr

-- Follow the steps of a path. Every node on the way has to be a directory.
def walk (tree : FileTree) (place : Location) : List String → Except FileError Target
  | [] =>
    match tree.node? place with
    | some node => .ok (.existing place node)
    | none => .error .notFound
  | step :: rest =>
    match tree.node? place with
    | none => .error .notFound
    | some .directory =>
      if step = "." then walk tree place rest
      else if step = ".." then walk tree place.dropLast rest
      else if 255 < (Text.Utf8.encode step.toList).length then .error .nameTooLong
      else if rest = [] ∧ tree.node? (place ++ [step]) = none then .ok (.free (place ++ [step]))
      else walk tree (place ++ [step]) rest
    | some _ => .error .notDirectory

-- Where a path starts, given that it may be used at all.
def start (tree : FileTree) (path : FilePath) : Except FileError Location :=
  if path.text.toList.contains '\x00' then .error .zeroByte
  else if path.text = "" then .error .notFound
  else if 4095 < path.size then .error .nameTooLong
  else .ok (if path.isAbsolute then [] else tree.workingDirectory)

def locate (tree : FileTree) (path : FilePath) : Except FileError Target := do
  match ← tree.walk (← tree.start path) path.steps with
  | .existing place node =>
    if path.namesDirectory ∧ node ≠ .directory then .error .notDirectory
    else .ok (.existing place node)
  | .free place => .ok (.free place)

def stat (tree : FileTree) (path : FilePath) : Except FileError FileNode :=
  match tree.locate path with
  | .ok (.existing _ node) => .ok node
  | .ok (.free _) => .error .notFound
  | .error error => .error error

def exists? (tree : FileTree) (path : FilePath) : Bool := (tree.stat path).isOk

def isDirectory (tree : FileTree) (path : FilePath) : Bool :=
  match tree.stat path with
  | .ok .directory => true
  | _ => false

def readBytes (tree : FileTree) (path : FilePath) : Except FileError Bytes :=
  match tree.stat path with
  | .ok (.file content) => .ok content
  | .ok .directory => .error .isDirectory
  | .ok .socket => .error .noSuchDevice
  | .error error => .error error

def readText (tree : FileTree) (path : FilePath) : Except FileError String :=
  match tree.readBytes path with
  | .error error => .error error
  | .ok content =>
    match Text.Utf8.decode? content with
    | some text => .ok (String.ofList text)
    | none => .error .notText

-- Put a file at a path, in place of the one that is there. A path that can only name a directory
-- is refused as soon as all but its last step has led to one.
def write (tree : FileTree) (path : FilePath) (content : Bytes) : Except FileError FileTree := do
  if path.namesDirectory then
    match ← tree.walk (← tree.start path) path.steps.dropLast with
    | .existing _ .directory => .error .isDirectory
    | .existing .. => .error .notDirectory
    | .free _ => .error .notFound
  else
    match ← tree.locate path with
    | .existing place (.file _) | .free place => .ok (tree.put place (.file content))
    | .existing _ .directory => .error .isDirectory
    | .existing _ .socket => .error .noSuchDevice

def writeText (tree : FileTree) (path : FilePath) (text : String) : Except FileError FileTree :=
  tree.write path (Text.Utf8.encode text.toList)

def makeDirectory (tree : FileTree) (path : FilePath) : Except FileError FileTree :=
  match tree.locate path with
  | .ok (.existing ..) => .error .alreadyExists
  | .ok (.free place) => .ok (tree.put place .directory)
  | .error error => .error error

-- A directory that is there already will do.
def makeOrKeepDirectory (tree : FileTree) (path : FilePath) : Except FileError FileTree :=
  match tree.makeDirectory path with
  | .ok tree => .ok tree
  | .error error => if tree.isDirectory path then .ok tree else .error error

-- Make a directory and those above it that are missing. Those made before a failure stay.
-- `fuel` bounds the steps up to the nearest directory that exists.
def makeDirectoriesWithin : (fuel : Nat) → FileTree → FilePath → Except FileError Unit × FileTree
  | fuel, tree, path =>
    if path.text = "" then (.ok (), tree)
    else
      match tree.makeOrKeepDirectory path with
      | .ok tree => (.ok (), tree)
      | .error .notFound =>
        match fuel, path.parent? with
        | fuel + 1, some parent =>
          match makeDirectoriesWithin fuel tree parent with
          | (.error error, tree) => (.error error, tree)
          | (.ok (), tree) =>
            match tree.makeOrKeepDirectory path with
            | .ok tree => (.ok (), tree)
            | .error error => (.error error, tree)
        | _, _ => (.error .incompleteTree, tree)
      | .error error => (.error error, tree)

def makeDirectories (tree : FileTree) (path : FilePath) : Except FileError Unit × FileTree :=
  makeDirectoriesWithin path.steps.length tree path

-- Whether somebody listens at a path.
def connect (tree : FileTree) (path : FilePath) : Except FileError Unit :=
  if path.text.toList.contains '\x00' then .error .socketPathZeroByte
  else if 108 ≤ path.size then .error .socketPathTooLong
  else
    match tree.stat path with
    | .ok .socket => .ok ()
    | .ok _ => .error .refused
    | .error error => .error error

-- The places that steps lead through if every node on the way is a directory.
def stops (place : Location) : List String → List Location
  | [] => [place]
  | step :: rest =>
    let next :=
      if step = "." then place
      else if step = ".." then place.dropLast
      else place ++ [step]
    place :: stops next rest

-- A node with all directories on the way to it, whatever was there before.
def plant (tree : FileTree) (path : FilePath) (node : FileNode) : FileTree :=
  let way := stops (if path.isAbsolute then [] else tree.workingDirectory) path.steps
  (way.dropLast.foldl (fun tree place =>
    if tree.node? place = none then tree.put place .directory else tree) tree).put
      (way.getLast?.getD []) node

end FileTree
end BoardLink

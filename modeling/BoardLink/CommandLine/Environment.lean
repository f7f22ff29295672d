import BoardLink.CommandLine.Invocation
import BoardLink.CommandLine.Report

-- Where the settings of a run come from. A settings file, a variable of the environment and the
-- command line lie over each other in this order, and the last one wins.
namespace BoardLink

-- The variables that matter to a run.
structure Environment where
  home : Option String
  configHome : Option String
  endpoint : Option String
  deriving DecidableEq, Repr

namespace Environment

-- A directory for settings has to be absolute. Otherwise they are kept below the user's home.
def configDirectory? (environment : Environment) : Option FilePath :=
  match environment.configHome.filter fun path => (FilePath.mk path).isAbsolute with
  | some path => some ⟨path⟩
  | none => (environment.home.filter (· ≠ "")).map fun home => (FilePath.mk home).join ".config"

-- The settings file of a run.
def settingsPath (environment : Environment) (options : Options) : Except Failure FilePath :=
  match options.config, environment.configDirectory? with
  | some path, _ => .ok path
  | none, some directory => .ok ((directory.join "mctl").join "config.toml")
  | none, none => .error .noConfigDirectory

-- The settings of a run.
def settings (environment : Environment) (options : Options) (host : Host) :
    Except Failure Settings × Host :=
  match environment.settingsPath options with
  | .error failure => (.error failure, host)
  | .ok path =>
    match Settings.load path host with
    | (.error error, host) => (.error (.store error), host)
    | (.ok stored, host) =>
      let (settings, host) := stored.loadEnvironment environment.endpoint host
      (.ok (settings.override options.settings), host)

-- The way to the board that the settings describe.
def reach (environment : Environment) (options : Options) (host : Host) :
    Except Failure Reach × Host :=
  match environment.settings options host with
  | (.error failure, host) => (.error failure, host)
  | (.ok settings, host) =>
    match (Reach.ofSettings settings).build host with
    | (.error error, host) => (.error (.reach error), host)
    | (.ok reach, host) =>
      (.ok reach, host.log ⟨.debug, "mctl_cli::context", "Using endpoint " ++ reach.endpoint⟩)

end Environment
end BoardLink

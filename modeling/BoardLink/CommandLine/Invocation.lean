import BoardLink.Files.Path
import BoardLink.Operation
import BoardLink.Settings.Basic

-- What a user can ask for on the command line.
namespace BoardLink

-- What applies to every command. `settings` are those given on the command line.
structure Options where
  config : Option FilePath
  settings : Settings
  json : Bool
  deriving DecidableEq, Repr

inductive Invocation where
  | setSetting (key value : String)
  | getSetting (key : String)
  | settingsPath
  | call (operation : Operation)
  | fpgaVersion (dotted : Bool)
  | voltages
  | syncClock
  | inputs (root : FilePath)
  | input (root : FilePath) (number : UInt32)
  deriving DecidableEq, Repr

-- The word that asks for all settings at once.
def Invocation.allSettings : String := "all"

end BoardLink

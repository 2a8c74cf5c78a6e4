import SocBench.Cli.Invocation
import SocBench.Config.Reading
import SocBench.Host.Folder

/-!
# Finding the configuration

A configuration that is asked for must be there: the file itself, or the file of the usual name if
a directory is given.  Otherwise the file of the usual name is read if there is one, and if not the
defaults hold.
-/

namespace SocBench.Cli

/-- The usual name of a configuration file. -/
def configFileName : String := "alioth.toml"

/-- The path of a file in a directory. -/
def joinPath (directory name : String) : String :=
  if Folder.asksForDirectory directory then directory ++ name else directory ++ "/" ++ name

/-- Reads a configuration from a file. -/
def readConfigFile (folder : Folder) (path : String) : Except ConfigError Config :=
  match folder.read path with
  | .ok text => Config.read text
  | .error e => .error (.read path e.message)

/-- The configuration of an invocation, before its own options. -/
def Invocation.configuration (i : Invocation) (folder : Folder) : Except ConfigError Config :=
  match i.config with
  | some path =>
    readConfigFile folder (if folder.isDirectory path then joinPath path configFileName else path)
  | none =>
    if folder.isFile configFileName then readConfigFile folder configFileName else .ok {}

end SocBench.Cli

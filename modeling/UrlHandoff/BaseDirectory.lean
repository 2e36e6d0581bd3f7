import UrlHandoff.Environment
import UrlHandoff.FileTree

namespace UrlHandoff.BaseDirectory

def application : String := "weblaunch"

def home (env : Environment) : Path := (env.get? "HOME").getD []

def absolute? (env : Environment) (name : String) : Option Path :=
  (env.get? name).filter Path.isAbsolute

def configHome (env : Environment) : Path :=
  (absolute? env "XDG_CONFIG_HOME").getD ((home env).join ".config")

def stateHome (env : Environment) : Path :=
  (absolute? env "XDG_STATE_HOME").getD ((home env).join ".local/state")

def colon : UInt8 := 0x3A

def configDirectories (env : Environment) : List Path :=
  match (((env.get? "XDG_CONFIG_DIRS").getD []).splitOn colon).filter Path.isAbsolute with
  | [] => [Path.ofText "/etc/xdg"]
  | paths => paths

def settingsCandidates (env : Environment) : List Path :=
  (configHome env :: configDirectories env).map fun base =>
    (base.join application).join "config.toml"

def settingsPath? (env : Environment) (files : FileTree) : Option Path :=
  (settingsCandidates env).find? files.contains

def logDirectory (env : Environment) : Path := (stateHome env).join application

def logPath (env : Environment) : Path := (logDirectory env).join "weblaunch.log"

end UrlHandoff.BaseDirectory

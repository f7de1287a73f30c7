import ServerLink.Environment
import ServerLink.Path.Basic

namespace ServerLink.Home

def directoryName : String := ".jimple"

def settingsName : String := "config.toml"

def stateName : String := "state.toml"

def find? (env : Environment) : Option Path :=
  ((env.find? (Text.Utf8.bytes "HOME")).filter (!·.isEmpty)).map Path.mk

def directory? (env : Environment) : Option Path :=
  (find? env).map (·.join (Path.ofText directoryName))

def settingsFile? (env : Environment) : Option Path :=
  (directory? env).map (·.join (Path.ofText settingsName))

def stateFile? (env : Environment) : Option Path :=
  (directory? env).map (·.join (Path.ofText stateName))

end ServerLink.Home

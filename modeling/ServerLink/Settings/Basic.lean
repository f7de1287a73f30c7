import ServerLink.Duration
import ServerLink.Json.Basic
import ServerLink.Path.Basic
import ServerLink.Product
import ServerLink.Transport.Mode

namespace ServerLink

structure Settings.Extraction where
  androidPlatforms : String := ""
  sootPath : String := ""
  deriving DecidableEq, Repr, Inhabited

structure Settings where
  transport : Transport.Mode := .stdio
  /-- The command that runs the server's archive. -/
  executable : String := "java"
  /-- The server's archive, where it is not the one of this version. -/
  artifact : Option Path := none
  port : UInt16 := 2403
  debug : Bool := false
  handshakeSeconds : Option UInt64 := none
  extraction : Settings.Extraction := {}
  deriving DecidableEq, Repr, Inhabited

namespace Settings

/-- The name under which the server asks for settings. -/
def sectionName : String := "JimpleLSP"

/-- The server's archive, below the directory of the installation unless its path is absolute. -/
def artifactPath (s : Settings) (installation : Path) : Path :=
  installation.join (s.artifact.getD (Path.ofText Product.serverArtifact))

def handshakeTimeout (s : Settings) : Option Duration :=
  s.handshakeSeconds.map fun n => .ofSeconds n.toNat

/-- The settings that the server may ask for. -/
def exported (s : Settings) : Json :=
  .ofFields [(sectionName, .ofFields [("jimpleextraction", .ofFields [
    ("androidplatforms", .string s.extraction.androidPlatforms),
    ("sootpath", .string s.extraction.sootPath)])])]

end Settings

end ServerLink

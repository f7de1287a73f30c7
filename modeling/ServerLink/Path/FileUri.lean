import ServerLink.Path.Basic
import ServerLink.Url.Basic

namespace ServerLink.Path

def uriPath (p : Path) : List Char :=
  let segments := p.names.map fun n => '/' :: Url.encodeBytes Url.segmentSet n
  if segments.isEmpty then ['/'] else segments.flatten

/-- The file URL of a path, which has to be absolute. -/
def fileUrl? (p : Path) : Option Url :=
  if p.isAbsolute then some ⟨"file".toList, some ⟨[], [], none⟩, p.uriPath, none, none⟩ else none

def fileUri? (p : Path) : Option String :=
  p.fileUrl?.map Url.text

def noFileUriMessage (p : Path) : String :=
  "cannot convert path to file URI: " ++ p.text

end ServerLink.Path

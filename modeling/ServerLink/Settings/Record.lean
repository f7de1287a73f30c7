import ServerLink.Settings.Basic

namespace ServerLink.Settings

/-- A field that is absent has its default, and otherwise has to be readable. -/
def field {α : Type} (read : Json → Option α) (default : α) : Option Json → Option α
  | none => some default
  | some j => read j

/-- A field that may be left open by `null`. -/
def openField {α : Type} (read : Json → Option α) : Option Json → Option (Option α)
  | none => some none
  | some .null => some none
  | some j => (read j).map some

def Extraction.ofJson? (surplus : Bool) (j : Json) : Option Extraction := do
  let [platforms, soot] ← Json.record? surplus ["androidplatforms", "sootpath"] j | none
  return {
    androidPlatforms := ← field Json.string? "" platforms
    sootPath := ← field Json.string? "" soot }

/-- The settings of a record. With `surplus`, an array may hold more than the fields. -/
def ofJson? (surplus : Bool) (j : Json) : Option Settings := do
  let [transport, executable, artifact, port, debug, handshake, extraction] ← Json.record? surplus
    ["transport", "executable", "server_artifact", "port", "debug", "handshake_timeout_secs",
      "jimpleextraction"] j | none
  return {
    transport := ← field (fun j => j.string?.map Transport.Mode.ofName) .stdio transport
    executable := ← field Json.string? "java" executable
    artifact := ← openField (fun j => j.string?.map Path.ofText) artifact
    port := ← field (fun j => (j.natBelow? (Nat.pow 2 16)).map UInt16.ofNat) 2403 port
    debug := ← field Json.bool? false debug
    handshakeSeconds := ← openField (fun j => (j.natBelow? (Nat.pow 2 64)).map UInt64.ofNat) handshake
    extraction := ← field (Extraction.ofJson? surplus) {} extraction }

end ServerLink.Settings

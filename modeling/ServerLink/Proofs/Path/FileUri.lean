import ServerLink.Path.FileUri
import ServerLink.Proofs.Url.Percent

namespace ServerLink.Path

open Text

theorem fileUri?_eq_some_iff {p : Path} {uri : String} : p.fileUri? = some uri ↔
    p.isAbsolute = true ∧ uri = String.ofList ("file://".toList ++ p.uriPath) := by
  have hwrite : Url.write ⟨"file".toList, some ⟨[], [], none⟩, p.uriPath, none, none⟩ =
      "file://".toList ++ p.uriPath := by
    simp [Url.write, Url.Authority.write, Url.writePart]
  rw [fileUri?, fileUrl?]
  split
  · rename_i habsolute
    rw [Option.map_some, Url.text, hwrite, Option.some.injEq, eq_comm, and_iff_right habsolute]
  · rename_i hrelative
    simp [hrelative]

theorem exists_fileUri?_iff {p : Path} : (∃ uri, p.fileUri? = some uri) ↔ p.isAbsolute = true := by
  simp [fileUri?_eq_some_iff]

theorem decodeBytes_segments (names : List (List UInt8)) :
    Url.decodeBytes (Utf8.encode (names.flatMap fun n => '/' :: Url.encodeBytes Url.segmentSet n)) =
      names.flatMap (slash :: ·) := by
  induction names with
  | nil => rfl
  | cons n names ih =>
      have hslash : Utf8.encode ['/'] = [slash] := rfl
      rw [List.flatMap_cons, List.flatMap_cons, ← List.singleton_append, List.append_assoc,
        Utf8.encode_append, Utf8.encode_append, hslash, List.singleton_append,
        Url.decodeBytes_cons (by decide), Url.decodeBytes_encodeBytes rfl, ih]
      rfl

theorem flatMap_slash {names : List (List UInt8)} (h : names ≠ []) :
    names.flatMap (slash :: ·) = slash :: joinWith slash names := by
  induction names with
  | nil => exact absurd rfl h
  | cons n names ih =>
      cases names with
      | nil => simp [joinWith]
      | cons m names =>
          rw [List.flatMap_cons, ih (List.cons_ne_nil m names), joinWith]
          rfl

theorem decodeBytes_uriPath (p : Path) :
    Url.decodeBytes (Utf8.encode p.uriPath) = (ofParts true p.names).bytes := by
  rw [uriPath]
  cases hnames : p.names with
  | nil => rfl
  | cons n names =>
      have hdecode := decodeBytes_segments (n :: names)
      rw [flatMap_slash (List.cons_ne_nil n names)] at hdecode
      simpa [ofParts, List.flatMap_def] using hdecode

theorem decodeBytes_of_fileUri? {p : Path} {uri : String} (h : p.fileUri? = some uri) :
    ∃ written : String, uri = "file://" ++ written ∧
      Url.decodeBytes (Utf8.bytes written) = (ofParts true p.names).bytes := by
  obtain ⟨-, rfl⟩ := fileUri?_eq_some_iff.mp h
  refine ⟨String.ofList p.uriPath, by rw [String.ofList_append, String.ofList_toList], ?_⟩
  rw [Utf8.bytes, String.toList_ofList]
  exact decodeBytes_uriPath p

end ServerLink.Path

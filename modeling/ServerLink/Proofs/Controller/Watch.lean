import ServerLink.Controller.Step
import ServerLink.Proofs.Document.Watch

namespace ServerLink.Controller

open Document

/-- What the server reads of a change. -/
inductive Tells : FileChange → Json → Prop
  | created {path : Path} {uri : String} (h : path.fileUri? = some uri) :
      Tells ⟨path, .created⟩ (.ofFields [("uri", .string uri), ("type", .nat 1)])
  | changed {path : Path} {uri : String} (h : path.fileUri? = some uri) :
      Tells ⟨path, .changed⟩ (.ofFields [("uri", .string uri), ("type", .nat 2)])
  | deleted {path : Path} {uri : String} (h : path.fileUri? = some uri) :
      Tells ⟨path, .deleted⟩ (.ofFields [("uri", .string uri), ("type", .nat 3)])

theorem tells_of_told {change : FileChange} {told : String × ChangeKind} (h : Told change told) :
    Tells change (.ofFields [("uri", .string told.1), ("type", .nat told.2.code)]) := by
  cases h with
  | mk kind huri =>
      cases kind with
      | created => exact .created huri
      | changed => exact .changed huri
      | deleted => exact .deleted huri

theorem toJson_watched {changes : List FileChange} {told : List (String × ChangeKind)}
    (h : List.Forall₂ Told changes told) :
    ∃ items, List.Forall₂ Tells changes items ∧
      (Client.Message.watched told).toJson =
        .ofFields [("jsonrpc", .string "2.0"), ("method", .string "workspace/didChangeWatchedFiles"),
          ("params", .ofFields [("changes", .array items)])] := by
  refine ⟨_, ?_, rfl⟩
  rw [List.forall₂_map_right_iff]
  exact h.imp fun _ _ => tells_of_told

theorem step_filesChanged (e : Editor) {s : Controller} {target : Target} {c : Client}
    (hphase : s.phase = .active target c) (changes : List FileChange) :
    s.step e (.perform (.handle (.filesChanged changes))) = (s, s.reportFiles changes) := by
  simp [step, isReady, hphase, perform, handle]

theorem reportFiles_of_active {s : Controller} {target : Target} {c : Client}
    (hphase : s.phase = .active target c) (hwritable : c.writable = true) (changes : List FileChange) :
    s.reportFiles changes =
      if reportable changes = [] then []
      else [.client s.attempts (.wrote (.watched (reportable changes)))] := by
  have hactive : s.active? = some c := by simp [active?, hphase]
  rw [reportFiles, hactive]
  cases reportable changes with
  | nil => rfl
  | cons told rest => simp [Client.reportChanges, Client.write, hwritable, ofClient]

/-- The patterns are read as they are written, and the URI of a file is read back as the names of its path. Of
the changes of files those that survive, and nothing else, are told to the server, in one message, one by one
and in their order. -/
theorem watched_files_forwarded (e : Editor) {s : Controller} {target : Target} {c : Client}
    (hphase : s.phase = .active target c) (hwritable : c.writable = true) (changes : List FileChange) :
    Glob.parseAll watchedPatterns = .ok watchedGlobs ∧
      (∀ (path : Path) (uri : String), path.fileUri? = some uri →
        ∃ written : String, uri = "file://" ++ written ∧
          Url.decodeBytes (Text.Utf8.bytes written) = (Path.ofParts true path.names).bytes) ∧
      (changes.filter Survives = [] →
        s.step e (.perform (.handle (.filesChanged changes))) = (s, [])) ∧
      (changes.filter Survives ≠ [] →
        ∃ items m, List.Forall₂ Tells (changes.filter Survives) items ∧
          m.toJson =
            .ofFields [("jsonrpc", .string "2.0"),
              ("method", .string "workspace/didChangeWatchedFiles"),
              ("params", .ofFields [("changes", .array items)])] ∧
          s.step e (.perform (.handle (.filesChanged changes))) =
            (s, [.client s.attempts (.wrote m)])) := by
  have htold := told_reportable changes
  rw [step_filesChanged e hphase, reportFiles_of_active hphase hwritable]
  refine ⟨parseAll_watchedPatterns, fun _ _ => Path.decodeBytes_of_fileUri?, fun hnone => ?_,
    fun hsome => ?_⟩
  · rw [hnone, List.forall₂_nil_left_iff] at htold
    rw [if_pos htold]
  · have hsent : reportable changes ≠ [] := by
      intro hnil
      rw [hnil, List.forall₂_nil_right_iff] at htold
      exact hsome htold
    obtain ⟨items, hitems, hjson⟩ := toJson_watched htold
    exact ⟨items, _, hitems, hjson, by rw [if_neg hsent]⟩

/-- A change is reported twice among changes of a file without a pattern, of one with another case, and of one
at a relative path. -/
theorem watched_files_forwarded_session :
    let e : Editor := ⟨{}, ⟨[]⟩, none, 0⟩
    let c : Client := { options := optionsFor e, features }
    let s : Controller := { phase := .active (.port ⟨2403⟩) c, attempts := 1 }
    let source : FileChange := ⟨.ofText "/w/A.jimple", .changed⟩
    let archive : FileChange := ⟨.ofText "/w/.apk", .deleted⟩
    let changes : List FileChange :=
      [source, ⟨.ofText "/w/readme.md", .created⟩, archive, ⟨.ofText "/w/lib.JAR", .created⟩,
        ⟨.ofText "lib.jar", .created⟩, source]
    c.writable = true ∧ changes.filter Survives = [source, archive, source] ∧
      ∃ items m, List.Forall₂ Tells [source, archive, source] items ∧
        m.toJson =
          .ofFields [("jsonrpc", .string "2.0"),
            ("method", .string "workspace/didChangeWatchedFiles"),
            ("params", .ofFields [("changes", .array items)])] ∧
        s.step e (.perform (.handle (.filesChanged changes))) = (s, [.client 1 (.wrote m)]) := by
  intro e c s source archive changes
  have hsurvive : changes.filter Survives = [source, archive, source] := by decide
  obtain ⟨-, -, -, hforwarded⟩ := watched_files_forwarded e (s := s) rfl rfl changes
  rw [hsurvive] at hforwarded
  exact ⟨rfl, hsurvive, hforwarded (by simp)⟩

end ServerLink.Controller

import ServerLink.Document.Watch
import ServerLink.Proofs.Glob.Ending
import ServerLink.Proofs.Path.FileUri

namespace ServerLink.Document

/-- The endings of the paths of the files of whose changes the server is told. -/
def watchedEndings : List String :=
  [".jimple", ".apk", ".jar"]

def Survives (change : FileChange) : Prop :=
  change.path.isAbsolute = true ∧ ∃ w ∈ watchedEndings, Text.Utf8.bytes w <:+ change.path.bytes

instance : DecidablePred Survives := fun change =>
  inferInstanceAs (Decidable (change.path.isAbsolute = true ∧
    ∃ w ∈ watchedEndings, Text.Utf8.bytes w <:+ change.path.bytes))

/-- What the server is told of a change. -/
inductive Told : FileChange → String × ChangeKind → Prop
  | mk {path : Path} {uri : String} (kind : ChangeKind) (h : path.fileUri? = some uri) :
      Told ⟨path, kind⟩ (uri, kind)

theorem watchedPatterns_eq :
    watchedPatterns = (watchedEndings.map String.toList).map Glob.writtenEnding := by
  rfl

theorem watchedGlobs_eq :
    watchedGlobs = (watchedEndings.map String.toList).map Glob.ending := by
  rfl

theorem parseAll_watchedPatterns : Glob.parseAll watchedPatterns = .ok watchedGlobs := by
  rw [watchedPatterns_eq, watchedGlobs_eq]
  exact Glob.parseAll_writtenEndings (by decide)

theorem isWatched_iff {path : Path} :
    isWatched path = true ↔ ∃ w ∈ watchedEndings, Text.Utf8.bytes w <:+ path.bytes := by
  rw [isWatched, watchedGlobs_eq, Glob.anyMatch_endings (by decide)]
  simp only [List.mem_map, exists_exists_and_eq_and, Text.Utf8.bytes]

theorem told_reportable (changes : List FileChange) :
    List.Forall₂ Told (changes.filter Survives) (reportable changes) := by
  induction changes with
  | nil => exact .nil
  | cons change changes ih =>
      obtain ⟨path, kind⟩ := change
      by_cases hwatched : isWatched path = true
      · cases huri : path.fileUri? with
        | none =>
            have hrelative : ¬ Survives ⟨path, kind⟩ := by
              rintro ⟨habsolute, -⟩
              obtain ⟨uri, hsome⟩ := Path.exists_fileUri?_iff.mpr habsolute
              simp [huri] at hsome
            simpa [reportable, hwatched, huri, hrelative] using ih
        | some uri =>
            have hsurvives : Survives ⟨path, kind⟩ :=
              ⟨Path.exists_fileUri?_iff.mp ⟨uri, huri⟩, isWatched_iff.mp hwatched⟩
            simpa [reportable, hwatched, huri, hsurvives] using
              And.intro (Told.mk kind huri) ih
      · have hdropped : ¬ Survives ⟨path, kind⟩ := fun h => hwatched (isWatched_iff.mpr h.2)
        simpa [reportable, hwatched, hdropped] using ih

end ServerLink.Document

import ServerLink.Proofs.Storage.Replace
import ServerLink.Proofs.Toml.Document
import ServerLink.State.Store

namespace ServerLink.State

open ServerLink.Storage ServerLink.Toml

theorem document?_eq_some {text : List Char} {d : Document} (h : document? text = some d) :
    Document.read? text = some d ∧ entriesAllIntegers isNarrow d.contents = true := by
  simpa [document?, Option.filter_eq_some_iff] using h

/-- A document with another version is read again, with all other values as they were. -/
theorem document?_setString {d : Document} (hgood : d.Good)
    (hnarrow : entriesAllIntegers isNarrow d.contents = true) (version : String) :
    ∃ d', document? (d.setString versionKey version).write = some d' ∧
      d'.string? versionKey = some version ∧
      ∀ name, name ≠ versionKey → senses d'.contents name = senses d.contents name := by
  have hset : (d.setString versionKey version).Good :=
    hgood.setString (by decide) (List.all_eq_true.mp rfl) version
  obtain ⟨d', hread, hsenses⟩ := hset.read?_write
  have hsame (name : String) : senses d'.contents name =
      senses ((versionKey, .string version) :: d.contents) name := by
    rw [hsenses, Document.senses_setString]
    rfl
  have hdistinct := Entries.distinct_contents (m := documentManner) (fun _ _ hv => hv.2.distinct)
    (Document.good_of_read? hread).sound.fits
  have hnodup : (d'.contents.map (·.1)).Nodup := by
    rw [Document.contents, Entries.map_contents]
    exact (Document.good_of_read? hread).sound.nodup
  have hnarrow' : entriesAllIntegers isNarrow d'.contents = true :=
    entriesAllIntegers_of_sense (fun e he => hsame e.1 ▸ senses_of_mem hnodup he) hdistinct
      (by simpa [entriesAllIntegers, Content.allIntegers] using hnarrow)
  refine ⟨d', by simp [document?, hread, hnarrow'], ?_, fun name hname => ?_⟩
  · rw [Document.string?_eq_some_iff, hsenses, Document.senses_setString, if_pos rfl]
  · rw [hsenses, Document.senses_setString, if_neg hname.symm]

theorem good_of_documentOf {content : Except FileError (List UInt8)} {d : Option Document}
    (h : documentOf content = .ok d) :
    (d.getD .empty).Good ∧ entriesAllIntegers isNarrow (d.getD .empty).contents = true := by
  unfold documentOf at h
  repeat' split at h
  all_goals cases h
  · exact ⟨Document.good_empty, rfl⟩
  · rename_i hd
    obtain ⟨hread, hnarrow⟩ := document?_eq_some hd
    exact ⟨Document.good_of_read? hread, hnarrow⟩

namespace Store

section

variable {s : Store} {content : Except FileError (List UInt8)} {faults : Tree.Faults} {version : String}
  {t t' : Tree}

theorem recordIn_eq_ok (h : s.recordIn content faults version t = (.ok (), t')) :
    ∃ before, documentOf content = .ok before ∧
      t'.read s.path =
        .ok (Text.Utf8.encode ((before.getD .empty).setString versionKey version).write) := by
  unfold recordIn withVersion at h
  cases hbefore : documentOf content with
  | error e =>
      rw [hbefore] at h
      cases h
  | ok before =>
      rw [hbefore] at h
      dsimp only [bind, Except.bind, pure, Except.pure] at h
      split at h
      · rename_i hreplace
        cases h
        exact ⟨before, rfl, Tree.read_replaceFile hreplace⟩
      · cases h

theorem documents_of_recordIn (h : s.recordIn content faults version t = (.ok (), t')) :
    ∃ before after, documentOf content = .ok before ∧
      documentOf (t'.read s.path) = .ok (some after) ∧ after.string? versionKey = some version ∧
      ∀ name, name ≠ versionKey →
        senses after.contents name = senses (before.getD .empty).contents name := by
  obtain ⟨before, hbefore, hread⟩ := recordIn_eq_ok h
  obtain ⟨hgood, hnarrow⟩ := good_of_documentOf hbefore
  obtain ⟨after, hafter, hversion, hkept⟩ := document?_setString hgood hnarrow version
  have hdocument : documentOf (t'.read s.path) = .ok (some after) := by
    simp only [hread, documentOf, Text.Utf8.decode_encode, hafter]
  exact ⟨before, after, hbefore, hdocument, hversion, hkept⟩

theorem lastVersion_of_documentOf {d : Option Document} (h : documentOf (t.read s.path) = .ok d) :
    s.lastVersion t = .ok (d.bind (·.string? versionKey)) := by
  rw [lastVersion, lastVersionOf, lastVersionIn, h]
  rfl

theorem lastVersion_of_recordIn (h : s.recordIn content faults version t = (.ok (), t')) :
    s.lastVersion t' = .ok (some version) := by
  obtain ⟨_, after, -, hafter, hversion, -⟩ := documents_of_recordIn h
  rw [lastVersion_of_documentOf hafter]
  exact congrArg Except.ok hversion

end

/-- When a version has been recorded the file is a document again in which the version is the recorded one,
and under any other key of its outermost table there is what was there before: the same value, or nothing. -/
theorem recordVersion_keeps (s : Store) (faults : Tree.Faults) (version : String) (t t' : Tree)
    (h : s.recordVersion faults version t = (.ok (), t')) :
    ∃ before after, documentOf (t.read s.path) = .ok before ∧
      documentOf (t'.read s.path) = .ok (some after) ∧ s.lastVersion t' = .ok (some version) ∧
      ∀ name, name ≠ versionKey →
        senses after.contents name = senses (before.getD .empty).contents name := by
  obtain ⟨before, after, hbefore, hafter, -, hkept⟩ := documents_of_recordIn h
  exact ⟨before, after, hbefore, hafter, lastVersion_of_recordIn h, hkept⟩

def atRoot : Store := ⟨Path.ofText "/state.toml"⟩

/-- A tree in which the version is recorded as a number, beside a table. -/
def numbered : Tree :=
  ({} : Tree).put [Text.Utf8.bytes "state.toml"]
    (.file (Text.Utf8.bytes "last_version = 1\n[a]\nb = 2\n"))

theorem recordVersion_keeps_table :
    ∃ t', atRoot.recordVersion Tree.noFaults "1.2\n" numbered = (.ok (), t') ∧
      ∃ before after, documentOf (numbered.read atRoot.path) = .ok before ∧
        documentOf (t'.read atRoot.path) = .ok (some after) ∧
        atRoot.lastVersion t' = .ok (some "1.2\n") ∧
        ∀ name, name ≠ versionKey →
          senses after.contents name = senses (before.getD .empty).contents name := by
  have hok : atRoot.recordVersion Tree.noFaults "1.2\n" numbered =
      (.ok (), (atRoot.recordVersion Tree.noFaults "1.2\n" numbered).2) :=
    Prod.ext (by decide +kernel) rfl
  exact ⟨_, hok, recordVersion_keeps _ _ _ _ _ hok⟩

end Store

end ServerLink.State

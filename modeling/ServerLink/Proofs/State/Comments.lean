import ServerLink.Proofs.State.Record
import ServerLink.Proofs.Toml.Restate

/-!
The comments in the file of state. A version that is recorded leaves all of them in the file but those in the old
version and behind it, and if the entries of the file are in order then nothing in it changes its place.
-/

namespace ServerLink.State.Store

open ServerLink.Storage ServerLink.Toml

section

variable {s : Store} {faults : Tree.Faults} {version : String} {t t' : Tree} {bytes : List UInt8}
  {text : List Char} {d : Document}

theorem read_of_recordVersion (hread : t.read s.path = .ok bytes)
    (htext : Text.Utf8.decode bytes = some text) (hd : Document.read? text = some d)
    (h : s.recordVersion faults version t = (.ok (), t')) :
    t'.read s.path = .ok (Text.Utf8.encode (d.setString versionKey version).write) := by
  obtain ⟨before, hbefore, hwritten⟩ := recordIn_eq_ok h
  rw [Store.read, hread] at hbefore
  simp only [documentOf, htext] at hbefore
  split at hbefore
  · cases hbefore
  · rename_i d' hd'
    cases hbefore
    obtain rfl : d' = d := Option.some.inj ((document?_eq_some hd').1.symm.trans hd)
    exact hwritten

end

/-- A version that is recorded in a document, where no table stands under its key, leaves in the file all
comments but those in the old version and behind it. The rest is as the document is written otherwise, and in a
text in order nothing changes its place: so the comments stay what they were if and only if the old version had
none. -/
theorem recordVersion_restates (s : Store) (faults : Tree.Faults) (version : String) (t t' : Tree)
    (bytes : List UInt8) (text : List Char) (d : Document) (hread : t.read s.path = .ok bytes)
    (htext : Text.Utf8.decode bytes = some text) (hd : Document.read? text = some d)
    (hplain : d.isPlain versionKey = true)
    (h : s.recordVersion faults version t = (.ok (), t')) :
    ∃ text', t'.read s.path = .ok (Text.Utf8.encode text') ∧
      (comments text).Perm (d.remarks versionKey ++ comments text') ∧
      d.Restated versionKey version d.write text' ∧
      (Tidy text → d.Restated versionKey version text text' ∧
        (comments text' = comments text ↔ d.remarks versionKey = [])) := by
  have hrestated : d.Restated versionKey version d.write (d.setString versionKey version).write :=
    Document.restated_setString hd (by decide) (List.all_eq_true.mp rfl) hplain version
  obtain ⟨a, b, hold, hnew⟩ := hrestated.comments
  refine ⟨_, read_of_recordVersion hread htext hd h, ?_, hrestated, fun htidy => ?_⟩
  · have hperm := (Document.comments_perm hd).2
    have hswap : (a ++ d.remarks versionKey).Perm (d.remarks versionKey ++ a) := List.perm_append_comm
    rw [hold] at hperm
    rw [hnew, ← List.append_assoc]
    exact hperm.trans (hswap.append_right b)
  · have hcomments := Document.comments_of_tidy hd htidy
    refine ⟨⟨hcomments ▸ hrestated.comments, Document.gists_of_tidy hd htidy ▸ hrestated.gists⟩, ?_⟩
    rw [hcomments, hold, hnew]
    constructor
    · intro heq
      have hlength := congrArg List.length heq
      simp only [List.length_append] at hlength
      exact List.eq_nil_of_length_eq_zero (by omega)
    · intro hnil
      rw [hnil, List.append_nil]

def holding (text : String) : Tree :=
  ({} : Tree).put [Text.Utf8.bytes "state.toml"] (.file (Text.Utf8.bytes text))

/-- A text in order with comments in all places. -/
def remarked : String :=
  "# head\na.x = [ # in\n 1 ] # behind\na.y = 2\nlast_version = \"0.3\" # old\n[t] # table\n# last"

theorem read?_getD {text : List Char} (h : (Document.read? text).isSome = true) :
    Document.read? text = some ((Document.read? text).getD .empty) :=
  (Option.getD_of_ne_none (Option.isSome_iff_ne_none.mp h) .empty).symm

theorem recordVersion_restates_remarked :
    ∃ t' d text', atRoot.recordVersion Tree.noFaults "0.4" (holding remarked) = (.ok (), t') ∧
      Document.read? remarked.toList = some d ∧ d.remarks versionKey = ["# old".toList] ∧
      t'.read atRoot.path = .ok (Text.Utf8.encode text') ∧
      d.Restated versionKey "0.4" remarked.toList text' ∧ comments text' ≠ comments remarked.toList := by
  have hok : atRoot.recordVersion Tree.noFaults "0.4" (holding remarked) =
      (.ok (), (atRoot.recordVersion Tree.noFaults "0.4" (holding remarked)).2) :=
    Prod.ext (by decide +kernel) rfl
  have hd := read?_getD (by decide +kernel : (Document.read? remarked.toList).isSome = true)
  have hremarks : ((Document.read? remarked.toList).getD .empty).remarks versionKey = ["# old".toList] := by
    decide +kernel
  obtain ⟨text', hread, -, -, htidy⟩ := recordVersion_restates atRoot Tree.noFaults "0.4" (holding remarked) _
    (Text.Utf8.bytes remarked) remarked.toList _ (by decide +kernel) (by decide +kernel) hd (by decide +kernel) hok
  obtain ⟨hrestated, hcomments⟩ := htidy (by decide +kernel)
  refine ⟨_, _, text', hok, hd, hremarks, hread, hrestated, fun hsame => ?_⟩
  exact List.cons_ne_nil _ _ (hremarks.symm.trans (hcomments.mp hsame))

/-- A comment behind the old version is not in the file any more. -/
theorem remark_behind_version_is_lost :
    ¬ ∀ (s : Store) (faults : Tree.Faults) (version : String) (t t' : Tree) (text text' : List Char)
      (d : Document), t.read s.path = .ok (Text.Utf8.encode text) → Document.read? text = some d →
      d.isPlain versionKey = true → s.recordVersion faults version t = (.ok (), t') →
      t'.read s.path = .ok (Text.Utf8.encode text') → comments text' = comments text := by
  intro hclaim
  let t := holding "last_version = \"0.3.0\" # mine\n"
  have hok : atRoot.recordVersion Tree.noFaults "0.4.0" t =
      (.ok (), (atRoot.recordVersion Tree.noFaults "0.4.0" t).2) := Prod.ext (by decide +kernel) rfl
  have hsame := hclaim atRoot Tree.noFaults "0.4.0" t _ "last_version = \"0.3.0\" # mine\n".toList
    "last_version = \"0.4.0\"\n".toList _ (by decide +kernel) (read?_getD (by decide +kernel))
    (by decide +kernel) hok (by decide +kernel)
  exact absurd hsame (by decide +kernel)

/-- Entries with keys in common are put together where they stand apart, and their comments with them. -/
example : (atRoot.recordVersion Tree.noFaults "0.4"
    (holding "a.x = 1 # x\nb = 2 # b\na.y = 3 # y\n")).2.read atRoot.path =
      .ok (Text.Utf8.bytes "a.x = 1 # x\na.y = 3 # y\nb = 2 # b\nlast_version = \"0.4\"\n") := by
  decide +kernel

end ServerLink.State.Store

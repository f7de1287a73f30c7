import ServerLink.Proofs.Decimal.Natural
import ServerLink.Proofs.Text.Word
import ServerLink.Terminal.Command

namespace ServerLink

theorem Decimal.Denotes.isWord {s : List Char} {n : Nat} (h : Denotes s n) : Text.IsWord s := by
  rcases h with ⟨hne, hdigits⟩ | ⟨hne, hdigits⟩
  · exact ⟨hne, fun c hc => Text.not_isBlank_of_isDigit (hdigits c hc)⟩
  · refine ⟨List.cons_ne_nil _ _, List.forall_mem_cons.mpr ⟨rfl, ?_⟩⟩
    intro c hc
    exact Text.not_isBlank_of_isDigit (hdigits c hc)

theorem Document.ChangeKind.ofName?_eq_some_iff {name : String} {kind : Document.ChangeKind} :
    ofName? name = some kind ↔ kind.name = name := by
  constructor
  · intro h
    simpa using List.find?_some h
  · rintro rfl
    cases kind <;> rfl

namespace Terminal

theorem DocumentAction.ofWord?_eq_some_iff {word : String} {action : DocumentAction} :
    ofWord? word = some action ↔ action.word = word := by
  constructor
  · intro h
    simpa using List.find?_some h
  · rintro rfl
    cases action <;> rfl

namespace Command

open Text

def keywords : List (String × Command) :=
  [("quit", .quit), ("exit", .quit), ("reload", .reload), ("close", .closePanel), ("help", .help)]

def postWords : List String := ["action", "configuration"]

def commandWords : List String :=
  keywords.map Prod.fst ++ postWords ++ ["doc", "file"]

/-- A path as it is typed. -/
structure IsTypable (path : String) : Prop where
  ne_empty : path ≠ ""
  trimmed : IsTrimmed path.toList

/-- The parts in which a command is spelled. -/
inductive Spelling : Command → List String → Prop where
  | choose {word : String} {n : Nat} (hword : Decimal.Denotes word.toList n) (hn : n < numberBound) :
      Spelling (.choose n) [word]
  | keyword {word : String} {c : Command} (hword : (word, c) ∈ keywords) : Spelling c [word]
  | post {word text : String} (hword : word ∈ postWords) (htext : IsTrimmed text.toList) :
      Spelling (.post ⟨word, text⟩) [word, text]
  | document (action : DocumentAction) {path : String} (hpath : IsTypable path) :
      Spelling (.document action (Path.ofText path)) ["doc", action.word, path]
  | file (kind : Document.ChangeKind) {path : String} (hpath : IsTypable path) :
      Spelling (.file kind (Path.ofText path)) ["file", kind.name, path]

/-- A line is typed in parts, with blanks between them and any blanks around them. -/
def Typed (parts : List String) (line : String) : Prop :=
  Spaced (parts.map String.toList) line.toList

def wordsOf (line : String) : List String :=
  (words line.toList).map String.ofList

/-- The words of a line that is without a meaning: the first of them is neither a word of a command nor a number;
or it begins a report, and an operation and a path do not follow it. -/
inductive Meaningless : List String → Prop where
  | word {word : String} {more : List String} (hword : word ∉ commandWords)
      (hnumber : ∀ n, Decimal.Denotes word.toList n → numberBound ≤ n) : Meaningless (word :: more)
  | unfinished {word : String} {more : List String} (hword : word = "doc" ∨ word = "file")
      (hmore : more.length < 2) : Meaningless (word :: more)
  | document {operation : String} {more : List String}
      (hoperation : ∀ action : DocumentAction, action.word ≠ operation) :
      Meaningless ("doc" :: operation :: more)
  | file {operation : String} {more : List String}
      (hoperation : ∀ kind : Document.ChangeKind, kind.name ≠ operation) :
      Meaningless ("file" :: operation :: more)

theorem commandWord_cases {word : String} (h : word ∈ commandWords) :
    (∃ c, (word, c) ∈ keywords) ∨ word ∈ postWords ∨ word = "doc" ∨ word = "file" := by
  simpa [commandWords, or_assoc] using h

theorem readBelow?_of_commandWord :
    ∀ word ∈ commandWords, Decimal.readBelow? numberBound word.toList = none := by
  decide

theorem Spelling.isWord {c : Command} {word : String} {parts : List String}
    (h : Spelling c (word :: parts)) : IsWord word.toList := by
  have hcommand : ∀ w ∈ commandWords, IsWord w.toList := by decide
  rcases h with ⟨hdenotes, -⟩ | hkeyword | ⟨hpost, -⟩ | - | -
  · exact hdenotes.isWord
  · apply hcommand
    simp only [commandWords, List.mem_append]
    exact .inl (.inl (List.mem_map_of_mem hkeyword))
  · apply hcommand
    simp only [commandWords, List.mem_append]
    exact .inl (.inr hpost)
  · decide
  · decide

section

variable {s w rest : List Char} {line word : String}

theorem splitBlank?_of_word (hw : IsWord w) : splitBlank? w = none := by
  have hblank := hw.not_blank
  clear hw
  induction w with
  | nil => rfl
  | cons c w ih =>
      obtain ⟨hc, hw⟩ := List.forall_mem_cons.mp hblank
      simp [splitBlank?, hc, ih hw]

theorem splitBlank?_append (hw : IsWord w) {c : Char} (hc : isBlank c = true) (s : List Char) :
    splitBlank? (w ++ c :: s) = some (w, s) := by
  have hblank := hw.not_blank
  clear hw
  induction w with
  | nil => simp [splitBlank?, hc]
  | cons d w ih =>
      obtain ⟨hd, hw⟩ := List.forall_mem_cons.mp hblank
      simp [splitBlank?, hd, ih hw]

theorem splitBlank?_of_headed (h : Headed s w rest) :
    splitBlank? (trim s) = if trim rest = [] then none else some (w, trimEnd rest.tail) := by
  rw [h.trim_eq]
  rcases rest with _ | ⟨c, rest⟩
  · simp [trim, splitBlank?_of_word h.word]
  · have hc : isBlank c = true := h.apart c rfl
    rw [trimEnd_cons_of_blank hc, trim_cons_of_blank hc]
    split
    · rw [List.append_nil, splitBlank?_of_word h.word]
    · rw [splitBlank?_append h.word hc, List.tail_cons]

theorem splitWord_of_headed (h : Headed s w rest) : splitWord (trim s) = (w, trimEnd rest.tail) := by
  rw [splitWord, splitBlank?_of_headed h]
  split
  · rename_i hblank
    rw [trim_eq_nil_iff] at hblank
    rw [h.trim_eq, trimEnd_of_blank hblank, trimEnd_of_blank fun c hc => hblank c (List.mem_of_mem_tail hc),
      List.append_nil]
    rfl
  · rfl

theorem wordsOf_of_headed (h : Headed line.toList word.toList rest) :
    wordsOf line = word :: (words rest).map String.ofList := by
  rw [wordsOf, h.words_eq, List.map_cons, String.ofList_toList]

theorem blank_or_headed_by (s : List Char) : (∀ c ∈ s, isBlank c = true) ∨
    ∃ (word : String) (rest : List Char), Headed s word.toList rest := by
  rcases blank_or_headed s with hblank | ⟨w, rest, h⟩
  · exact .inl hblank
  · refine .inr ⟨String.ofList w, rest, ?_⟩
    rwa [String.toList_ofList]

end

/-- What makes the report of a document of a path, if the word in front of it says what happened. -/
def documentReport? (operation : String) : Option (Path → Command) :=
  (DocumentAction.ofWord? operation).map .document

def fileReport? (operation : String) : Option (Path → Command) :=
  (Document.ChangeKind.ofName? operation).map .file

theorem documentReport?_word (action : DocumentAction) :
    documentReport? action.word = some (.document action) := by
  rw [documentReport?, DocumentAction.ofWord?_eq_some_iff.mpr rfl]
  rfl

theorem fileReport?_name (kind : Document.ChangeKind) : fileReport? kind.name = some (.file kind) := by
  rw [fileReport?, Document.ChangeKind.ofName?_eq_some_iff.mpr rfl]
  rfl

theorem documentReport?_eq_none_iff {operation : String} :
    documentReport? operation = none ↔ ∀ action : DocumentAction, action.word ≠ operation := by
  rw [documentReport?, Option.map_eq_none_iff, Option.eq_none_iff_forall_ne_some]
  simp only [ne_eq, DocumentAction.ofWord?_eq_some_iff]

theorem fileReport?_eq_none_iff {operation : String} :
    fileReport? operation = none ↔ ∀ kind : Document.ChangeKind, kind.name ≠ operation := by
  rw [fileReport?, Option.map_eq_none_iff, Option.eq_none_iff_forall_ne_some]
  simp only [ne_eq, Document.ChangeKind.ofName?_eq_some_iff]

section

variable {s rest : List Char} {operation path : String} {make : String → Option (Path → Command)}

theorem report?_of_headed (h : Headed s operation.toList rest) :
    report? s make = if trim rest = [] then none
      else (make operation).map (· (Path.ofText (String.ofList (trim rest)))) := by
  by_cases hrest : trim rest = []
  · have hsplit : splitBlank? (trim s) = none := by rw [splitBlank?_of_headed h, if_pos hrest]
    simp [report?, hsplit, hrest]
  · have hsplit : splitBlank? (trim s) = some (operation.toList, trimEnd rest.tail) := by
      rw [splitBlank?_of_headed h, if_neg hrest]
    simp [report?, hsplit, h.trim_tail, hrest]

theorem report?_of_spaced (hoperation : IsWord operation.toList) (hpath : IsTypable path)
    (h : Spaced [operation.toList, path.toList] s) :
    report? s make = (make operation).map (· (Path.ofText path)) := by
  obtain ⟨rest, hhead, hrest⟩ := h.headed hoperation
  have htrim : trim rest = path.toList := hrest.trim_eq hpath.trimmed
  have hne : path.toList ≠ [] := by simpa using hpath.ne_empty
  rw [report?_of_headed hhead, htrim, if_neg hne, String.ofList_toList]

/-- Behind the first word of a report stand less than two words, or an operation and a path. -/
theorem report?_cases (s : List Char) (make : String → Option (Path → Command)) :
    ((words s).length < 2 ∧ report? s make = none) ∨
    ∃ (operation path : String) (more : List (List Char)), words s = operation.toList :: more ∧ more ≠ [] ∧
      IsTypable path ∧ Spaced [operation.toList, path.toList] s ∧
      report? s make = (make operation).map (· (Path.ofText path)) := by
  rcases blank_or_headed_by s with hblank | ⟨operation, rest, h⟩
  · left
    refine ⟨by simp [words_of_blank hblank], ?_⟩
    rw [report?, trim_of_blank hblank]
    rfl
  · by_cases hrest : trim rest = []
    · left
      refine ⟨by simp [h.words_eq, words_eq_nil_iff.mpr hrest], ?_⟩
      rw [report?_of_headed h, if_pos hrest]
    · right
      obtain ⟨path, hpath⟩ : ∃ path : String, trim rest = path.toList :=
        ⟨String.ofList (trim rest), String.toList_ofList.symm⟩
      have htypable : IsTypable path := by
        refine ⟨?_, hpath ▸ isTrimmed_trim rest⟩
        rintro rfl
        exact hrest hpath
      have hspaced : Spaced [operation.toList, path.toList] s := h.spaced (hpath ▸ spaced_trim rest)
      refine ⟨operation, path, words rest, h.words_eq, ?_, htypable, hspaced, ?_⟩
      · rwa [ne_eq, words_eq_nil_iff]
      · exact report?_of_spaced h.word htypable hspaced

theorem report?_of_unfinished (h : (words s).length < 2) : report? s make = none := by
  rcases report?_cases s make with ⟨-, hnone⟩ | ⟨operation, path, more, hwords, hmore, -⟩
  · exact hnone
  · have hlength := List.length_pos_iff.mpr hmore
    rw [hwords, List.length_cons] at h
    omega

theorem report?_of_unmade (hmake : make operation = none) {more : List String}
    (h : (words s).map String.ofList = operation :: more) : report? s make = none := by
  rcases report?_cases s make with ⟨-, hnone⟩ | ⟨first, path, others, hwords, -, -, -, hreport⟩
  · exact hnone
  · rw [hwords, List.map_cons, String.ofList_toList] at h
    obtain ⟨rfl, -⟩ := List.cons.inj h
    rw [hreport, hmake]
    rfl

end

section

variable {line word : String} {rest : List Char}

theorem parse_of_blank (h : ∀ c ∈ line.toList, isBlank c = true) : parse line = .blank := by
  rw [parse, trim_of_blank h]
  rfl

theorem parse_of_keyword {c : Command} (hword : (word, c) ∈ keywords)
    (h : Headed line.toList word.toList rest) : parse line = c := by
  simp only [keywords, List.mem_cons, Prod.mk.injEq, List.not_mem_nil, or_false] at hword
  rcases hword with ⟨rfl, rfl⟩ | ⟨rfl, rfl⟩ | ⟨rfl, rfl⟩ | ⟨rfl, rfl⟩ | ⟨rfl, rfl⟩ <;>
    simp [parse, ofTrimmed, splitWord_of_headed h]

theorem parse_of_post (hword : word ∈ postWords) (h : Headed line.toList word.toList rest) :
    parse line = .post ⟨word, String.ofList (trim rest)⟩ := by
  simp only [postWords, List.mem_cons, List.not_mem_nil, or_false] at hword
  rcases hword with rfl | rfl <;> simp [parse, ofTrimmed, splitWord_of_headed h, h.trim_tail]

theorem parse_of_doc (h : Headed line.toList "doc".toList rest) :
    parse line = (report? rest documentReport?).getD (.unknown (String.ofList (trim line.toList))) := by
  simp only [parse, ofTrimmed, splitWord_of_headed h, String.ofList_toList, report?, h.trim_tail]
  rfl

theorem parse_of_file (h : Headed line.toList "file".toList rest) :
    parse line = (report? rest fileReport?).getD (.unknown (String.ofList (trim line.toList))) := by
  simp only [parse, ofTrimmed, splitWord_of_headed h, String.ofList_toList, report?, h.trim_tail]
  rfl

theorem parse_of_other (hword : word ∉ commandWords) (h : Headed line.toList word.toList rest) :
    parse line = match Decimal.readBelow? numberBound word.toList with
      | some n => .choose n
      | none => .unknown (String.ofList (trim line.toList)) := by
  have hne : word ≠ "" := by
    rintro rfl
    exact h.word.ne_nil rfl
  simp only [parse, ofTrimmed, splitWord_of_headed h, String.ofList_toList]
  split
  case h_11 => rfl
  all_goals simp [commandWords, keywords, postWords] at hword hne

/-- What a line stands for. Behind a command of one word anything may follow. -/
inductive Given (line : String) : Command → Prop where
  | blank (h : wordsOf line = []) : Given line .blank
  | spelled {c : Command} {word : String} {parts : List String} {rest : List Char}
      (h : Spelling c (word :: parts)) (hline : Headed line.toList word.toList rest)
      (hparts : parts = [] ∨ Spaced (parts.map String.toList) rest) : Given line c
  | unknown (h : Meaningless (wordsOf line)) : Given line (.unknown (String.ofList (trim line.toList)))

theorem given_of_report {make : String → Option (Path → Command)} (hword : word = "doc" ∨ word = "file")
    (h : Headed line.toList word.toList rest)
    (hmade : ∀ operation path meaning, make operation = some meaning → IsTypable path →
      Spelling (meaning (Path.ofText path)) [word, operation, path])
    (hunmade : ∀ operation more, make operation = none → Meaningless (word :: operation :: more)) :
    Given line ((report? rest make).getD (.unknown (String.ofList (trim line.toList)))) := by
  rcases report?_cases rest make with
    ⟨hfew, hnone⟩ | ⟨operation, path, more, hwords, -, hpath, hspaced, hreport⟩
  · rw [hnone]
    apply Given.unknown
    rw [wordsOf_of_headed h]
    exact .unfinished hword (by simpa using hfew)
  · rw [hreport]
    rcases hmake : make operation with _ | meaning
    · apply Given.unknown
      rw [wordsOf_of_headed h, hwords, List.map_cons, String.ofList_toList]
      exact hunmade operation _ hmake
    · exact .spelled (hmade operation path meaning hmake hpath) h (.inr hspaced)

theorem given_of_doc (h : Headed line.toList "doc".toList rest) : Given line (parse line) := by
  rw [parse_of_doc h]
  apply given_of_report (.inl rfl) h
  · intro operation path meaning hmake hpath
    obtain ⟨action, hword, rfl⟩ := Option.map_eq_some_iff.mp hmake
    obtain rfl := DocumentAction.ofWord?_eq_some_iff.mp hword
    exact .document action hpath
  · intro operation more hnone
    exact .document (documentReport?_eq_none_iff.mp hnone)

theorem given_of_file (h : Headed line.toList "file".toList rest) : Given line (parse line) := by
  rw [parse_of_file h]
  apply given_of_report (.inr rfl) h
  · intro operation path meaning hmake hpath
    obtain ⟨kind, hname, rfl⟩ := Option.map_eq_some_iff.mp hmake
    obtain rfl := Document.ChangeKind.ofName?_eq_some_iff.mp hname
    exact .file kind hpath
  · intro operation more hnone
    exact .file (fileReport?_eq_none_iff.mp hnone)

theorem given_of_post (hword : word ∈ postWords) (h : Headed line.toList word.toList rest) :
    Given line (parse line) := by
  rw [parse_of_post hword h]
  have htext : IsTrimmed (String.ofList (trim rest)).toList := by
    rw [String.toList_ofList]
    exact isTrimmed_trim rest
  refine .spelled (.post hword htext) h (.inr ?_)
  rw [List.map_singleton, String.toList_ofList]
  exact spaced_trim rest

theorem given_of_other (hword : word ∉ commandWords) (h : Headed line.toList word.toList rest) :
    Given line (parse line) := by
  rw [parse_of_other hword h]
  rcases hread : Decimal.readBelow? numberBound word.toList with _ | n
  · apply Given.unknown
    rw [wordsOf_of_headed h]
    exact .word hword (Decimal.readBelow?_eq_none_iff.mp hread)
  · obtain ⟨hdenotes, hn⟩ := Decimal.readBelow?_eq_some_iff.mp hread
    exact .spelled (.choose hdenotes hn) h (.inl rfl)

theorem given_parse (line : String) : Given line (parse line) := by
  rcases blank_or_headed_by line.toList with hblank | ⟨word, rest, h⟩
  · rw [parse_of_blank hblank]
    apply Given.blank
    rw [wordsOf, words_of_blank hblank, List.map_nil]
  · by_cases hcommand : word ∈ commandWords
    · rcases commandWord_cases hcommand with ⟨c, hkeyword⟩ | hpost | rfl | rfl
      · rw [parse_of_keyword hkeyword h]
        exact .spelled (.keyword hkeyword) h (.inl rfl)
      · exact given_of_post hpost h
      · exact given_of_doc h
      · exact given_of_file h
    · exact given_of_other hcommand h

theorem parse_of_spelling {c : Command} {parts : List String} (h : Spelling c (word :: parts))
    (hline : Headed line.toList word.toList rest)
    (hparts : parts = [] ∨ Spaced (parts.map String.toList) rest) : parse line = c := by
  rcases h with ⟨hdenotes, hn⟩ | hkeyword | ⟨hpost, htext⟩ | ⟨action, hpath⟩ | ⟨kind, hpath⟩
  · have hread := Decimal.readBelow?_eq_some_iff.mpr ⟨hdenotes, hn⟩
    have hother : word ∉ commandWords := by
      intro hcommand
      rw [readBelow?_of_commandWord word hcommand] at hread
      cases hread
    rw [parse_of_other hother hline, hread]
  · exact parse_of_keyword hkeyword hline
  · have hspaced := hparts.resolve_left (List.cons_ne_nil _ _)
    rw [parse_of_post hpost hline, hspaced.trim_eq htext, String.ofList_toList]
  · have hspaced := hparts.resolve_left (List.cons_ne_nil _ _)
    have hword : IsWord action.word.toList := by cases action <;> decide
    rw [parse_of_doc hline, report?_of_spaced hword hpath hspaced, documentReport?_word]
    rfl
  · have hspaced := hparts.resolve_left (List.cons_ne_nil _ _)
    have hname : IsWord kind.name.toList := by cases kind <;> decide
    rw [parse_of_file hline, report?_of_spaced hname hpath hspaced, fileReport?_name]
    rfl

theorem parse_of_meaningless (h : Meaningless (wordsOf line)) :
    parse line = .unknown (String.ofList (trim line.toList)) := by
  rcases blank_or_headed_by line.toList with hblank | ⟨word, rest, hline⟩
  · rw [wordsOf, words_of_blank hblank] at h
    cases h
  · rw [wordsOf_of_headed hline] at h
    generalize hmore : (words rest).map String.ofList = more at h
    rcases h with ⟨hword, hnumber⟩ | ⟨hword, hfew⟩ | hoperation | hoperation
    · rw [parse_of_other hword hline, Decimal.readBelow?_eq_none_iff.mpr hnumber]
    · rw [← hmore, List.length_map] at hfew
      rcases hword with rfl | rfl
      · rw [parse_of_doc hline, report?_of_unfinished hfew]
        rfl
      · rw [parse_of_file hline, report?_of_unfinished hfew]
        rfl
    · rw [parse_of_doc hline, report?_of_unmade (documentReport?_eq_none_iff.mpr hoperation) hmore]
      rfl
    · rw [parse_of_file hline, report?_of_unmade (fileReport?_eq_none_iff.mpr hoperation) hmore]
      rfl

theorem parse_eq_iff {c : Command} : parse line = c ↔ Given line c := by
  constructor
  · rintro rfl
    exact given_parse line
  · rintro (hblank | ⟨h, hline, hparts⟩ | hmeaningless)
    · rw [wordsOf, List.map_eq_nil_iff, words_eq_nil_iff, trim_eq_nil_iff] at hblank
      exact parse_of_blank hblank
    · exact parse_of_spelling h hline hparts
    · exact parse_of_meaningless hmeaningless

theorem parse_of_typed {c : Command} {parts : List String} (h : Spelling c parts)
    (hline : Typed parts line) : parse line = c := by
  rcases parts with _ | ⟨word, parts⟩
  · cases h
  · obtain ⟨rest, hhead, hrest⟩ := hline.headed h.isWord
    exact parse_of_spelling h hhead (.inr hrest)

theorem parse_eq_document_iff {action : DocumentAction} {p : Path} :
    parse line = .document action p ↔
      ∃ path, IsTypable path ∧ p = Path.ofText path ∧ Typed ["doc", action.word, path] line := by
  constructor
  · intro h
    rcases parse_eq_iff.mp h with _ | ⟨hspelling, hhead, hparts⟩
    rcases hspelling with _ | hkeyword | _ | ⟨_, hpath⟩
    · simp [keywords] at hkeyword
    · exact ⟨_, hpath, rfl, hhead.spaced (hparts.resolve_left (List.cons_ne_nil _ _))⟩
  · rintro ⟨path, hpath, rfl, hline⟩
    exact parse_of_typed (.document action hpath) hline

theorem parse_eq_file_iff {kind : Document.ChangeKind} {p : Path} : parse line = .file kind p ↔
    ∃ path, IsTypable path ∧ p = Path.ofText path ∧ Typed ["file", kind.name, path] line := by
  constructor
  · intro h
    rcases parse_eq_iff.mp h with _ | ⟨hspelling, hhead, hparts⟩
    rcases hspelling with _ | hkeyword | _ | _ | ⟨_, hpath⟩
    · simp [keywords] at hkeyword
    · exact ⟨_, hpath, rfl, hhead.spaced (hparts.resolve_left (List.cons_ne_nil _ _))⟩
  · rintro ⟨path, hpath, rfl, hline⟩
    exact parse_of_typed (.file kind hpath) hline

theorem parse_eq_choose_iff {n : Nat} : parse line = .choose n ↔
    ∃ word, (wordsOf line).head? = some word ∧ Decimal.Denotes word.toList n ∧ n < numberBound := by
  constructor
  · intro h
    rcases parse_eq_iff.mp h with _ | ⟨hspelling, hhead, -⟩
    rcases hspelling with ⟨hdenotes, hn⟩ | hkeyword
    · exact ⟨_, by rw [wordsOf_of_headed hhead, List.head?_cons], hdenotes, hn⟩
    · simp [keywords] at hkeyword
  · rintro ⟨word, hfirst, hdenotes, hn⟩
    rcases blank_or_headed_by line.toList with hblank | ⟨first, rest, hhead⟩
    · rw [wordsOf, words_of_blank hblank] at hfirst
      cases hfirst
    · rw [wordsOf_of_headed hhead, List.head?_cons] at hfirst
      cases hfirst
      exact parse_of_spelling (.choose hdenotes hn) hhead (.inl rfl)

theorem parse_eq_unknown_iff {text : String} : parse line = .unknown text ↔
    text = String.ofList (trim line.toList) ∧ Meaningless (wordsOf line) := by
  constructor
  · intro h
    rcases parse_eq_iff.mp h with _ | ⟨hspelling, -, -⟩ | hmeaningless
    · rcases hspelling with _ | hkeyword
      simp [keywords] at hkeyword
    · exact ⟨rfl, hmeaningless⟩
  · rintro ⟨rfl, hmeaningless⟩
    exact parse_of_meaningless hmeaningless

theorem spelling_digits {n : Nat} (hn : n < numberBound) :
    Spelling (.choose n) [String.ofList (Decimal.digits n)] := by
  refine .choose ?_ hn
  rw [String.toList_ofList]
  exact Decimal.denotes_digits n

end

/-- A command is read from every line that is typed in the parts in which it is spelled, where a number may be
spelled by its digits. Only lines typed so are reports of documents and of files. A line is a choice where its first
word is a numeral, a plus sign in front or none, of a number with 64 bits, and it is unknown, and kept without the
blanks at its ends, where its words are without a meaning. -/
theorem lines_are_read_as_spelled :
    (∀ (c : Command) (parts : List String) (line : String),
      Spelling c parts → Typed parts line → parse line = c) ∧
    (∀ n < numberBound, Spelling (.choose n) [String.ofList (Decimal.digits n)]) ∧
    (∀ (line : String) (action : DocumentAction) (p : Path), parse line = .document action p ↔
      ∃ path, IsTypable path ∧ p = Path.ofText path ∧ Typed ["doc", action.word, path] line) ∧
    (∀ (line : String) (kind : Document.ChangeKind) (p : Path), parse line = .file kind p ↔
      ∃ path, IsTypable path ∧ p = Path.ofText path ∧ Typed ["file", kind.name, path] line) ∧
    (∀ (line : String) (n : Nat), parse line = .choose n ↔
      ∃ word, (wordsOf line).head? = some word ∧ Decimal.Denotes word.toList n ∧ n < numberBound) ∧
    ∀ line text : String, parse line = .unknown text ↔
      text = String.ofList (trim line.toList) ∧ Meaningless (wordsOf line) :=
  ⟨fun _ _ _ => parse_of_typed, fun _ => spelling_digits, fun _ _ _ => parse_eq_document_iff,
    fun _ _ _ => parse_eq_file_iff, fun _ _ => parse_eq_choose_iff, fun _ _ => parse_eq_unknown_iff⟩

theorem lines_are_read_as_spelled_padded :
    parse "\u3000doc\tsave \u2003My  Files/B.jimple\n" = .document .saves (Path.ofText "My  Files/B.jimple") ∧
      parse " +07 x" = .choose 7 ∧
      parse " doc  rename A.jimple " = .unknown "doc  rename A.jimple" := by
  obtain ⟨hread, -, -, -, hchoice, hunknown⟩ := lines_are_read_as_spelled
  refine ⟨hread _ ["doc", "save", "My  Files/B.jimple"] _ ?_ ?_, (hchoice _ _).mpr ?_, (hunknown _ _).mpr ?_⟩
  · refine .document .saves ⟨by decide, ?_, ?_⟩
    · rintro c ⟨⟩
      rfl
    · rintro c ⟨⟩
      rfl
  · have hline : "\u3000doc\tsave \u2003My  Files/B.jimple\n".toList = ['\u3000'] ++ ("doc".toList ++
        (['\t'] ++ ("save".toList ++ ([' ', '\u2003'] ++ ("My  Files/B.jimple".toList ++ ['\n']))))) := by
      decide +kernel
    have hspace : Spaced ["My  Files/B.jimple".toList]
        ([' ', '\u2003'] ++ ("My  Files/B.jimple".toList ++ ['\n'])) :=
      .cons (List.all_eq_true.mp rfl) (by rintro c ⟨⟩; rfl) (.nil (List.all_eq_true.mp rfl))
    have htab : Spaced ["save".toList, "My  Files/B.jimple".toList]
        (['\t'] ++ ("save".toList ++ ([' ', '\u2003'] ++ ("My  Files/B.jimple".toList ++ ['\n'])))) :=
      .cons (List.all_eq_true.mp rfl) (by rintro c ⟨⟩; rfl) hspace
    rw [Typed, hline]
    exact .cons (List.all_eq_true.mp rfl) (by rintro c ⟨⟩; rfl) htab
  · exact ⟨"+07", by decide, .signed (by decide) (List.all_eq_true.mp rfl), by decide⟩
  · have hwords : wordsOf " doc  rename A.jimple " = ["doc", "rename", "A.jimple"] := by decide
    rw [hwords]
    refine ⟨by decide +kernel, .document ?_⟩
    intro action
    cases action <;> decide

end Command

end Terminal

end ServerLink

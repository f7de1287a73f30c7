import ServerLink.Document.Opened
import ServerLink.Document.Selector
import ServerLink.Proofs.Assoc

namespace ServerLink.Document

/-- What a server knows of the documents: the version and the text of each one that is open. -/
def Mirror : Type :=
  String → Option (Int32 × String)

namespace Mirror

def set (m : Mirror) (uri : String) (version : Int32) (text : String) : Mirror :=
  fun other => if other = uri then some (version, text) else m other

def remove (m : Mirror) (uri : String) : Mirror :=
  fun other => if other = uri then none else m other

def after (m : Mirror) : Notice → Mirror
  | .opened uri _ version text => m.set uri version text
  | .changed uri version text => m.set uri version text
  | .saved _ => m
  | .closed uri => m.remove uri

/-- The mirror of a server that has been given notices. -/
def replay (notices : List Notice) : Mirror :=
  notices.foldl after fun _ => none

theorem replay_concat (notices : List Notice) (n : Notice) :
    replay (notices ++ [n]) = (replay notices).after n :=
  List.foldl_append

end Mirror

/-- Whether a notice fits what the server knows: a document is opened at the version 1, a change brings the
version above the last one, and only what is open is changed, saved or closed. -/
def Notice.Fits (m : Mirror) : Notice → Prop
  | .opened _ _ version _ => version = 1
  | .changed uri version _ => ∃ last text, m uri = some (last, text) ∧ version.toInt = last.toInt + 1
  | .saved uri => (m uri).isSome = true
  | .closed uri => (m uri).isSome = true

def lastVersion : Nat :=
  Int32.maxValue.toInt.toNat

theorem lastVersion_eq : lastVersion = 2147483647 := rfl

namespace Selector

variable (s : Selector)

/-- What an event settles of a document, if anything: the text with which it is open, or that it is not
open. -/
def settles? (uri : String) (e : Event) : Option (Option String) :=
  if s.covers e.url e.language = true ∧ e.url.text = uri then
    match e.deed with
    | .opened text => some (some text)
    | .changed text => some (some text)
    | .saved => none
    | .closed => some none
  else none

/-- The text of a document after the last of the events that opened, changed or closed it, unless that
closed it. -/
def textAfter (events : List Event) (uri : String) : Option String :=
  (events.reverse.findSome? (s.settles? uri)).join

/-- How often a document has been changed in a row, given how often it had been before an event. -/
def countChange (uri : String) (n : Nat) (e : Event) : Nat :=
  if s.covers e.url e.language = true ∧ e.url.text = uri then
    match e.deed with
    | .opened _ => 0
    | .changed _ => n + 1
    | .saved => n
    | .closed => 0
  else n

/-- How often a document has been changed since it was last opened or closed. -/
def changesInRow (events : List Event) (uri : String) : Nat :=
  events.foldl (s.countChange uri) 0

/-- At no point has a document been changed so often in a row that the versions run out. -/
def VersionsSuffice (events : List Event) : Prop :=
  ∀ earlier, earlier <+: events → ∀ uri, s.changesInRow earlier uri < lastVersion

variable {s} in
theorem VersionsSuffice.of_concat {events : List Event} {e : Event}
    (h : s.VersionsSuffice (events ++ [e])) : s.VersionsSuffice events :=
  fun earlier hearlier => h earlier (hearlier.trans (List.prefix_append _ _))

theorem textAfter_concat (events : List Event) (e : Event) (uri : String) :
    s.textAfter (events ++ [e]) uri = (s.settles? uri e).getD (s.textAfter events uri) := by
  unfold textAfter
  rw [List.reverse_append, List.reverse_singleton, List.singleton_append, List.findSome?_cons]
  cases s.settles? uri e <;> rfl

theorem changesInRow_concat (events : List Event) (e : Event) (uri : String) :
    s.changesInRow (events ++ [e]) uri = s.countChange uri (s.changesInRow events uri) e := by
  simp [changesInRow, List.foldl_append]

theorem countChange_of_ne {uri : String} {e : Event} (huri : uri ≠ e.url.text) (n : Nat) :
    s.countChange uri n e = n := by
  simp [countChange, Ne.symm huri]

theorem changesInRow_le_length (events : List Event) (uri : String) :
    s.changesInRow events uri ≤ events.length := by
  have hfoldl (n : Nat) : events.foldl (s.countChange uri) n ≤ n + events.length := by
    induction events generalizing n with
    | nil => exact Nat.le_refl n
    | cons e events ih =>
        have hone : s.countChange uri n e ≤ n + 1 := by
          unfold countChange
          split
          · split <;> omega
          · omega
        have htail := ih (s.countChange uri n e)
        simp only [List.foldl_cons, List.length_cons]
        omega
  simpa [changesInRow] using hfoldl 0

theorem versionsSuffice_of_length {events : List Event} (h : events.length < lastVersion) :
    s.VersionsSuffice events := by
  intro earlier hearlier uri
  have hrow := s.changesInRow_le_length earlier uri
  have hlength := hearlier.length_le
  omega

end Selector

/-- The open documents, the notices and the events of a connection agree. -/
structure Mirrors (s : Selector) (d : Opened) (notices : List Notice) (events : List Event) :
    Prop where
  ascending : Assoc.Ascending d.versions
  versions : ∀ uri, d.version? uri = (Mirror.replay notices uri).map Prod.fst
  texts : ∀ uri, (Mirror.replay notices uri).map Prod.snd = s.textAfter events uri
  counted : ∀ uri version, d.version? uri = some version →
    1 ≤ version.toInt ∧ version.toInt ≤ 1 + s.changesInRow events uri
  fits : ∀ before n after, notices = before ++ n :: after → n.Fits (Mirror.replay before)

variable {s : Selector} {d : Opened} {notices : List Notice} {events : List Event} {e : Event}

theorem mirrors_nil (s : Selector) : Mirrors s {} [] [] where
  ascending := List.Pairwise.nil
  versions uri := rfl
  texts uri := rfl
  counted uri version h := by cases h
  fits before n after h := by simp at h

theorem fits_concat {n : Notice}
    (hfits : ∀ before m after, notices = before ++ m :: after → m.Fits (Mirror.replay before))
    (hn : n.Fits (Mirror.replay notices)) :
    ∀ before m after, notices ++ [n] = before ++ m :: after → m.Fits (Mirror.replay before) := by
  intro before m after h
  rcases List.eq_nil_or_concat after with rfl | ⟨after, last, rfl⟩
  · obtain ⟨rfl, hm⟩ := List.append_inj' h rfl
    cases hm
    exact hn
  · rw [List.concat_eq_append, ← List.cons_append, ← List.append_assoc] at h
    obtain ⟨rfl, -⟩ := List.append_inj' h rfl
    exact hfits before m after rfl

theorem Mirrors.pass (hm : Mirrors s d notices events)
    (hsettles : ∀ uri, s.settles? uri e = none) (hcount : ∀ uri n, s.countChange uri n e = n) :
    Mirrors s d notices (events ++ [e]) where
  ascending := hm.ascending
  versions := hm.versions
  texts uri := by rw [s.textAfter_concat, hsettles, hm.texts]; rfl
  counted uri version h := by
    rw [s.changesInRow_concat, hcount]
    exact hm.counted uri version h
  fits := hm.fits

theorem Mirrors.put (hm : Mirrors s d notices events)
    (hcovers : s.covers e.url e.language = true) {text : String}
    (hdeed : e.deed = .opened text ∨ e.deed = .changed text) {version : Int32} {n : Notice}
    (hafter : (Mirror.replay notices).after n =
      (Mirror.replay notices).set e.url.text version text)
    (hfits : n.Fits (Mirror.replay notices))
    (hcount : 1 ≤ version.toInt ∧
      version.toInt ≤ 1 + s.changesInRow (events ++ [e]) e.url.text) :
    Mirrors s (d.set e.url.text version) (notices ++ [n]) (events ++ [e]) := by
  have hversion (uri : String) : (d.set e.url.text version).version? uri =
      if uri = e.url.text then some version else d.version? uri := Assoc.find?_insert ..
  have hsettles (uri : String) :
      s.settles? uri e = if uri = e.url.text then some (some text) else none := by
    unfold Selector.settles?
    rcases hdeed with hdeed | hdeed <;> simp [hcovers, hdeed, eq_comm]
  refine ⟨hm.ascending.insert _ _, ?_, ?_, ?_, fits_concat hm.fits hfits⟩
  · intro uri
    rw [hversion, Mirror.replay_concat, hafter, Mirror.set]
    split
    · rfl
    · exact hm.versions uri
  · intro uri
    rw [Mirror.replay_concat, hafter, s.textAfter_concat, hsettles, Mirror.set]
    split
    · rfl
    · exact hm.texts uri
  · intro uri w hw
    rw [hversion] at hw
    split at hw
    · rename_i huri
      cases hw
      exact huri ▸ hcount
    · rename_i huri
      rw [s.changesInRow_concat, s.countChange_of_ne huri]
      exact hm.counted uri w hw

theorem Mirrors.opens (hm : Mirrors s d notices events)
    (hcovers : s.covers e.url e.language = true) {text : String}
    (hdeed : e.deed = .opened text ∨ e.deed = .changed text) :
    Mirrors s (d.set e.url.text 1) (notices ++ [.opened e.url.text e.language 1 text])
      (events ++ [e]) := by
  refine hm.put hcovers hdeed rfl rfl ⟨Int.le_refl 1, ?_⟩
  have hone : (1 : Int32).toInt = 1 := rfl
  rw [hone]
  omega

/-- An open document is changed. As long as the versions suffice, the next one is one above the last. -/
theorem Mirrors.changes (hm : Mirrors s d notices events)
    (hsuffice : s.VersionsSuffice (events ++ [e])) (hcovers : s.covers e.url e.language = true)
    {text : String} (hdeed : e.deed = .changed text) {version : Int32}
    (hversion : d.version? e.url.text = some version) :
    Mirrors s (d.set e.url.text (version + 1))
      (notices ++ [.changed e.url.text (version + 1) text]) (events ++ [e]) := by
  obtain ⟨hlow, hhigh⟩ := hm.counted _ _ hversion
  have hrow : s.changesInRow (events ++ [e]) e.url.text = s.changesInRow events e.url.text + 1 := by
    rw [s.changesInRow_concat]
    simp [Selector.countChange, hcovers, hdeed]
  have hbound := hsuffice _ (List.prefix_refl _) e.url.text
  rw [hrow, lastVersion_eq] at hbound
  have hnext : (version + 1).toInt = version.toInt + 1 := by
    have hone : (1 : Int32).toInt = 1 := rfl
    rw [Int32.toInt_add, hone, Int.bmod_eq_of_le] <;> omega
  have hopen := hm.versions e.url.text
  rw [hversion] at hopen
  obtain ⟨⟨last, old⟩, hmirror, hlast⟩ := Option.map_eq_some_iff.mp hopen.symm
  cases hlast
  refine hm.put hcovers (.inr hdeed) rfl ⟨last, old, hmirror, hnext⟩ ?_
  omega

theorem Mirrors.isSome_replay (hm : Mirrors s d notices events) {uri : String} {version : Int32}
    (hversion : d.version? uri = some version) : (Mirror.replay notices uri).isSome = true := by
  have hopen := hm.versions uri
  rw [hversion] at hopen
  obtain ⟨entry, hentry, -⟩ := Option.map_eq_some_iff.mp hopen.symm
  simp [hentry]

theorem Mirrors.remove (hm : Mirrors s d notices events)
    (hcovers : s.covers e.url e.language = true) (hdeed : e.deed = .closed) {d' : Opened}
    {more : List Notice} (hascending : Assoc.Ascending d'.versions)
    (hversion : ∀ uri, d'.version? uri = if uri = e.url.text then none else d.version? uri)
    (hreplay : Mirror.replay (notices ++ more) = (Mirror.replay notices).remove e.url.text)
    (hfits : ∀ before n after, notices ++ more = before ++ n :: after →
      n.Fits (Mirror.replay before)) :
    Mirrors s d' (notices ++ more) (events ++ [e]) := by
  have hsettles (uri : String) :
      s.settles? uri e = if uri = e.url.text then some none else none := by
    simp [Selector.settles?, hcovers, hdeed, eq_comm]
  refine ⟨hascending, ?_, ?_, ?_, hfits⟩
  · intro uri
    rw [hversion, hreplay, Mirror.remove]
    split
    · rfl
    · exact hm.versions uri
  · intro uri
    rw [hreplay, s.textAfter_concat, hsettles, Mirror.remove]
    split
    · rfl
    · exact hm.texts uri
  · intro uri w hw
    rw [hversion] at hw
    split at hw
    · cases hw
    · rename_i huri
      rw [s.changesInRow_concat, s.countChange_of_ne huri]
      exact hm.counted uri w hw

theorem Mirrors.saved (hm : Mirrors s d notices events) {uri : String} {version : Int32}
    (hversion : d.version? uri = some version) : Mirrors s d (notices ++ [.saved uri]) events := by
  have hreplay : Mirror.replay (notices ++ [.saved uri]) = Mirror.replay notices :=
    Mirror.replay_concat ..
  refine ⟨hm.ascending, ?_, ?_, hm.counted, fits_concat hm.fits (hm.isSome_replay hversion)⟩
  · rw [hreplay]
    exact hm.versions
  · rw [hreplay]
    exact hm.texts

theorem Mirrors.closes (hm : Mirrors s d notices events)
    (hcovers : s.covers e.url e.language = true) (hdeed : e.deed = .closed) :
    Mirrors s (d.closes e.url.text).1 (notices ++ (d.closes e.url.text).2.toList)
      (events ++ [e]) := by
  cases hversion : d.version? e.url.text with
  | none =>
      simp only [Opened.closes, hversion]
      refine hm.remove hcovers hdeed hm.ascending (fun uri => ?_) ?_ (by simpa using hm.fits)
      · split
        · rename_i huri
          rw [huri, hversion]
        · rfl
      · have hmirror : Mirror.replay notices e.url.text = none := by
          simpa [hversion] using (hm.versions e.url.text).symm
        funext uri
        simp only [Option.toList_none, List.append_nil, Mirror.remove]
        split
        · rename_i huri
          rw [huri, hmirror]
        · rfl
  | some version =>
      simp only [Opened.closes, hversion]
      exact hm.remove hcovers hdeed (hm.ascending.erase _)
        (fun uri => Assoc.find?_erase hm.ascending _ _) (Mirror.replay_concat ..)
        (fits_concat hm.fits (hm.isSome_replay hversion))

theorem Mirrors.take (hm : Mirrors s d notices events)
    (hsuffice : s.VersionsSuffice (events ++ [e])) (hcovers : s.covers e.url e.language = true) :
    Mirrors s (d.take e.url.text e.language e.deed).1
      (notices ++ (d.take e.url.text e.language e.deed).2.toList) (events ++ [e]) := by
  cases hdeed : e.deed with
  | opened text => exact hm.opens hcovers (.inl hdeed)
  | changed text =>
      cases hversion : d.version? e.url.text with
      | none =>
          simp only [Opened.take, Opened.changes, hversion]
          exact hm.opens hcovers (.inr hdeed)
      | some version =>
          simp only [Opened.take, Opened.changes, hversion]
          exact hm.changes hsuffice hcovers hdeed hversion
  | saved =>
      have hpassed : Mirrors s d notices (events ++ [e]) := by
        refine hm.pass (fun uri => ?_) fun uri n => ?_
        · simp [Selector.settles?, hdeed]
        · simp [Selector.countChange, hdeed]
      cases hversion : d.version? e.url.text with
      | none => simpa [Opened.take, Opened.saves, hversion] using hpassed
      | some version => simpa [Opened.take, Opened.saves, hversion] using hpassed.saved hversion
  | closed => exact hm.closes hcovers hdeed

theorem Mirrors.ignore (hm : Mirrors s d notices events)
    (hcovers : s.covers e.url e.language = false) : Mirrors s d notices (events ++ [e]) := by
  refine hm.pass (fun uri => ?_) fun uri n => ?_
  · simp [Selector.settles?, hcovers]
  · simp [Selector.countChange, hcovers]

end ServerLink.Document

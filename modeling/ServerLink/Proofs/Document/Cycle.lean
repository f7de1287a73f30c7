import ServerLink.Proofs.Document.Mirror

/-!
The life of a document at the server: it is opened, changed and saved any number of times, and closed, and
all that may happen again. The client keeps to that order, but for a document that the editor reports as
opened while it is open: that one is opened again.
-/

namespace ServerLink.Document

namespace Notice

def isOpening : Notice → Bool
  | .opened .. => true
  | _ => false

/-- Whether a notice is about a document that stays open. -/
def isUse : Notice → Bool
  | .changed .. => true
  | .saved _ => true
  | _ => false

def isClosing : Notice → Bool
  | .closed _ => true
  | _ => false

/-- Whether a notice may stand between an opening and a closing. With `again` an opening may. -/
def IsInner (again : Bool) (n : Notice) : Prop :=
  n.isUse = true ∨ again = true ∧ n.isOpening = true

def about (uri : String) (notices : List Notice) : List Notice :=
  notices.filter (·.uri == uri)

@[simp] theorem about_nil (uri : String) : about uri [] = [] := rfl

@[simp] theorem about_append (uri : String) (notices more : List Notice) :
    about uri (notices ++ more) = about uri notices ++ about uri more :=
  List.filter_append ..

theorem about_of_ne {uri : String} {notices : List Notice} (h : ∀ n ∈ notices, n.uri ≠ uri) :
    about uri notices = [] := by
  simpa [about] using h

end Notice

/-- The notices from the opening of a document to its closing. -/
def IsCycle (again : Bool) (notices : List Notice) : Prop :=
  ∃ first inner last, notices = first :: (inner ++ [last]) ∧ first.isOpening = true ∧
    (∀ n ∈ inner, n.IsInner again) ∧ last.isClosing = true

/-- Notices of one document that follow the order of its life, as far as it has come. -/
def InCycles (again : Bool) (notices : List Notice) : Prop :=
  ∃ cycles : List (List Notice), (∀ cycle ∈ cycles, IsCycle again cycle) ∧ notices <+: cycles.flatten

/-- Notices of one document that follow the order of its life and leave it open, or not. -/
def Stands (again isOpen : Bool) (notices : List Notice) : Prop :=
  ∃ cycles : List (List Notice), (∀ cycle ∈ cycles, IsCycle again cycle) ∧
    match isOpen with
    | true => ∃ first inner, notices = cycles.flatten ++ first :: inner ∧
        first.isOpening = true ∧ ∀ n ∈ inner, n.IsInner again
    | false => notices = cycles.flatten

theorem stands_nil (again : Bool) : Stands again false [] :=
  ⟨[], nofun, rfl⟩

theorem inCycles_nil (again : Bool) : InCycles again [] :=
  ⟨[], nofun, List.prefix_refl _⟩

namespace Stands

variable {again isOpen : Bool} {notices : List Notice} {n : Notice}

theorem inCycles (h : Stands again isOpen notices) : InCycles again notices := by
  obtain ⟨cycles, hcycles, h⟩ := h
  cases isOpen with
  | false => exact ⟨cycles, hcycles, h ▸ List.prefix_refl _⟩
  | true =>
      obtain ⟨first, inner, rfl, hfirst, hinner⟩ := h
      refine ⟨cycles ++ [first :: (inner ++ [.closed ""])], ?_, [.closed ""], by simp⟩
      intro cycle hcycle
      rcases List.mem_append.mp hcycle with hcycle | hcycle
      · exact hcycles cycle hcycle
      · obtain rfl := List.mem_singleton.mp hcycle
        exact ⟨first, inner, _, rfl, hfirst, hinner, rfl⟩

theorem opened (h : Stands again false notices) (hn : n.isOpening = true) :
    Stands again true (notices ++ [n]) := by
  obtain ⟨cycles, hcycles, rfl⟩ := h
  exact ⟨cycles, hcycles, n, [], rfl, hn, nofun⟩

theorem inner (h : Stands again true notices) (hn : n.IsInner again) :
    Stands again true (notices ++ [n]) := by
  obtain ⟨cycles, hcycles, first, inner, rfl, hfirst, hinner⟩ := h
  refine ⟨cycles, hcycles, first, inner ++ [n], by simp, hfirst, ?_⟩
  exact List.forall_mem_append.mpr ⟨hinner, by simpa using hn⟩

theorem closed (h : Stands again true notices) (hn : n.isClosing = true) :
    Stands again false (notices ++ [n]) := by
  obtain ⟨cycles, hcycles, first, inner, rfl, hfirst, hinner⟩ := h
  refine ⟨cycles ++ [first :: (inner ++ [n])], ?_, by simp⟩
  intro cycle hcycle
  rcases List.mem_append.mp hcycle with hcycle | hcycle
  · exact hcycles cycle hcycle
  · obtain rfl := List.mem_singleton.mp hcycle
    exact ⟨first, inner, n, rfl, hfirst, hinner, hn⟩

end Stands

namespace Selector

variable (s : Selector)

def isOpenAfter (events : List Event) (uri : String) : Bool :=
  (s.textAfter events uri).isSome

/-- An event that reports a selected document as opened which the events before it left open. -/
def Reopens (uri : String) (before : List Event) (e : Event) : Prop :=
  s.covers e.url e.language = true ∧ e.url.text = uri ∧ (∃ text, e.deed = .opened text) ∧
    s.isOpenAfter before uri = true

def Reopened (uri : String) (events : List Event) : Prop :=
  ∃ before e after, events = before ++ e :: after ∧ s.Reopens uri before e

/-- A document may have been reported as opened again. -/
def Permits (again : Bool) (uri : String) (events : List Event) : Prop :=
  s.Reopened uri events → again = true

variable {s} {again : Bool} {uri : String} {events : List Event} {e : Event}

theorem Permits.of_concat (h : s.Permits again uri (events ++ [e])) : s.Permits again uri events := by
  rintro ⟨before, f, after, rfl, hreopens⟩
  exact h ⟨before, f, after ++ [e], by simp, hreopens⟩

theorem Permits.last (h : s.Permits again uri (events ++ [e])) (hreopens : s.Reopens uri events e) :
    again = true :=
  h ⟨events, e, [], rfl, hreopens⟩

theorem isOpenAfter_concat (s : Selector) (events : List Event) (e : Event) (uri : String) :
    s.isOpenAfter (events ++ [e]) uri =
      ((s.settles? uri e).map Option.isSome).getD (s.isOpenAfter events uri) := by
  unfold isOpenAfter
  rw [s.textAfter_concat]
  cases s.settles? uri e <;> rfl

theorem isOpenAfter_concat_of_not_covers (hcovers : s.covers e.url e.language = false) :
    s.isOpenAfter (events ++ [e]) uri = s.isOpenAfter events uri := by
  rw [isOpenAfter_concat]
  simp [settles?, hcovers]

theorem isOpenAfter_concat_of_ne (hne : e.url.text ≠ uri) :
    s.isOpenAfter (events ++ [e]) uri = s.isOpenAfter events uri := by
  rw [isOpenAfter_concat]
  simp [settles?, hne]

theorem isOpenAfter_concat_self (events : List Event)
    (hcovers : s.covers e.url e.language = true) :
    s.isOpenAfter (events ++ [e]) e.url.text = match e.deed with
      | .opened _ => true
      | .changed _ => true
      | .saved => s.isOpenAfter events e.url.text
      | .closed => false := by
  rw [isOpenAfter_concat]
  cases hdeed : e.deed <;> simp [settles?, hcovers, hdeed]

end Selector

/-- The client knows the documents to be open that the events left open. -/
structure Agrees (s : Selector) (d : Opened) (events : List Event) : Prop where
  ascending : Assoc.Ascending d.versions
  isOpen : ∀ uri, (d.version? uri).isSome = s.isOpenAfter events uri

variable {s : Selector} {d : Opened} {events : List Event} {e : Event} {again : Bool}

theorem agrees_nil (s : Selector) : Agrees s {} [] :=
  ⟨List.Pairwise.nil, fun _ => rfl⟩

theorem Agrees.ignore (ha : Agrees s d events) (hcovers : s.covers e.url e.language = false) :
    Agrees s d (events ++ [e]) :=
  ⟨ha.ascending, fun uri => by
    rw [ha.isOpen, Selector.isOpenAfter_concat_of_not_covers hcovers]⟩

theorem Agrees.of_self (ha : Agrees s d events) {d' : Opened}
    (hascending : Assoc.Ascending d'.versions)
    (hself : (d'.version? e.url.text).isSome = s.isOpenAfter (events ++ [e]) e.url.text)
    (hother : ∀ uri, e.url.text ≠ uri → d'.version? uri = d.version? uri) :
    Agrees s d' (events ++ [e]) := by
  refine ⟨hascending, ?_⟩
  intro uri
  by_cases huri : e.url.text = uri
  · exact huri ▸ hself
  · rw [hother uri huri, ha.isOpen, Selector.isOpenAfter_concat_of_ne huri]

theorem Agrees.set (ha : Agrees s d events) {version : Int32}
    (hopen : s.isOpenAfter (events ++ [e]) e.url.text = true) :
    Agrees s (d.set e.url.text version) (events ++ [e]) := by
  have hversion (uri : String) : (d.set e.url.text version).version? uri =
      if uri = e.url.text then some version else d.version? uri := Assoc.find?_insert ..
  refine ha.of_self (ha.ascending.insert _ _) ?_ ?_
  · rw [hversion, hopen]
    simp
  · intro uri huri
    rw [hversion, if_neg (Ne.symm huri)]

theorem Agrees.take (ha : Agrees s d events) (hcovers : s.covers e.url e.language = true) :
    Agrees s (d.take e.url.text e.language e.deed).1 (events ++ [e]) := by
  have hself := Selector.isOpenAfter_concat_self events hcovers
  cases hdeed : e.deed with
  | opened text =>
      rw [hdeed] at hself
      exact ha.set hself
  | changed text =>
      rw [hdeed] at hself
      simp only [Opened.take, Opened.changes]
      cases d.version? e.url.text with
      | none => exact ha.set hself
      | some version => exact ha.set hself
  | saved =>
      rw [hdeed] at hself
      exact ha.of_self ha.ascending ((ha.isOpen _).trans hself.symm) fun _ _ => rfl
  | closed =>
      rw [hdeed] at hself
      simp only [Opened.take, Opened.closes]
      cases hversion : d.version? e.url.text with
      | none => exact ha.of_self ha.ascending (by rw [hversion, hself]; rfl) fun _ _ => rfl
      | some version =>
          have herase (uri : String) : Opened.version? ⟨Assoc.erase e.url.text d.versions⟩ uri =
              if uri = e.url.text then none else d.version? uri :=
            Assoc.find?_erase ha.ascending _ _
          refine ha.of_self (ha.ascending.erase _) ?_ ?_
          · rw [herase, hself]
            simp
          · intro uri huri
            rw [herase, if_neg (Ne.symm huri)]

theorem uri_of_mem_take {uri language : String} {deed : Deed} {n : Notice}
    (hn : n ∈ (d.take uri language deed).2) : n.uri = uri := by
  cases deed with
  | opened text =>
      cases hn
      rfl
  | changed text =>
      simp only [Opened.take, Opened.changes] at hn
      split at hn <;> cases hn <;> rfl
  | saved =>
      obtain ⟨version, -, rfl⟩ := Option.map_eq_some_iff.mp hn
      rfl
  | closed =>
      simp only [Opened.take, Opened.closes] at hn
      split at hn <;> cases hn
      rfl

/-- What the server is told upon an event keeps to the order of the document's life. -/
theorem Agrees.stands_self (ha : Agrees s d events) (hcovers : s.covers e.url e.language = true)
    (hpermits : s.Permits again e.url.text (events ++ [e])) {notices : List Notice}
    (hstands : Stands again (s.isOpenAfter events e.url.text) notices) :
    Stands again (s.isOpenAfter (events ++ [e]) e.url.text)
      (notices ++ (d.take e.url.text e.language e.deed).2.toList) := by
  rw [Selector.isOpenAfter_concat_self events hcovers]
  have hisOpen := ha.isOpen e.url.text
  cases hdeed : e.deed with
  | opened text =>
      cases hopen : s.isOpenAfter events e.url.text with
      | false =>
          rw [hopen] at hstands
          exact hstands.opened rfl
      | true =>
          rw [hopen] at hstands
          have hagain : again = true := hpermits.last ⟨hcovers, rfl, ⟨text, hdeed⟩, hopen⟩
          exact hstands.inner (.inr ⟨hagain, rfl⟩)
  | changed text =>
      rw [← hisOpen] at hstands
      simp only [Opened.take, Opened.changes]
      cases hversion : d.version? e.url.text with
      | none =>
          rw [hversion] at hstands
          exact hstands.opened rfl
      | some version =>
          rw [hversion] at hstands
          exact hstands.inner (.inl rfl)
  | saved =>
      simp only [Opened.take, Opened.saves]
      rw [← hisOpen] at hstands ⊢
      cases hversion : d.version? e.url.text with
      | none => simpa [hversion] using hstands
      | some version =>
          rw [hversion] at hstands
          exact hstands.inner (.inl rfl)
  | closed =>
      rw [← hisOpen] at hstands
      simp only [Opened.take, Opened.closes]
      cases hversion : d.version? e.url.text with
      | none => simpa [hversion] using hstands
      | some version =>
          rw [hversion] at hstands
          exact hstands.closed rfl

theorem Agrees.stands (ha : Agrees s d events) (hcovers : s.covers e.url e.language = true)
    {uri : String} (hpermits : s.Permits again uri (events ++ [e])) {notices : List Notice}
    (hstands : Stands again (s.isOpenAfter events uri) (Notice.about uri notices)) :
    Stands again (s.isOpenAfter (events ++ [e]) uri)
      (Notice.about uri (notices ++ (d.take e.url.text e.language e.deed).2.toList)) := by
  rw [Notice.about_append]
  by_cases huri : e.url.text = uri
  · subst huri
    have htold : Notice.about e.url.text (d.take e.url.text e.language e.deed).2.toList =
        (d.take e.url.text e.language e.deed).2.toList := by
      refine List.filter_eq_self.mpr fun n hn => ?_
      simpa using uri_of_mem_take (Option.mem_toList.mp hn)
    rw [htold]
    exact ha.stands_self hcovers hpermits hstands
  · have hnone : Notice.about uri (d.take e.url.text e.language e.deed).2.toList = [] :=
      Notice.about_of_ne fun n hn h => huri ((uri_of_mem_take (Option.mem_toList.mp hn)).symm.trans h)
    rw [Selector.isOpenAfter_concat_of_ne huri, hnone, List.append_nil]
    exact hstands

/-- An opening has to come first, or behind a closing. -/
theorem not_inCycles_of_second {first second : Notice} (hsecond : second.isOpening = true) :
    ¬ InCycles false [first, second] := by
  rintro ⟨cycles, hcycles, rest, hrest⟩
  cases cycles with
  | nil => simp at hrest
  | cons cycle cycles =>
      obtain ⟨o, inner, last, rfl, -, hinner, hlast⟩ := hcycles cycle List.mem_cons_self
      cases inner with
      | nil =>
          simp only [List.nil_append, List.flatten_cons, List.cons_append, List.cons.injEq] at hrest
          obtain ⟨-, rfl, -⟩ := hrest
          cases second with
          | closed => cases hsecond
          | _ => cases hlast
      | cons n inner =>
          simp only [List.flatten_cons, List.cons_append, List.cons.injEq] at hrest
          obtain ⟨-, rfl, -⟩ := hrest
          rcases hinner second List.mem_cons_self with huse | ⟨hagain, -⟩
          · cases second with
            | opened => cases huse
            | _ => cases hsecond
          · cases hagain

end ServerLink.Document

import ServerLink.Proofs.Client.Reply
import ServerLink.Proofs.Feature.Subscriptions

namespace ServerLink

namespace Rpc

/-- The markup that a value pushes. It has no identifier, names the notification for pages, and its parameters
are the markup or a list that begins with it. -/
def markup? (frame : Json) : Option String :=
  if (frame.get? "id").isNone ∧ method? frame = some Panel.notification then
    match frame.get? "params" with
    | some (.string html) => some html
    | some (.array (.string html :: _)) => some html
    | _ => none
  else none

theorem markup?_of_notification {frame : Json} {method : String} {params : Option Json}
    (h : Incoming.ofFrame? frame = some (.notification method params)) :
    markup? frame = if method = Panel.notification then Panel.htmlOfParams? params else none := by
  unfold Incoming.ofFrame? at h
  split at h
  · cases h
  · rename_i hid hmethod
    cases h
    simp only [markup?, method?, hid, hmethod, Option.isNone_none, true_and, Option.some.injEq]
    rfl
  · split at h
    · obtain ⟨n, -, hn⟩ := Option.map_eq_some_iff.mp h
      cases hn
    · cases h
  · cases h

theorem markup?_of_id {frame id : Json} (hid : frame.get? "id" = some id) : markup? frame = none := by
  simp [markup?, hid]

theorem markup?_of_method? {frame : Json} (hmethod : method? frame = none) : markup? frame = none := by
  simp [markup?, hmethod]

theorem markup?_of_ofFrame? {frame : Json}
    (h : ∀ method params, Incoming.ofFrame? frame ≠ some (.notification method params)) :
    markup? frame = none := by
  cases hid : frame.get? "id" with
  | some id => exact markup?_of_id hid
  | none =>
      cases hmethod : method? frame with
      | none => exact markup?_of_method? hmethod
      | some method =>
          refine absurd ?_ (h method (frame.get? "params"))
          rw [method?] at hmethod
          simp only [Incoming.ofFrame?, hid, hmethod]

end Rpc

namespace Client

def Act.page? : Act → Option Panel.Page
  | .openedPanel page => some page
  | _ => none

def pagesIn (acts : List Act) : List Panel.Page :=
  acts.filterMap Act.page?

@[simp] theorem pagesIn_nil : pagesIn [] = [] := rfl

@[simp] theorem pagesIn_append (acts more : List Act) :
    pagesIn (acts ++ more) = pagesIn acts ++ pagesIn more :=
  List.filterMap_append

@[simp] theorem pagesIn_called (names : List Nat) (call : Feature.Call) :
    pagesIn (names.map (.called · call)) = [] := by
  simp [pagesIn, Act.page?, List.filterMap_map, Function.comp_def]

@[simp] theorem pagesIn_write (c : Client) (m : Message) : pagesIn (c.write m) = [] := by
  unfold write
  split <;> rfl

theorem pagesIn_report (c : Client) (uri language : String) (deed : Document.Deed) :
    pagesIn (c.report uri language deed).2 = [] := by
  rw [acts_report]
  cases (c.documents.take uri language deed).2 with
  | none => rfl
  | some notice => exact pagesIn_write c _

theorem pagesIn_flatMap {α : Type} (as : List α) {acts : α → List Act}
    (hacts : ∀ a, pagesIn (acts a) = []) : pagesIn (as.flatMap acts) = [] := by
  rw [pagesIn, List.filterMap_flatMap, List.flatMap_eq_nil_iff]
  exact fun a _ => hacts a

theorem pagesIn_answer (c : Client) (method : String) (params : Option Json) :
    pagesIn (c.answer method params).1 = [] := by
  unfold answer
  split
  · exact pagesIn_flatMap _ fun r => pagesIn_called _ (.register r)
  · split
    · exact pagesIn_flatMap _ fun r => pagesIn_called _ (.unregister r.id)
    · split <;> rfl

theorem pagesIn_heed {c : Client} (hsubscribed : c.subscriptions.ShowPages) (method : String)
    (params : Option Json) : pagesIn (c.heed method params) =
      ((if method = Panel.notification then Panel.htmlOfParams? params else none).map
        Panel.Page.ofHtml).toList := by
  by_cases hmethod : method = Panel.notification
  · subst hmethod
    obtain ⟨i, hfind⟩ := hsubscribed.shows
    simp only [heed, hfind, ↓reduceIte]
    cases Panel.htmlOfParams? params <;> rfl
  · rw [if_neg hmethod]
    unfold heed
    split
    · rename_i i hfind
      exact absurd (hsubscribed.alone method i hfind) hmethod
    · rfl
    · cases logLine? method params <;> rfl

theorem pagesIn_heed_of_none {c : Client} (hsubscribed : c.subscriptions = {}) (method : String)
    (params : Option Json) : pagesIn (c.heed method params) = [] := by
  have hfind : c.subscriptions.find? method = none := by rw [hsubscribed]; rfl
  simp only [heed, hfind]
  cases logLine? method params <;> rfl

/-- Where the features are subscribed, the pages that a value opens are the one that it pushes. -/
theorem pagesIn_dispatch {c : Client} (hsubscribed : c.subscriptions.ShowPages) (frame : Json) :
    pagesIn (c.dispatch frame).2 = ((Rpc.markup? frame).map Panel.Page.ofHtml).toList := by
  unfold dispatch
  split
  · rename_i hframe
    rw [Rpc.markup?_of_ofFrame? (by simp [hframe])]
    rfl
  · rename_i hframe
    rw [Rpc.markup?_of_ofFrame? (by simp [hframe])]
    rfl
  · rename_i hframe
    rw [Rpc.markup?_of_ofFrame? (by simp [hframe])]
    simp [pagesIn_answer]
  · rename_i hframe
    rw [Rpc.markup?_of_notification hframe]
    exact pagesIn_heed hsubscribed _ _

theorem pagesIn_dispatch_of_none {c : Client} (hsubscribed : c.subscriptions = {}) (frame : Json) :
    pagesIn (c.dispatch frame).2 = [] := by
  unfold dispatch
  split
  · rfl
  · rfl
  · simp [pagesIn_answer]
  · exact pagesIn_heed_of_none hsubscribed _ _

theorem ofFrame?_of_markup? {frame : Json} {html : String} (h : Rpc.markup? frame = some html) :
    ∃ params, Rpc.Incoming.ofFrame? frame = some (.notification Panel.notification params) ∧
      Panel.htmlOfParams? params = some html := by
  cases hframe : Rpc.Incoming.ofFrame? frame with
  | none => simp [Rpc.markup?_of_ofFrame?, hframe] at h
  | some incoming =>
      cases incoming with
      | notification method params =>
          rw [Rpc.markup?_of_notification hframe] at h
          split at h
          · rename_i hmethod
            exact ⟨params, by rw [hmethod], h⟩
          · cases h
      | _ => simp [Rpc.markup?_of_ofFrame?, hframe] at h

theorem acts_dispatch_of_markup? {c : Client} (hsubscribed : c.subscriptions.ShowPages) {frame : Json}
    {html : String} (h : Rpc.markup? frame = some html) :
    (c.dispatch frame).2 = [.openedPanel (.ofHtml html)] := by
  obtain ⟨params, hframe, hhtml⟩ := ofFrame?_of_markup? h
  obtain ⟨i, hfind⟩ := hsubscribed.shows
  simp [dispatch, hframe, heed, hfind, hhtml]

theorem acts_dispatch_of_markup?_of_none {c : Client} (hsubscribed : c.subscriptions = {}) {frame : Json}
    {html : String} (h : Rpc.markup? frame = some html) : (c.dispatch frame).2 = [] := by
  obtain ⟨params, hframe, -⟩ := ofFrame?_of_markup? h
  have hfind : c.subscriptions.find? Panel.notification = none := by rw [hsubscribed]; rfl
  have hline : logLine? Panel.notification params = none := rfl
  simp [dispatch, hframe, heed, hfind, hline]

theorem acts_dispatch_of_request (c : Client) {frame id : Json} (hid : frame.get? "id" = some id)
    (hmethod : Rpc.method? frame = some Panel.notification) :
    (c.dispatch frame).2 = c.write (.reply id (.unknownMethod Panel.notification)) := by
  have hframe : Rpc.Incoming.ofFrame? frame =
      some (.request id Panel.notification (frame.get? "params")) := by
    rw [Rpc.method?] at hmethod
    simp only [Rpc.Incoming.ofFrame?, hid, hmethod]
  have hunserved : Panel.notification ∉ Rpc.servedMethods := by decide
  simp only [dispatch, hframe, c.answer_of_notMem hunserved]
  rfl

theorem Handshake.pagesIn_step {c d : Client} {next next' : Handshake} {acts : List Act}
    (hstep : next.step c = (.next d next', acts)) : pagesIn acts = [] := by
  cases next <;> simp only [Handshake.step] at hstep
  case prepare =>
    split at hstep <;> cases hstep
    exact pagesIn_called _ _
  case enter =>
    cases hstep
    rfl
  case settle =>
    split at hstep <;> cases hstep
    exact pagesIn_called _ _
  case conclude => split at hstep <;> cases hstep
  all_goals
    split at hstep <;> cases hstep
    rfl

theorem Farewell.pagesIn_step {c d : Client} {next next' : Farewell} {acts : List Act}
    (hstep : next.step c = (.next d next', acts)) : pagesIn acts = [] := by
  cases next <;> simp only [Farewell.step] at hstep
  case dispose =>
    cases hstep
    exact pagesIn_called _ _
  case write => split at hstep <;> cases hstep <;> rfl
  case await => split at hstep <;> cases hstep <;> rfl
  case exit =>
    cases hstep
    exact pagesIn_write c _
  case hangUp => cases hstep
  all_goals
    cases hstep
    rfl

end Client

end ServerLink

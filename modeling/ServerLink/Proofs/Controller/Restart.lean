import ServerLink.Proofs.Controller.Offer

namespace ServerLink.Controller

variable {s : Controller}

/-- The target of the start that an act begins; the settings may name none. -/
def Act.start? : Act → Option (Option Target)
  | .attempted _ target => some (some target)
  | .concluded .disabled => some none
  | _ => none

theorem start?_ofClient (s : Controller) (acts : List Client.Act) :
    (s.ofClient acts).filterMap Act.start? = [] := by
  simp [ofClient, List.filterMap_map, Function.comp_def, Act.start?]

theorem start?_begin (e : Editor) (s : Controller) :
    (s.begin e).2.filterMap Act.start? = [Target.ofEditor? e] := by
  unfold begin
  cases Target.ofEditor? e <;> rfl

/-- One client is started at most, and that with the target which the settings name. -/
def StartsAsNamed (e : Editor) (acts : List Act) : Prop :=
  acts.filterMap Act.start? = [] ∨ acts.filterMap Act.start? = [Target.ofEditor? e]

theorem StartsAsNamed.behind {e : Editor} {acts : List Act} (h : StartsAsNamed e acts) (s : Controller)
    (done : List Client.Act) : StartsAsNamed e (s.ofClient done ++ acts) := by
  rw [StartsAsNamed, List.filterMap_append, start?_ofClient]
  exact h

section Named

variable (e : Editor)

theorem named_begin (s : Controller) : StartsAsNamed e (s.begin e).2 :=
  .inr (start?_begin e s)

theorem named_stopThen (s : Controller) (sequel : Sequel) : StartsAsNamed e (s.stopThen e sequel).2 := by
  unfold stopThen
  split
  · exact .inl rfl
  · exact .inl rfl
  · exact named_begin e s
  · exact .inl rfl

theorem named_retry (s : Controller) (prompt : Nat) : StartsAsNamed e (s.retry e prompt).2 := by
  unfold retry
  split
  · exact named_stopThen e _ .start
  · exact .inl rfl

theorem named_noticeLoss (s : Controller) : StartsAsNamed e s.noticeLoss.2 := by
  unfold noticeLoss
  split
  · split <;> exact .inl rfl
  · exact .inl rfl

theorem named_fail (s : Controller) (error : Client.Error) : StartsAsNamed e (s.fail error).2 := by
  cases error <;> exact .inl rfl

theorem named_abandon (s : Controller) (error : Client.Error) : StartsAsNamed e (s.abandon error).2 :=
  (named_fail e s error).behind s [.hungUp]

theorem named_onClient (s : Controller) (attempt : Nat) (f : Client → Client × List Client.Act) :
    StartsAsNamed e (s.onClient attempt f).2 := by
  unfold Controller.onClient
  split
  · split
    · exact .inl (start?_ofClient s _)
    · exact .inl rfl
  · exact .inl rfl

theorem named_perform (s : Controller) (op : Operation) : StartsAsNamed e (s.perform e op).2 := by
  cases op with
  | start =>
      simp only [perform]
      split
      · exact .inl rfl
      · exact named_begin e s
  | stop => exact named_stopThen e s .rest
  | restart => exact named_stopThen e s .start
  | retry prompt => exact named_retry e s prompt
  | noticeLoss => exact named_noticeLoss e s
  | handle event =>
      cases event with
      | settingsChanged => exact named_stopThen e s .start
      | chosen prompt action =>
          cases action with
          | reconnect => exact named_retry e s prompt
          | openSettings => exact .inl rfl
      | document event =>
          simp only [perform, handle, reportDocument]
          split
          · split
            · exact .inl (start?_ofClient s _)
            · exact .inl rfl
          · exact .inl rfl
      | filesChanged changes =>
          simp only [perform, handle, reportFiles]
          split
          · exact .inl (start?_ofClient s _)
          · exact .inl rfl
      | connectionLost => exact named_noticeLoss e s
      | shutdown => exact .inl rfl

theorem named_proceed (s : Controller) : StartsAsNamed e (s.proceed e).2 := by
  unfold proceed
  split
  · dsimp only
    split
    · exact .inl (start?_ofClient s _)
    · exact .inl (start?_ofClient s _)
    · exact (named_abandon e s _).behind s _
    · exact StartsAsNamed.behind (.inl rfl) s _
  · dsimp only
    split
    · exact .inl (start?_ofClient s _)
    · exact .inl (start?_ofClient s _)
    · exact (named_stopThen e _ _).behind s _
  · exact .inl rfl

theorem named_step (s : Controller) (i : Input) : StartsAsNamed e (s.step e i).2 := by
  cases i with
  | perform op =>
      simp only [step]
      split
      · exact named_perform e s op
      · exact .inl rfl
  | reached r =>
      simp only [step, reached]
      split
      · split
        · exact named_fail e s _
        · exact .inl rfl
      · exact .inl rfl
  | proceed => exact named_proceed e s
  | expire =>
      simp only [step, expire]
      split
      · split
        · exact named_abandon e s _
        · exact .inl rfl
      · split <;> exact .inl rfl
      · exact .inl rfl
  | arrive attempt r => exact named_onClient e s attempt _
  | wind attempt => exact named_onClient e s attempt _
  | jam attempt => exact named_onClient e s attempt _

end Named

/-- The client is being stopped so that another can be started. -/
def Restarts (s : Controller) : Prop :=
  ∃ c next, s.phase = .closing c next .start

theorem not_restarts_of_isReady (hready : s.isReady = true) : ¬s.Restarts := by
  rintro ⟨c, next, hphase⟩
  simp [isReady, hphase] at hready

theorem Restarts.onClient (h : s.Restarts) (attempt : Nat) (f : Client → Client × List Client.Act) :
    (s.onClient attempt f).1.Restarts := by
  obtain ⟨c, next, hphase⟩ := h
  unfold Controller.onClient
  split
  · rw [hphase]
    exact ⟨(f c).1, next, rfl⟩
  · exact ⟨c, next, hphase⟩

theorem Restarts.step (h : s.Restarts) (e : Editor) (i : Input) :
    (s.step e i).1.Restarts ∨ (s.step e i).2.filterMap Act.start? = [Target.ofEditor? e] := by
  have hstill := h
  obtain ⟨c, next, hphase⟩ := h
  cases i with
  | perform op =>
      refine .inl ?_
      simpa [Controller.step, isReady, hphase] using hstill
  | reached r =>
      refine .inl ?_
      simpa [Controller.step, reached, hphase] using hstill
  | proceed =>
      simp only [Controller.step, proceed, hphase]
      obtain ⟨progress, acts⟩ := next.step c
      cases progress with
      | next d next => exact .inl ⟨d, next, rfl⟩
      | waits => exact .inl hstill
      | done =>
          refine .inr ?_
          simp only [stopThen, List.filterMap_append, start?_ofClient, start?_begin, List.nil_append]
  | expire =>
      simp only [Controller.step, expire, hphase]
      cases next.expire c with
      | some after => exact .inl ⟨after.1, after.2, rfl⟩
      | none => exact .inl hstill
  | arrive attempt r => exact .inl (hstill.onClient attempt _)
  | wind attempt => exact .inl (hstill.onClient attempt _)
  | jam attempt => exact .inl (hstill.onClient attempt _)

theorem restarts_of_settingsChanged (hready : s.isReady = true) (e : Editor) :
    (s.step e (.perform (.handle .settingsChanged))).1.Restarts ∨
      (s.step e (.perform (.handle .settingsChanged))).2.filterMap Act.start? = [Target.ofEditor? e] := by
  simp only [step, hready, if_true, perform, handle]
  rcases phase_of_isReady hready with hphase | ⟨target, c, hphase⟩
  · simp only [stopThen, hphase]
    exact .inr (start?_begin e s)
  · simp only [stopThen, hphase]
    exact .inl ⟨c, .dispose, rfl⟩

namespace Loop

theorem settingsChanged_lead {l : Loop} {i : Input} (hi : i.isInner = true)
    (hmem : .settingsChanged ∈ l.queue) : .settingsChanged ∈ (l.lead i).1.queue ∨
      (l.lead i).2 = some (.perform (.handle .settingsChanged)) ∧ l.controller.isReady = true := by
  cases i with
  | send | close => cases hi
  | noticeLoss | control => exact .inl hmem
  | take =>
      simp only [lead, take]
      split
      · rename_i hready
        split
        · rename_i event queue hqueue
          rw [hqueue] at hmem
          rcases List.mem_cons.mp hmem with rfl | hrest
          · exact .inr ⟨rfl, (Bool.and_eq_true_iff.mp hready).2⟩
          · refine .inl ?_
            split <;> exact hrest
        · rename_i hqueue
          rw [hqueue] at hmem
          cases hmem
      · exact .inl hmem

end Loop

end ServerLink.Controller

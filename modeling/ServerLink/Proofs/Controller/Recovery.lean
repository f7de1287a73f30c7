import ServerLink.Proofs.Controller.Move

/-!
Offers to recover over a whole run: they are numbered from one without gaps, only the last of them can be
outstanding, and then nothing has been started since. So an offer is accepted at most once, and one that
was dismissed or overtaken is never accepted.
-/

namespace ServerLink.Controller

def Note.prompt? : Note → Option Nat
  | .did (.offered prompt) => some prompt.id
  | _ => none

def prompts (h : List Note) : List Nat :=
  h.filterMap Note.prompt?

/-- Whether an act is the first of a start: a target is tried, or there is none. -/
def Act.starts : Act → Bool
  | .attempted .. => true
  | .concluded .disabled => true
  | _ => false

def Note.starts : Note → Bool
  | .did act => act.starts
  | _ => false

/-- Whether an input accepts an offer. -/
def Input.accepts (prompt : Nat) : Input → Bool
  | .perform (.retry p) => p == prompt
  | .perform (.handle (.chosen p .reconnect)) => p == prompt
  | _ => false

/-- How many starts of a run are due to an offer that is accepted. -/
def startsFor (prompt : Nat) (s : Controller) : List (Editor × Input) → Nat
  | [] => 0
  | (e, i) :: inputs =>
      (if i.accepts prompt && (s.step e i).2.any Act.starts then 1 else 0) +
        startsFor prompt (s.step e i).1 inputs

@[simp] theorem prompts_append (h new : List Note) :
    prompts (h ++ new) = prompts h ++ prompts new :=
  List.filterMap_append

@[simp] theorem prompts_clientNotes (attempt : Nat) (acts : List Client.Act) :
    prompts (clientNotes attempt acts) = [] := by
  simp [prompts, clientNotes, Note.prompt?, List.filterMap_map, Function.comp_def]

/-- A move makes no offer, and leaves the outstanding one only while nothing is started. -/
structure Keeps (s : Controller) (new : List Note) (t : Controller) : Prop where
  prompts : prompts new = []
  nextPrompt : t.nextPrompt = s.nextPrompt
  outstanding : t.outstanding = none ∨
    t.outstanding = s.outstanding ∧
      (s.phase = .idle → t.phase = .idle ∧ ∀ note ∈ new, note.starts = false)

/-- A move makes the next offer. -/
structure Offers (s : Controller) (new : List Note) (t : Controller) : Prop where
  state : t = s.offered
  notes : ∃ before after, new = before ++ .did (.offered (.ofId s.nextPrompt)) :: after ∧
    Controller.prompts before = [] ∧ Controller.prompts after = [] ∧
    ∀ note ∈ after, note.starts = false

theorem Begins.keeps {s t : Controller} {new : List Note} (hbegins : s.Begins new t) :
    s.Keeps new t := by
  cases hbegins with
  | disabled => exact ⟨rfl, rfl, .inl rfl⟩
  | attempted => exact ⟨rfl, rfl, .inl rfl⟩

theorem Keeps.of_busy {s t : Controller} {new : List Note} (hphase : s.phase ≠ .idle)
    (hprompts : Controller.prompts new = []) (hnext : t.nextPrompt = s.nextPrompt)
    (hout : t.outstanding = s.outstanding) : s.Keeps new t :=
  ⟨hprompts, hnext, .inr ⟨hout, fun h => absurd h hphase⟩⟩

theorem Move.keeps_or_offers {s t : Controller} {new : List Note} (move : s.Move new t) :
    s.Keeps new t ∨ s.Offers new t := by
  cases move with
  | refused hphase => exact .inl (.of_busy (by simp [hphase]) rfl rfl rfl)
  | dismissed prompt =>
      left
      unfold dismiss
      split
      · exact ⟨rfl, rfl, .inl rfl⟩
      · exact ⟨rfl, rfl, .inr ⟨rfl, fun h => ⟨h, by simp [Note.starts, Act.starts]⟩⟩⟩
  | began _ hbegins => exact .inl hbegins.keeps
  | connected hphase => exact .inl (.of_busy (by simp [hphase]) rfl rfl rfl)
  | unreachable =>
      right
      exact ⟨rfl, [], _, rfl, rfl, rfl, by simp [Note.starts, Act.starts]⟩
  | unlaunched _ hphase => exact .inl (.of_busy (by simp [hphase]) rfl rfl rfl)
  | shook hphase => exact .inl (.of_busy (by simp [hphase]) (by simp) rfl rfl)
  | started hphase =>
      refine .inl (.of_busy (by simp [hphase]) ?_ rfl rfl)
      rw [prompts_append, prompts_clientNotes]
      rfl
  | abandoned _ hphase => exact .inl (.of_busy (by simp [hphase]) rfl rfl rfl)
  | closed _ hphase => exact .inl (.of_busy (by simp [hphase]) rfl rfl rfl)
  | parting hphase => exact .inl (.of_busy (by simp [hphase]) (by simp) rfl rfl)
  | gaveUp hphase => exact .inl (.of_busy (by simp [hphase]) rfl rfl rfl)
  | parted hphase => exact .inl (.of_busy (by simp [hphase]) rfl rfl rfl)
  | partedOffering => exact .inr ⟨rfl, _, [], rfl, rfl, rfl, nofun⟩
  | partedBeginning _ hbegins =>
      left
      obtain ⟨hprompts, hnext, hout⟩ := hbegins.keeps
      refine ⟨by simpa using hprompts, hnext, ?_⟩
      cases hbegins <;> exact .inl rfl
  | served hheld =>
      refine .inl (.of_busy (fun h => ?_) ?_ rfl rfl)
      · simp [h, Phase.client?] at hheld
      · simp [prompts, Note.prompt?, clientNotes, List.filterMap_map, Function.comp_def]
  | passed event hphase => exact .inl (.of_busy (by simp [hphase]) rfl rfl rfl)
  | told event hphase =>
      refine .inl (.of_busy (by simp [hphase]) ?_ rfl rfl)
      change prompts (clientNotes _ _) = []
      exact prompts_clientNotes _ _
  | toldFiles _ hphase => exact .inl (.of_busy (by simp [hphase]) (by simp) rfl rfl)

/-- The offers that were made, and the one that is outstanding. -/
structure Offering (h : List Note) (s : Controller) : Prop where
  numbered : prompts h = List.range' 1 (prompts h).length
  next : s.nextPrompt = (prompts h).length + 1
  idle : ∀ p, s.outstanding = some p → s.phase = .idle
  last : ∀ p, s.outstanding = some p → ∃ before after,
    h = before ++ .did (.offered (.ofId p)) :: after ∧ prompts after = [] ∧
      ∀ note ∈ after, note.starts = false

theorem offering_init : Offering [] {} :=
  ⟨rfl, rfl, nofun, nofun⟩

theorem Offering.keeps {h new : List Note} {s t : Controller} (ho : Offering h s)
    (hk : s.Keeps new t) : Offering (h ++ new) t := by
  have hprompts : prompts (h ++ new) = prompts h := by simp [hk.prompts]
  refine ⟨by rw [hprompts]; exact ho.numbered, by rw [hprompts, hk.nextPrompt]; exact ho.next,
    fun p hp => ?_, fun p hp => ?_⟩
  all_goals
    rcases hk.outstanding with hnone | ⟨hsame, hquiet⟩
    · rw [hnone] at hp
      cases hp
    rw [hsame] at hp
  · exact (hquiet (ho.idle p hp)).1
  · obtain ⟨before, after, rfl, hafter, hstarts⟩ := ho.last p hp
    refine ⟨before, after ++ new, by simp, by simp [hafter, hk.prompts], ?_⟩
    intro note hnote
    rcases List.mem_append.mp hnote with hnote | hnote
    · exact hstarts note hnote
    · exact (hquiet (ho.idle p hp)).2 note hnote

theorem Offering.offers {h new : List Note} {s t : Controller} (ho : Offering h s)
    (hf : s.Offers new t) : Offering (h ++ new) t := by
  obtain ⟨rfl, before, after, rfl, hbefore, hafter, hstarts⟩ := hf
  have hone : prompts (before ++ .did (.offered (.ofId s.nextPrompt)) :: after) =
      [s.nextPrompt] := by
    rw [prompts_append, hbefore]
    change s.nextPrompt :: prompts after = _
    rw [hafter]
  refine ⟨?_, ?_, fun p hp => rfl, fun p hp => ?_⟩
  · rw [prompts_append, hone, List.length_append, List.length_singleton, List.range'_concat,
      ← ho.numbered, ho.next]
    simp [Nat.add_comm]
  · rw [prompts_append, hone, List.length_append, List.length_singleton, ← ho.next]
    rfl
  · obtain rfl : s.nextPrompt = p := by simpa [offered] using hp
    exact ⟨h ++ before, after, by simp, hafter, hstarts⟩

theorem Offering.moves {h new : List Note} {s t : Controller} (ho : Offering h s)
    (moves : s.Moves new t) : Offering (h ++ new) t := by
  induction moves with
  | none => simpa using ho
  | snoc _ move ih =>
      rw [← List.append_assoc]
      rcases move.keeps_or_offers with hk | hf
      · exact ih.keeps hk
      · exact ih.offers hf

theorem offering_history (inputs : List (Editor × Input)) :
    Offering (history {} inputs) (run {} inputs).1 :=
  offering_init.moves (moves_history {} inputs)

theorem Offering.lt_nextPrompt {h : List Note} {s : Controller} (ho : Offering h s) {p : Nat}
    (hp : p ∈ prompts h) : p < s.nextPrompt := by
  rw [ho.numbered, List.mem_range'_1] at hp
  have := ho.next
  omega

theorem Offering.mem_of_outstanding {h : List Note} {s : Controller} (ho : Offering h s) {p : Nat}
    (hp : s.outstanding = some p) : p ∈ prompts h := by
  obtain ⟨before, after, rfl, -, -⟩ := ho.last p hp
  rw [prompts_append]
  exact List.mem_append_right _ List.mem_cons_self

theorem begin_starts (e : Editor) (s : Controller) : (s.begin e).2.any Act.starts = true := by
  unfold begin
  cases Target.ofEditor? e <;> rfl

theorem step_accepts (e : Editor) {s : Controller} {p : Nat} {i : Input}
    (hidle : ∀ p, s.outstanding = some p → s.phase = .idle) (hi : i.accepts p = true) :
    s.step e i = if s.outstanding = some p then s.begin e else (s, []) := by
  have hretry : (if s.isReady then s.retry e p else (s, [])) =
      if s.outstanding = some p then s.begin e else (s, []) := by
    by_cases hp : s.outstanding = some p
    · have hphase := hidle p hp
      rw [if_pos hp, retry_of_outstanding e hphase hp]
      simp [isReady, hphase]
    · rw [if_neg hp, retry_of_ne e hp]
      split <;> rfl
  unfold Input.accepts at hi
  split at hi
  · rw [beq_iff_eq] at hi
    subst hi
    exact hretry
  · rw [beq_iff_eq] at hi
    subst hi
    exact hretry
  · cases hi

theorem outstanding_begin (e : Editor) (s : Controller) :
    (s.begin e).1.outstanding = none ∧ (s.begin e).1.nextPrompt = s.nextPrompt := by
  unfold begin
  cases Target.ofEditor? e <;> exact ⟨rfl, rfl⟩

/-- An offer was made and is not outstanding any more. -/
def Expired (p : Nat) (s : Controller) : Prop :=
  p < s.nextPrompt ∧ s.outstanding ≠ some p

theorem Move.expired {s t : Controller} {new : List Note} {p : Nat} (move : s.Move new t)
    (hexpired : s.Expired p) : t.Expired p := by
  obtain ⟨hlt, hout⟩ := hexpired
  rcases move.keeps_or_offers with hk | hf
  · refine ⟨hk.nextPrompt ▸ hlt, ?_⟩
    rcases hk.outstanding with hnone | ⟨hsame, -⟩
    · simp [hnone]
    · rwa [hsame]
  · rw [hf.state]
    refine ⟨Nat.lt_succ_of_lt hlt, ?_⟩
    intro h
    simp only [offered, Option.some.injEq] at h
    omega

theorem Moves.expired {s t : Controller} {h : List Note} {p : Nat} (moves : s.Moves h t)
    (hexpired : s.Expired p) : t.Expired p := by
  induction moves with
  | none => exact hexpired
  | snoc _ move ih => exact move.expired ih

theorem startsFor_of_expired {p : Nat} {h : List Note} {s : Controller} (ho : Offering h s)
    (hexpired : s.Expired p) (inputs : List (Editor × Input)) : startsFor p s inputs = 0 := by
  induction inputs generalizing h s with
  | nil => rfl
  | cons input inputs ih =>
      obtain ⟨e, i⟩ := input
      have hmoves := moves_step e s i
      have hrest := ih (ho.moves hmoves) (hmoves.expired hexpired)
      have hnow : (i.accepts p && (s.step e i).2.any Act.starts) = false := by
        cases hi : i.accepts p with
        | false => rfl
        | true => simp [step_accepts e ho.idle hi, hexpired.2]
      simp [startsFor, hnow, hrest]

theorem startsFor_le_one (p : Nat) {h : List Note} {s : Controller} (ho : Offering h s)
    (inputs : List (Editor × Input)) : startsFor p s inputs ≤ 1 := by
  induction inputs generalizing h s with
  | nil => exact Nat.zero_le 1
  | cons input inputs ih =>
      obtain ⟨e, i⟩ := input
      have hmoves := moves_step e s i
      by_cases hnow : (i.accepts p && (s.step e i).2.any Act.starts) = true
      · obtain ⟨hi, hstarts⟩ := Bool.and_eq_true_iff.mp hnow
        have hp : s.outstanding = some p := by
          rw [step_accepts e ho.idle hi] at hstarts
          by_cases hp : s.outstanding = some p
          · exact hp
          · simp [hp] at hstarts
        have hexpired : (s.step e i).1.Expired p := by
          rw [step_accepts e ho.idle hi, if_pos hp]
          obtain ⟨hout, hnext⟩ := outstanding_begin e s
          exact ⟨hnext ▸ ho.lt_nextPrompt (ho.mem_of_outstanding hp), by simp [hout]⟩
        simp [startsFor, hnow, startsFor_of_expired (ho.moves hmoves) hexpired inputs]
      · simp only [startsFor, hnow, Bool.false_eq_true, ↓reduceIte, Nat.zero_add]
        exact ih (ho.moves hmoves)

theorem Offering.after_eq {h before after before' after' : List Note} {s : Controller} {p : Nat}
    (ho : Offering h s) (hh : h = before ++ .did (.offered (.ofId p)) :: after)
    (hh' : h = before' ++ .did (.offered (.ofId p)) :: after') : after = after' := by
  have hnodup : (prompts h).Nodup := by
    rw [ho.numbered]
    exact List.nodup_range'
  -- A second note of the offer would be among the notes behind the first.
  have hnot {before after : List Note} (hh : h = before ++ .did (.offered (.ofId p)) :: after)
      {more rest : List Note} : after ≠ more ++ .did (.offered (.ofId p)) :: rest := by
    rintro rfl
    rw [hh, prompts_append, List.nodup_append] at hnodup
    have hhead : (p :: prompts (more ++ .did (.offered (.ofId p)) :: rest)).Nodup := hnodup.2.1
    rw [List.nodup_cons, prompts_append] at hhead
    exact hhead.1 (List.mem_append_right _ List.mem_cons_self)
  rcases List.append_eq_append_iff.mp (hh.symm.trans hh') with ⟨more, rfl, hmore⟩ | ⟨more, rfl, hmore⟩
  · cases more with
    | nil => exact (List.cons.inj hmore).2
    | cons note more => exact absurd (List.cons.inj hmore).2 (hnot hh)
  · cases more with
    | nil => exact (List.cons.inj hmore).2.symm
    | cons note more => exact absurd (List.cons.inj hmore).2 (hnot hh')

theorem Offering.expired_of_overtaken {h before after : List Note} {s : Controller} {p : Nat}
    (ho : Offering h s) (hh : h = before ++ .did (.offered (.ofId p)) :: after)
    (hovertaken : ∃ note ∈ after, note.starts = true ∨ note.prompt?.isSome = true) :
    s.Expired p := by
  have hmem : p ∈ prompts h := by
    rw [hh, prompts_append]
    exact List.mem_append_right _ List.mem_cons_self
  refine ⟨ho.lt_nextPrompt hmem, ?_⟩
  intro hp
  obtain ⟨before', after', hh', hprompts, hstarts⟩ := ho.last p hp
  obtain rfl := ho.after_eq hh hh'
  obtain ⟨note, hnote, hstart | hprompt⟩ := hovertaken
  · simp [hstarts note hnote] at hstart
  · obtain ⟨q, hq⟩ := Option.isSome_iff_exists.mp hprompt
    have : q ∈ prompts after := List.mem_filterMap.mpr ⟨note, hnote, hq⟩
    simp [hprompts] at this

theorem Offering.expired_of_dismissed {h : List Note} {s : Controller} {p : Nat}
    (ho : Offering h s) (hp : p ∈ prompts h) : (s.dismiss p).Expired p := by
  have hlt := ho.lt_nextPrompt hp
  unfold dismiss
  split
  · exact ⟨hlt, nofun⟩
  · rename_i hout
    exact ⟨hlt, hout⟩

theorem step_openSettings (e : Editor) {s : Controller} (hready : s.isReady = true) (p : Nat) :
    s.step e (.perform (.handle (.chosen p .openSettings))) = (s.dismiss p, [.openedSettings]) := by
  simp [step, hready, perform, handle]

/-- In every run the offers are numbered 1, 2, 3 and so on; none is outstanding while there is a client
or one is being started; and an outstanding offer is the last one, with nothing started since. Accepting
an offer starts a client if the offer is outstanding and otherwise changes nothing. So each offer leads
to at most one start, and to none once it was dismissed, or something was started or offered after it. -/
theorem offers_accepted_once (inputs : List (Editor × Input)) :
    let s := (run {} inputs).1
    let h := history {} inputs
    prompts h = List.range' 1 (prompts h).length ∧
    (s.phase ≠ .idle → s.outstanding = none) ∧
    (∀ p, s.outstanding = some p → ∃ before after,
      h = before ++ .did (.offered (.ofId p)) :: after ∧ prompts after = [] ∧
        ∀ note ∈ after, note.starts = false) ∧
    (∀ e p i, Input.accepts p i = true →
      s.step e i = if s.outstanding = some p then s.begin e else (s, [])) ∧
    (∀ e p i, Input.accepts p i = true →
      ((∃ act ∈ (s.step e i).2, act.starts = true) ↔ s.outstanding = some p)) ∧
    (∀ p, startsFor p {} inputs ≤ 1) ∧
    (∀ p before after, h = before ++ .did (.offered (.ofId p)) :: after →
      (∃ note ∈ after, note.starts = true ∨ note.prompt?.isSome = true) →
      ∀ later, startsFor p s later = 0) ∧
    (∀ e p, p ∈ prompts h → s.isReady = true →
      ∀ later, startsFor p (s.step e (.perform (.handle (.chosen p .openSettings)))).1 later = 0) := by
  intro s h
  have ho : Offering h s := offering_history inputs
  refine ⟨ho.numbered, ?_, ho.last, ?_, ?_, ?_, ?_, ?_⟩
  · intro hphase
    exact Option.eq_none_iff_forall_ne_some.mpr fun p hp => hphase (ho.idle p hp)
  · intro e p i hi
    exact step_accepts e ho.idle hi
  · intro e p i hi
    rw [step_accepts e ho.idle hi]
    constructor
    · rintro ⟨act, hact, -⟩
      by_cases hp : s.outstanding = some p
      · exact hp
      · simp [hp] at hact
    · intro hp
      rw [if_pos hp]
      exact List.any_eq_true.mp (begin_starts e s)
  · intro p
    exact startsFor_le_one p offering_init inputs
  · intro p before after hh hovertaken later
    exact startsFor_of_expired ho (ho.expired_of_overtaken hh hovertaken) later
  · intro e p hp hready later
    have hmoves := moves_step e s (.perform (.handle (.chosen p .openSettings)))
    refine startsFor_of_expired (ho.moves hmoves) ?_ later
    rw [step_openSettings e hready]
    exact ho.expired_of_dismissed hp

end ServerLink.Controller

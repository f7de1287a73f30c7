import ServerLink.Proofs.Controller.Feature
import ServerLink.Proofs.Feature.Capability

namespace ServerLink

namespace Client

def Handshake.offer? : Handshake → Option Offer
  | .enter offer => some offer
  | .write _ offer => some offer
  | _ => none

/-- Whether an offer announces what features contribute. -/
def Offer.Announces (o : Offer) (features : List Feature) : Prop :=
  o.capabilities = Feature.contribute features baseCapabilities

/-- What a message announces, given the features: the base capabilities with all that the features contribute,
so that those under other names are kept. With different names, the ability to show pages is among them if a
feature shows them. -/
structure Message.Introduces (features : List Feature) (m : Message) (capabilities : Json) : Prop where
  carried : (m.toJson.get? "params").bind (·.get? "capabilities") = some capabilities
  merges : Feature.Merges baseCapabilities (features.flatMap (·.contributions)) capabilities
  base : ∀ area key, (∀ c ∈ features.flatMap (·.contributions), c.name ≠ (area, key)) →
    Feature.capability? capabilities area key = Feature.capability? baseCapabilities area key
  pages : Feature.pages ∈ features → ((features.flatMap (·.contributions)).map (·.name)).Nodup →
    Feature.capability? capabilities "experimental" "supportsShowHTML" = some (.bool true)

theorem Offer.Announces.introduces {o : Offer} {features : List Feature} (h : o.Announces features)
    (id : Nat) : (Message.introduce id o).Introduces features o.capabilities := by
  have hmerges : Feature.Merges baseCapabilities (features.flatMap (·.contributions)) o.capabilities :=
    h ▸ Feature.merges_foldl_add baseCapabilities _
  refine ⟨?_, hmerges, ?_, ?_⟩
  · simp [Message.toJson, Rpc.request, Rpc.envelope, Rpc.paramsMember, Offer.params, Json.ofFields,
      Json.get?, Assoc.ofList, Assoc.find?_insert]
  · intro area key hother
    rw [hmerges.capability?, Feature.latest?_eq_none_of_name hother, Option.none_or]
  · intro hpages hdistinct
    have hmem : ⟨"experimental", Panel.capability, .bool true⟩ ∈ features.flatMap (·.contributions) :=
      List.mem_flatMap.mpr ⟨.pages, hpages, List.mem_singleton_self _⟩
    have hlatest := Feature.latest?_of_mem hdistinct hmem
    exact (hmerges.capability? _ _).trans (congrArg (Option.or · _) hlatest)

theorem Handshake.offer_step {c d : Client} {next next' : Handshake} {acts : List Act}
    (hstep : next.step c = (.next d next', acts)) :
    (∀ id offer, .introduce id offer ∈ Client.said acts → next.offer? = some offer) ∧
      ∀ offer, next'.offer? = some offer → next.offer? = some offer ∨ offer.Announces c.features := by
  cases next <;> simp only [Handshake.step] at hstep
  case prepare =>
    split at hstep <;> cases hstep
    refine ⟨?_, ?_⟩
    · intro id offer hsaid
      rw [said_callAll] at hsaid
      cases hsaid
    · intro offer hoffer
      cases hoffer
      exact .inr rfl
  case enter offer =>
    cases hstep
    refine ⟨?_, fun _ hoffer => .inl hoffer⟩
    intro id offer hsaid
    cases hsaid
  case write id offer =>
    split at hstep <;> cases hstep
    constructor
    · intro id offer hsaid
      cases List.mem_singleton.mp hsaid
      rfl
    · intro offer hoffer
      cases hoffer
  case await =>
    split at hstep <;> cases hstep
    constructor
    · intro id offer hsaid
      cases hsaid
    · intro offer hoffer
      cases hoffer
  case settle =>
    split at hstep <;> cases hstep
    constructor
    · intro id offer hsaid
      rw [said_callAll] at hsaid
      cases hsaid
    · intro offer hoffer
      cases hoffer
  case conclude => split at hstep <;> cases hstep

end Client

namespace Controller

/-- The client of each attempt has its own features, and what it is about to offer is made of them. Attempts
that are still to come have the features that every client is given. -/
structure Announces (own : Nat → List Feature) (s : Controller) : Prop where
  later : ∀ k, s.attempts < k → own k = features
  connecting : ∀ target options, s.phase = .connecting target options → own s.attempts = features
  held : ∀ c, s.phase.client? = some c → c.features = own s.attempts
  offer : ∀ target c next offer, s.phase = .opening target c next → next.offer? = some offer →
    offer.Announces (own s.attempts)

/-- What is introduced was made of the features of the client. -/
def Announced (own : Nat → List Feature) (h : List Note) : Prop :=
  ∀ k id offer, .introduce id offer ∈ Client.said (clientActs k h) → offer.Announces (own k)

section

variable {own : Nat → List Feature} {s t : Controller} {h new : List Note}

theorem Announced.append (hh : Announced own h) (hnew : Announced own new) : Announced own (h ++ new) := by
  intro k id offer hsaid
  rw [clientActs_append, Client.said_append] at hsaid
  rcases List.mem_append.mp hsaid with hsaid | hsaid
  · exact hh k id offer hsaid
  · exact hnew k id offer hsaid

theorem Announces.of_idle (hs : Announces own s) (hattempts : t.attempts = s.attempts)
    (hidle : t.phase = .idle) : Announces own t where
  later k hk := hs.later k (hattempts ▸ hk)
  connecting target options hphase := by rw [hidle] at hphase; cases hphase
  held c hheld := by rw [hidle] at hheld; cases hheld
  offer target c next offer hphase := by rw [hidle] at hphase; cases hphase

theorem Announces.of_held (hs : Announces own s) {c d : Client} (hattempts : t.attempts = s.attempts)
    (hheld : s.phase.client? = some c) (hheld' : t.phase.client? = some d)
    (hfeatures : d.features = c.features)
    (hoffer : ∀ target d next offer, t.phase = .opening target d next → next.offer? = some offer →
      (∃ target c next, s.phase = .opening target c next ∧ next.offer? = some offer) ∨
        offer.Announces c.features) : Announces own t where
  later k hk := hs.later k (hattempts ▸ hk)
  connecting target options hphase := by rw [hphase] at hheld'; cases hheld'
  held e he := by
    rw [hattempts]
    cases hheld'.symm.trans he
    exact hfeatures.trans (hs.held c hheld)
  offer target e next offer hphase hnext := by
    rw [hattempts]
    rcases hoffer target e next offer hphase hnext with ⟨target, c, next, hphase, hnext⟩ | hannounces
    · exact hs.offer target c next offer hphase hnext
    · exact hs.held c hheld ▸ hannounces

theorem Announces.of_settled (hs : Announces own s) {c d : Client} (hattempts : t.attempts = s.attempts)
    (hheld : s.phase.client? = some c) (hheld' : t.phase.client? = some d)
    (hfeatures : d.features = c.features)
    (hopening : ∀ target d next, t.phase ≠ .opening target d next) : Announces own t :=
  hs.of_held hattempts hheld hheld' hfeatures fun target d next _ hphase =>
    absurd hphase (hopening target d next)

theorem Announces.begins (hs : Announces own s) (hbegins : s.Begins new t) : Announces own t := by
  cases hbegins with
  | disabled => exact hs.of_idle rfl rfl
  | attempted e target htarget =>
      have hown : own (s.attempts + 1) = features := hs.later _ (Nat.lt_succ_self _)
      exact {
        later := fun k hk => hs.later k (Nat.lt_of_succ_lt hk)
        connecting := fun _ _ _ => hown
        held := fun _ hheld => by cases hheld
        offer := fun _ _ _ _ hphase => by cases hphase }

theorem Announces.move (hs : Announces own s) (move : s.Move new t) : Announces own t := by
  cases move with
  | refused => exact hs
  | dismissed prompt =>
      constructor
      · simpa using hs.later
      · simpa using hs.connecting
      · simpa using hs.held
      · simpa using hs.offer
  | began _ hbegins => exact hs.begins hbegins
  | connected hphase =>
      have hown := hs.connecting _ _ hphase
      exact {
        later := hs.later
        connecting := fun _ _ hconnecting => by cases hconnecting
        held := fun c hc => by cases hc; exact hown.symm
        offer := fun _ _ _ _ hopening hnext => by cases hopening; cases hnext }
  | unreachable => exact hs.of_idle rfl rfl
  | unlaunched => exact hs.of_idle rfl rfl
  | @shook target c d _ _ _ hphase hstep =>
      have hheld : s.phase.client? = some c := by rw [hphase]; rfl
      refine hs.of_held rfl hheld rfl (Client.Handshake.unchanged_step hstep).1 ?_
      intro _ _ _ offer hopening hnext
      cases hopening
      exact ((Client.Handshake.offer_step hstep).2 offer hnext).imp_left fun hbefore =>
        ⟨_, _, _, hphase, hbefore⟩
  | @started target c d _ _ hphase hstep =>
      have hheld : s.phase.client? = some c := by rw [hphase]; rfl
      obtain ⟨-, rfl, -⟩ := handshake_done hstep
      exact hs.of_settled rfl hheld rfl rfl (by simp)
  | abandoned => exact hs.of_idle rfl rfl
  | @closed target c sequel hphase =>
      have hheld : s.phase.client? = some c := by rw [hphase]; rfl
      exact hs.of_settled rfl hheld rfl rfl (by simp)
  | @parting c d _ _ _ _ hphase hstep =>
      have hheld : s.phase.client? = some c := by rw [hphase]; rfl
      exact hs.of_settled rfl hheld rfl (Client.Farewell.features_step hstep) (by simp)
  | @gaveUp c d _ _ _ hphase hexpire =>
      have hheld : s.phase.client? = some c := by rw [hphase]; rfl
      exact hs.of_settled rfl hheld rfl (Client.Farewell.expire_eq hexpire).1 (by simp)
  | parted => exact hs.of_idle rfl rfl
  | partedOffering => exact hs.of_idle rfl rfl
  | partedBeginning _ hbegins => exact hs.begins hbegins
  | served hheld hserved =>
      refine hs.of_held rfl hheld (Phase.client?_setClient hheld _) hserved.kept.features ?_
      intro target _ next offer hopening hnext
      obtain ⟨c, hphase⟩ := Phase.opening_of_setClient hopening
      exact .inl ⟨target, c, next, hphase, hnext⟩
  | passed => exact hs
  | @told target c event hphase =>
      have hheld : s.phase.client? = some c := by rw [hphase]; rfl
      exact hs.of_settled rfl hheld rfl rfl (by simp)
  | toldFiles => exact hs

theorem introduce_not_said_of_reporting {acts : List Client.Act} (hacts : ∀ act ∈ acts, act.IsReporting)
    (id : Nat) (offer : Client.Offer) : .introduce id offer ∉ Client.said acts := fun hsaid =>
  nomatch Client.isReport_of_mem_said hacts hsaid

/-- A move introduces nobody but the client of the last attempt, with the offer that was made of its
features. -/
theorem Announces.announced (hs : Announces own s) (move : s.Move new t) : Announced own new := by
  intro k id offer hsaid
  by_cases hk : k = s.attempts
  · subst hk
    cases move with
    | shook hphase hstep =>
        rw [clientActs_clientNotes] at hsaid
        exact hs.offer _ _ _ offer hphase ((Client.Handshake.offer_step hstep).1 id offer hsaid)
    | started hphase hstep =>
        obtain ⟨-, -, rfl⟩ := handshake_done hstep
        rw [clientActs_append, clientActs_clientNotes, (silent_did _ _ rfl).acts, List.append_nil] at hsaid
        cases List.mem_singleton.mp hsaid
    | parting hphase hstep =>
        rw [clientActs_clientNotes] at hsaid
        rcases Client.Farewell.said_step hstep with hnone | ⟨n, -, hone⟩ | ⟨-, hone⟩
        · rw [hnone] at hsaid
          cases hsaid
        · rw [hone] at hsaid
          cases List.mem_singleton.mp hsaid
        · rw [hone] at hsaid
          cases List.mem_singleton.mp hsaid
    | served hheld hserved =>
        rw [clientActs_append, clientActs_heard, clientActs_clientNotes, List.nil_append,
          Client.said_of_aside hserved.aside] at hsaid
        cases hsaid
    | @told target c event =>
        rw [clientActs_reported, clientActs_clientNotes] at hsaid
        exact absurd hsaid (introduce_not_said_of_reporting
          (c.isReporting_report event.url.text event.language event.deed) id offer)
    | @toldFiles target c changes =>
        rw [clientActs_clientNotes] at hsaid
        exact absurd hsaid (introduce_not_said_of_reporting (c.isReporting_write rfl) id offer)
    | began _ hbegins =>
        rw [(hbegins.silent _).acts] at hsaid
        cases hsaid
    | partedBeginning _ hbegins =>
        rw [clientActs_append, clientActs_clientNotes, (hbegins.silent _).acts] at hsaid
        cases hsaid
    | _ =>
        simp [clientActs, clientNotes, Note.clientAct?, Client.said, Client.Act.said?] at hsaid
  · rw [(move.silent hk).acts] at hsaid
    cases hsaid

theorem Announces.announced_history (hs : Announces own s) (inputs : List (Editor × Input)) :
    Announced own (s.history inputs) := by
  have hall (h : List Note) (t : Controller) (moves : Moves s h t) : Announces own t ∧ Announced own h := by
    induction moves with
    | none => exact ⟨hs, nofun⟩
    | snoc _ move ih => exact ⟨ih.1.move move, ih.2.append (ih.1.announced move)⟩
  exact (hall _ _ (moves_history s inputs)).2

end

theorem announces_fresh : Announces (fun _ => features) {} where
  later _ _ := rfl
  connecting _ _ hphase := by cases hphase
  held _ hheld := by cases hheld
  offer _ _ _ _ hphase := by cases hphase

theorem announces_opens (target : Target) (options : Client.Options) (first : List Feature) :
    Announces (fun k => if k = 1 then first else features) (opens target options first) where
  later k hk := if_neg (Nat.ne_of_gt hk)
  connecting _ _ hconnecting := by cases hconnecting
  held c hc := by
    cases hc
    rfl
  offer _ _ _ _ hopening hnext := by
    cases hopening
    cases hnext

/-- Contributions to capabilities of any shape are made without failing, in any order if their names are
different; each is then there, and under one name the last of several. Every other entry of an object is kept,
and there is nothing else. So every client that introduces itself announces the base capabilities under the
names to which its features do not contribute, and that it shows pages if it has the feature for it. -/
theorem contributions_merge_independently (target : Target) (options : Client.Options)
    (first : List Feature) :
    (∀ (capabilities : Json) (cs : List Feature.Contribution),
      let merged := cs.foldl Feature.Contribution.add capabilities
      cs.foldlM Feature.assignInto? capabilities = some merged ∧
        Feature.Merges capabilities cs merged ∧
        (∀ area key, Feature.capability? merged area key =
          (Feature.latest? cs area key).or (Feature.capability? capabilities area key)) ∧
        (Feature.Orderly capabilities → Feature.Orderly merged) ∧
        ((cs.map (·.name)).Nodup →
          (∀ ds, cs.Perm ds → ds.foldl Feature.Contribution.add capabilities = merged) ∧
            ∀ c ∈ cs, Feature.capability? merged c.area c.key = some c.value)) ∧
      (∀ inputs k id offer,
        .introduce id offer ∈ Client.said (clientActs k (history (opens target options first) inputs)) →
          (Client.Message.introduce id offer).Introduces (if k = 1 then first else features)
            offer.capabilities) ∧
      ∀ inputs k id offer, .introduce id offer ∈ Client.said (clientActs k (history {} inputs)) →
        (Client.Message.introduce id offer).Introduces features offer.capabilities := by
  refine ⟨fun capabilities cs => ?_, fun inputs k id offer hsaid => ?_, fun inputs k id offer hsaid => ?_⟩
  · have hmerges := Feature.merges_foldl_add capabilities cs
    refine ⟨Feature.foldlM_assignInto? capabilities cs, hmerges, hmerges.capability?, fun h => h.foldl_add cs,
      fun hdistinct => ⟨fun ds hperm => ?_, fun c hc => ?_⟩⟩
    · exact (Feature.foldl_add_perm hperm hdistinct capabilities).symm
    · rw [hmerges.capability?, Feature.latest?_of_mem hdistinct hc, Option.some_or]
  · exact ((announces_opens target options first).announced_history inputs k id offer hsaid).introduces id
  · exact (announces_fresh.announced_history inputs k id offer hsaid).introduces id

/-- The start of a client with a feature that contributes to a section with base capabilities, and with the
feature that shows pages. -/
def opensTwo : Controller :=
  opens (.port ⟨5007⟩) {} [{ contributions := [⟨"workspace", "applyEdit", .bool true⟩] }, .pages]

theorem contributions_merge_independently_two :
    let scalars : Json := .object [("experimental", .nat 1), ("window", .array []), ("workspace", .null)]
    let one : Feature.Contribution := ⟨"window", "progress", .bool true⟩
    let other : Feature.Contribution := ⟨"window", "messages", .nat 2⟩
    [one, other].foldlM Feature.assignInto? scalars = [other, one].foldlM Feature.assignInto? scalars ∧
      Feature.capability? ([one, other].foldl Feature.Contribution.add scalars) "window" "progress" =
        some (.bool true) ∧
      ∃ offer, .introduce 1 offer ∈ Client.said (clientActs 1 (history opensTwo
          (List.replicate 3 (⟨{}, ⟨[]⟩, none, 0⟩, .proceed)))) ∧
        Feature.capability? offer.capabilities "workspace" "configuration" =
          Feature.capability? Client.baseCapabilities "workspace" "configuration" ∧
        Feature.capability? offer.capabilities "experimental" "supportsShowHTML" = some (.bool true) := by
  intro scalars one other
  obtain ⟨hmerges, hfirst, -⟩ := contributions_merge_independently (.port ⟨5007⟩) {}
    [{ contributions := [⟨"workspace", "applyEdit", .bool true⟩] }, .pages]
  obtain ⟨hmade, -, -, -, hdistinct⟩ := hmerges scalars [one, other]
  obtain ⟨hperm, hpresent⟩ := hdistinct (by decide)
  have hswap := hperm [other, one] (List.Perm.swap other one [])
  have hmade' := (hmerges scalars [other, one]).1
  have hsaid : Client.said (clientActs 1 (history opensTwo
      (List.replicate 3 (⟨{}, ⟨[]⟩, none, 0⟩, .proceed)))) = [.introduce 1 _] := rfl
  have hmem := hsaid ▸ List.mem_singleton_self _
  have hintroduces := hfirst _ 1 1 _ hmem
  refine ⟨hmade.trans (hswap ▸ hmade'.symm), hpresent one (List.mem_cons_self ..), _, hmem, ?_, ?_⟩
  · exact hintroduces.base "workspace" "configuration" (by decide)
  · exact hintroduces.pages (List.mem_cons_of_mem _ (List.mem_cons_self ..)) (by decide)

end Controller

end ServerLink

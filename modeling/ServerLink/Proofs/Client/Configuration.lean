import Mathlib.Data.List.Forall2
import ServerLink.Client.Basic
import ServerLink.Proofs.Text.Split

namespace ServerLink.Client

/-- Keys lead from a value to one inside it, through objects only. -/
inductive Leads : Json → List String → Json → Prop where
  | here (j : Json) : Leads j [] j
  | into {fields : List (String × Json)} {key : String} {inner target : Json} {keys : List String}
      (hmember : Assoc.find? key fields = some inner) (hrest : Leads inner keys target) :
      Leads (.object fields) (key :: keys) target

/-- The keys of a section: its name is the keys with dots between them. -/
structure IsPathOf (keys : List String) (area : String) : Prop where
  joined : ".".intercalate keys = area
  dotless : ∀ key ∈ keys, '.' ∉ key.toList

/-- What a section that has a name stands for: what its keys lead to, and `null` if they lead nowhere. -/
inductive Names (settings : Json) (area : String) : Json → Prop where
  | inside {keys : List String} {value : Json} (hpath : IsPathOf keys area)
      (hleads : Leads settings keys value) : Names settings area value
  | missing {keys : List String} (hpath : IsPathOf keys area)
      (hnowhere : ∀ value, ¬ Leads settings keys value) : Names settings area .null

/-- What a requested item is given. -/
inductive Given (settings item : Json) : Json → Prop where
  | all (hunnamed : ∀ area, item.get? "section" = some (.string area) → area = "") :
      Given settings item settings
  | part {area : String} {value : Json} (harea : item.get? "section" = some (.string area))
      (hne : area ≠ "") (hnames : Names settings area value) : Given settings item value

theorem follow?_eq_some_iff {j target : Json} {keys : List String} :
    follow? j keys = some target ↔ Leads j keys target := by
  constructor
  · intro h
    induction keys generalizing j with
    | nil =>
        cases h
        exact .here _
    | cons key keys ih =>
        obtain ⟨inner, hmember, hrest⟩ := Option.bind_eq_some_iff.mp h
        cases j with
        | object fields => exact .into hmember (ih hrest)
        | _ => cases hmember
  · intro h
    induction h with
    | here => rfl
    | into hmember _ ih => simp [follow?, Json.get?, hmember, ih]

theorem follow?_append (j : Json) (keys more : List String) :
    follow? j (keys ++ more) = (follow? j keys).bind (follow? · more) := by
  induction keys generalizing j with
  | nil => rfl
  | cons key keys ih => simp [follow?, Option.bind_assoc, ih]

theorem follow?_null {keys : List String} (hne : keys ≠ []) : follow? .null keys = none := by
  cases keys with
  | nil => exact absurd rfl hne
  | cons key keys => rfl

theorem isPathOf_iff {keys : List String} {area : String} (hne : area ≠ "") :
    IsPathOf keys area ↔ keys = sectionKeys area := by
  have hjoined (keys : List String) : ".".intercalate keys = area ↔
      Text.joinWith '.' (keys.map String.toList) = area.toList := by
    rw [Text.joinWith_eq_intercalate, ← String.toList_inj, String.toList_intercalate]
    rfl
  constructor
  · rintro ⟨hkeys, hdotless⟩
    have hparts : keys.map String.toList ≠ [] := by
      rintro hnil
      rw [List.map_eq_nil_iff.mp hnil] at hkeys
      exact hne hkeys.symm
    have hdots : ∀ p ∈ keys.map String.toList, '.' ∉ p := by simpa using hdotless
    have hsplit := Text.splitOn_joinWith hparts hdots
    rw [(hjoined keys).mp hkeys] at hsplit
    simp [sectionKeys, hsplit, Function.comp_def]
  · rintro rfl
    refine ⟨(hjoined _).mpr ?_, ?_⟩
    · simp [sectionKeys, Function.comp_def, Text.joinWith_splitOn]
    · intro key hkey
      obtain ⟨part, hpart, rfl⟩ := List.mem_map.mp hkey
      simpa using Text.notMem_of_mem_splitOn part hpart

theorem sectionKeys_ne_nil (area : String) : sectionKeys area ≠ [] := by
  simpa [sectionKeys] using Text.splitOn_ne_nil '.' area.toList

theorem sectionKeys_append (a b : String) :
    sectionKeys (a ++ "." ++ b) = sectionKeys a ++ sectionKeys b := by
  have htext : (a ++ "." ++ b).toList = a.toList ++ '.' :: b.toList := by simp
  rw [sectionKeys, htext, Text.splitOn_append_cons, List.map_append]
  rfl

theorem names_iff {settings value : Json} {area : String} (hne : area ≠ "") :
    Names settings area value ↔ lookUp settings area = value := by
  rw [lookUp, if_neg hne]
  constructor
  · rintro (⟨hpath, hleads⟩ | ⟨hpath, hnowhere⟩)
    · rw [← (isPathOf_iff hne).mp hpath, follow?_eq_some_iff.mpr hleads]
      rfl
    · have hnone : follow? settings (sectionKeys area) = none := by
        refine Option.eq_none_iff_forall_ne_some.mpr fun value h => hnowhere value ?_
        rw [(isPathOf_iff hne).mp hpath]
        exact follow?_eq_some_iff.mp h
      rw [hnone]
      rfl
  · rintro rfl
    have hpath := (isPathOf_iff hne).mpr rfl
    cases hfollow : follow? settings (sectionKeys area) with
    | none =>
        refine .missing hpath fun value hleads => ?_
        rw [follow?_eq_some_iff.mpr hleads] at hfollow
        cases hfollow
    | some value => exact .inside hpath (follow?_eq_some_iff.mp hfollow)

theorem lookUp_append {a b : String} (ha : a ≠ "") (hb : b ≠ "") (settings : Json) :
    lookUp settings (a ++ "." ++ b) = lookUp (lookUp settings a) b := by
  have hab : a ++ "." ++ b ≠ "" := by simp
  rw [lookUp, if_neg hab, lookUp, if_neg hb, lookUp, if_neg ha, sectionKeys_append, follow?_append]
  cases follow? settings (sectionKeys a) with
  | none =>
      have hnull : follow? (Json.ofOption none) (sectionKeys b) = none :=
        follow?_null (sectionKeys_ne_nil b)
      rw [hnull]
      rfl
  | some inner => rfl

theorem given_lookUp (settings item : Json) :
    Given settings item (lookUp settings (((item.get? "section").bind Json.string?).getD "")) := by
  cases harea : (item.get? "section").bind Json.string? with
  | none =>
      refine .all fun area h => ?_
      rw [h] at harea
      cases harea
  | some area =>
      have hsection : item.get? "section" = some (.string area) := by
        obtain ⟨j, hj, hstring⟩ := Option.bind_eq_some_iff.mp harea
        cases j with
        | string s =>
            cases hstring
            exact hj
        | _ => cases hstring
      by_cases hne : area = ""
      · subst hne
        refine .all fun other hother => ?_
        rw [hsection] at hother
        cases hother
        rfl
      · exact .part hsection hne ((names_iff hne).mpr rfl)

theorem forall₂_requestedSettings {params : Option Json} {items : List Json}
    (hitems : params.bind (·.get? "items") = some (.array items)) (settings : Json) :
    List.Forall₂ (Given settings) items (requestedSettings settings params) := by
  have hlist : (params.bind (·.get? "items")).bind Json.items? = some items := by rw [hitems]; rfl
  rw [requestedSettings, hlist, Option.getD_some, List.forall₂_map_right_iff]
  exact List.forall₂_same.mpr fun item _ => given_lookUp settings item

theorem requestedSettings_of_no_items {params : Option Json}
    (hnone : ∀ items, params.bind (·.get? "items") ≠ some (.array items)) (settings : Json) :
    requestedSettings settings params = [] := by
  have hitems : (params.bind (·.get? "items")).bind Json.items? = none := by
    refine Option.eq_none_iff_forall_ne_some.mpr fun items h => ?_
    obtain ⟨j, hj, hj'⟩ := Option.bind_eq_some_iff.mp h
    cases j with
    | array elements => exact hnone elements hj
    | _ => cases hj'
  rw [requestedSettings, hitems]
  rfl

theorem dispatch_of_configuration (c : Client) {frame id : Json} (hid : frame.get? "id" = some id)
    (hmethod : frame.get? "method" = some (.string "workspace/configuration")) :
    c.dispatch frame = (c, c.write (.reply id
      (.result (.array (requestedSettings c.options.settings (frame.get? "params")))))) := by
  have hframe : Rpc.Incoming.ofFrame? frame =
      some (.request id "workspace/configuration" (frame.get? "params")) := by
    simp [Rpc.Incoming.ofFrame?, hid, hmethod, Json.string?]
  simp only [dispatch, hframe]
  rfl

/-- Whatever the settings and the parameters, a request for settings is answered with one entry for each
requested item, in their order, and with none if there is no list of items; the client stays as it is. Looking
up a section is following its keys, and going on from a section to one inside it is looking up the two with a
dot between them. -/
theorem settings_given_item_by_item (c : Client) {frame id : Json} (hid : frame.get? "id" = some id)
    (hmethod : frame.get? "method" = some (.string "workspace/configuration")) :
    (∃ (entries : List Json) (reply : Message), c.dispatch frame = (c, c.write reply) ∧
      reply.toJson = .ofFields [("jsonrpc", .string "2.0"), ("id", id), ("result", .array entries)] ∧
      (∀ items, (frame.get? "params").bind (·.get? "items") = some (.array items) →
        List.Forall₂ (Given c.options.settings) items entries) ∧
      ((∀ items, (frame.get? "params").bind (·.get? "items") ≠ some (.array items)) → entries = [])) ∧
    (∀ (tree value : Json) (area : String), area ≠ "" →
      (Names tree area value ↔ lookUp tree area = value)) ∧
    ∀ (tree : Json) (a b : String), a ≠ "" → b ≠ "" →
      lookUp tree (a ++ "." ++ b) = lookUp (lookUp tree a) b := by
  refine ⟨⟨_, _, c.dispatch_of_configuration hid hmethod, rfl, ?_, ?_⟩, ?_, ?_⟩
  · exact fun items hitems => forall₂_requestedSettings hitems _
  · exact fun hnone => requestedSettings_of_no_items hnone _
  · exact fun tree value area hne => names_iff hne
  · exact fun tree a b ha hb => lookUp_append ha hb tree

def askingFor (items : List Json) : Json :=
  .object [("id", .nat 3), ("method", .string "workspace/configuration"),
    ("params", .object [("items", .array items)])]

def inSection (area : String) : Json :=
  .object [("section", .string area)]

/-- Settings with an empty key, and with a `null` where a section may go on. -/
def sparse : Json :=
  .object [("a", .object [("", .nat 1), ("b", .null)]), ("c", .array [.nat 2])]

theorem settings_given_item_by_item_sparse :
    let c : Client := { options := { settings := sparse }, features := [] }
    let items : List Json := [inSection "a.", inSection "a.b.c", inSection "c.0", inSection "", .nat 7]
    (∃ (entries : List Json) (reply : Message), c.dispatch (askingFor items) = (c, c.write reply) ∧
      reply.toJson =
        .ofFields [("jsonrpc", .string "2.0"), ("id", .nat 3), ("result", .array entries)] ∧
      List.Forall₂ (Given sparse) items entries) ∧
    requestedSettings sparse ((askingFor items).get? "params") =
      [.nat 1, .null, .null, sparse, sparse] ∧
    lookUp sparse ("a" ++ "." ++ "b.c") = lookUp (lookUp sparse "a") "b.c" := by
  intro c items
  have hid : (askingFor items).get? "id" = some (.nat 3) := rfl
  obtain ⟨⟨entries, reply, hdispatch, hreply, hgiven, -⟩, -, happend⟩ :=
    c.settings_given_item_by_item hid rfl
  exact ⟨⟨entries, reply, hdispatch, hreply, hgiven items rfl⟩, by rfl,
    happend sparse "a" "b.c" (by decide) (by decide)⟩

end ServerLink.Client

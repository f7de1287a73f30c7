import ServerLink.Panel.Message

namespace ServerLink.Panel.Message

/-- What a message asks for. -/
inductive Asks : Message → Option Request → Prop where
  | get (text : String) : Asks ⟨"action", text⟩ (some (.get text))
  | form (url body : String) (hurl : '?' ∉ url.toList) :
      Asks ⟨"configuration", url ++ "?" ++ body⟩ (some (.post url body))
  | bare (text : String) (htext : '?' ∉ text.toList) :
      Asks ⟨"configuration", text⟩ (some (.post text ""))
  | other (m : Message) (haction : m.command ≠ "action") (hform : m.command ≠ "configuration") :
      Asks m none

theorem form_of_separator {url : String} (hurl : '?' ∉ url.toList) (body : String) :
    form (url ++ "?" ++ body) = (url, body) := by
  have htext : (url ++ "?" ++ body).toList = url.toList ++ '?' :: body.toList := by simp
  simp only [form, formSeparator, htext, Text.splitOnce_append hurl, String.ofList_toList]

theorem form_of_bare {text : String} (htext : '?' ∉ text.toList) : form text = (text, "") := by
  simp only [form, formSeparator, Text.splitOnce_eq_none_iff.mpr htext]

theorem asks_form (text : String) :
    Asks ⟨"configuration", text⟩ (some (.post (form text).1 (form text).2)) := by
  cases hsplit : Text.splitOnce '?' text.toList with
  | none =>
      have htext := Text.splitOnce_eq_none_iff.mp hsplit
      rw [form_of_bare htext]
      exact .bare text htext
  | some parts =>
      obtain ⟨hparts, hurl⟩ := Text.eq_append_of_splitOnce hsplit
      have hurl' : '?' ∉ (String.ofList parts.1).toList := by simpa using hurl
      obtain rfl : String.ofList parts.1 ++ "?" ++ String.ofList parts.2 = text := by
        rw [← String.toList_inj, hparts]
        simp
      rw [form_of_separator hurl']
      exact .form _ _ hurl'

theorem asks_iff {m : Message} {r : Option Request} : m.Asks r ↔ m.request? = r := by
  constructor
  · intro h
    cases h with
    | get text => rfl
    | form url body hurl => simp [request?, form_of_separator hurl]
    | bare text htext => simp [request?, form_of_bare htext]
    | other _ haction hform => simp [request?, haction, hform]
  · rintro rfl
    obtain ⟨command, text⟩ := m
    unfold request?
    split
    · rename_i haction
      cases haction
      exact .get text
    · rename_i haction
      split
      · rename_i hform
        cases hform
        exact asks_form text
      · rename_i hform
        exact .other _ haction hform

end ServerLink.Panel.Message

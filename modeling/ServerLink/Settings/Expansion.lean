import ServerLink.Environment
import ServerLink.Settings.Basic
import ServerLink.Text.Split
/-!
References to the environment in settings: a dollar sign and a name in braces stand for the value
under the name, and for nothing where there is none. Values are not searched for references.
-/

namespace ServerLink.Settings

def splitAtReference : List Char → Option (List Char × List Char)
  | '$' :: '\x7b' :: s => some ([], s)
  | [] => none
  | c :: s => (splitAtReference s).map fun p => (c :: p.1, p.2)

theorem length_lt_of_splitAtReference {s a b : List Char}
    (h : splitAtReference s = some (a, b)) : b.length < s.length := by
  fun_induction splitAtReference s generalizing a with
  | case1 s =>
      simp only [Option.some.injEq, Prod.mk.injEq] at h
      simp only [h.2, List.length_cons]
      omega
  | case2 => simp at h
  | case3 c s _ ih =>
      simp only [Option.map_eq_some_iff, Prod.mk.injEq] at h
      obtain ⟨⟨p, q⟩, hp, _, rfl⟩ := h
      exact Nat.lt_succ_of_lt (ih hp)

theorem length_lt_of_splitOnce {s a b : List Char} {sep : Char}
    (h : Text.splitOnce sep s = some (a, b)) : b.length < s.length := by
  rw [(Text.eq_append_of_splitOnce h).1]
  simp only [List.length_append, List.length_cons]
  omega

/-- Replaces every reference by the value of its name; a reference that is not closed, and all behind
it, stays as it is. -/
def expandWith (value : List Char → List Char) (s : List Char) : List Char :=
  match h : splitAtReference s with
  | none => s
  | some (before, opened) =>
      match h' : Text.splitOnce '\x7d' opened with
      | none => s
      | some (name, rest) =>
          have := length_lt_of_splitAtReference h
          have := length_lt_of_splitOnce h'
          before ++ value name ++ expandWith value rest
termination_by s.length

def namesIn (s : List Char) : List (List Char) :=
  match h : splitAtReference s with
  | none => []
  | some (_, opened) =>
      match h' : Text.splitOnce '\x7d' opened with
      | none => []
      | some (name, rest) =>
          have := length_lt_of_splitAtReference h
          have := length_lt_of_splitOnce h'
          name :: namesIn rest
termination_by s.length

/-- The text that stands for a name: its value, or nothing if it has none or one that is no text. -/
def referred (env : Environment) (name : List Char) : List Char :=
  ((env.text? (String.ofList name)).getD "").toList

def expandText (env : Environment) (s : String) : String :=
  String.ofList (expandWith (referred env) s.toList)

/-- Replaces the references in the settings that may hold some. -/
def expand (env : Environment) (s : Settings) : Settings :=
  { s with
    executable := expandText env s.executable
    artifact := s.artifact.map fun p => Path.ofText (expandText env p.text)
    extraction := {
      androidPlatforms := expandText env s.extraction.androidPlatforms
      sootPath := expandText env s.extraction.sootPath } }

def texts (s : Settings) : List String :=
  [s.executable, s.extraction.androidPlatforms, s.extraction.sootPath] ++
    (s.artifact.map Path.text).toList

def names (s : Settings) : List String :=
  s.texts.flatMap fun text => (namesIn text.toList).map String.ofList

end ServerLink.Settings

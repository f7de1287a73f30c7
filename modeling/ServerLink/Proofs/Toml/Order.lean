import Mathlib.Data.List.Infix
import Mathlib.Data.List.Triplewise
import ServerLink.Proofs.Toml.Arrangement

/-!
Lines that are written in the order in which they were read. Each header keeps its place. The entries behind a
header do so if those with keys in common stand together, and if no path leads into a table that a header has
opened before.
-/

namespace ServerLink.Toml

abbrev Mark := Gist × List (List Char)

def Gist.path : Gist → List String
  | .entry path _ => path
  | .header _ path => path

/-- Entries with keys in common stand together. -/
def Together (paths : List (List String)) : Prop :=
  paths.Triplewise fun p q r => ∀ common ∈ p.inits, common <+: r → common <+: q

/-- What lines say is in order behind entries with the paths `own`, of which the last header is that of the
table `current`: entries with keys in common stand together, and no path leads into a table that one of the
headers has opened. -/
def InOrder (headers : List (List String)) (current : List String) (own : List (List String)) :
    List Gist → Prop
  | [] => True
  | .entry path _ :: gists =>
      Together (own ++ [path]) ∧
        (path.length = 1 ∨ ∀ header ∈ headers, ¬ current ++ path.take 1 <+: header) ∧
        InOrder headers current (own ++ [path]) gists
  | .header _ path :: gists => InOrder (headers ++ [path]) path [] gists

instance decidableTriplewise {α : Type} {p : α → α → α → Prop} [∀ a b c, Decidable (p a b c)] :
    ∀ l : List α, Decidable (l.Triplewise p)
  | [] => isTrue .nil
  | _ :: l =>
      have := decidableTriplewise (p := p) l
      decidable_of_iff _ List.triplewise_cons.symm

instance (paths : List (List String)) : Decidable (Together paths) :=
  decidableTriplewise paths

instance decidableInOrder (headers : List (List String)) (current : List String)
    (own : List (List String)) : ∀ gists, Decidable (InOrder headers current own gists)
  | [] => isTrue trivial
  | .entry path _ :: gists =>
      have := decidableInOrder headers current (own ++ [path]) gists
      inferInstanceAs (Decidable (_ ∧ _ ∧ _))
  | .header _ path :: gists => decidableInOrder (headers ++ [path]) path [] gists

theorem Together.of_map_cons {name : String} {paths : List (List String)}
    (h : Together (paths.map (name :: ·))) : Together paths := by
  refine (List.triplewise_map.mp h).imp fun {p q r} h common hp hr => ?_
  have hq := h (name :: common) (by simpa using hp) (List.cons_prefix_cons.mpr ⟨rfl, hr⟩)
  exact (List.cons_prefix_cons.mp hq).2

/-- Between two paths with the same first key there is none with another one. -/
theorem Together.between {name : String} {before between : List (List String)} {p q r : List String}
    (h : Together (before ++ (between ++ [name :: r]))) (hp : name :: p ∈ before) (hq : q ∈ between) :
    q.head? = some name := by
  have hbehind := (List.triplewise_append.mp h).2.2.1 _ hp
  have hq := (List.pairwise_append.mp hbehind).2.2 q hq _ (List.mem_singleton_self _)
  have hprefix := hq [name] (by simp) (by simp)
  cases q with
  | nil => simp at hprefix
  | cons other q =>
      rw [List.cons_prefix_cons] at hprefix
      exact congrArg some hprefix.1.symm

namespace Entries

variable {m : Manner} {own depth : Nat} {owned : Bool}

/-- An entry that is there stands between others, and may be replaced where it stands. -/
theorem exists_of_find? {name : String} {old : Item} {es : Entries} (hfind : find? name es = some old) :
    ∃ before k after, es = before ++ (k, old) :: after ∧ k.name = name ∧
      remove name es = before ++ after ∧ ∀ new, replace name new es = before ++ (k, new) :: after := by
  induction es with
  | nil => cases hfind
  | cons e es ih =>
      obtain ⟨k, j⟩ := e
      rw [find?_cons] at hfind
      split at hfind
      · rename_i hk
        cases hfind
        exact ⟨[], k, es, rfl, hk, by simp [remove, hk], fun new => by simp [replace, hk]⟩
      · rename_i hk
        obtain ⟨before, l, after, rfl, hl, hremove, hreplace⟩ := ih hfind
        exact ⟨(k, j) :: before, l, after, rfl, hl, by simp [remove, hk, hremove],
          fun new => by simp [replace, hk, hreplace]⟩

theorem sections_append (path : List Key) (es fs : Entries) :
    sections path (es ++ fs) = sections path es ++ sections path fs := by
  induction es with
  | nil => rfl
  | cons e es ih =>
      obtain ⟨k, i⟩ := e
      simp [sections, ih]

theorem name_of_mem_ownLines {path : List Key} {es : Entries} {l : Line} (h : l ∈ ownLines path es) :
    ∃ k rest space v, k.name ∈ names es ∧ l = .entry (path ++ k :: rest) space v := by
  induction es with
  | nil => cases h
  | cons e es ih =>
      obtain ⟨k, i⟩ := e
      rcases List.mem_append.mp h with h | h
      · obtain ⟨rest, space, v, rfl⟩ := mem_itemLines h
        exact ⟨k, rest, space, v, List.mem_cons_self, by rw [List.append_assoc]; rfl⟩
      · obtain ⟨l, rest, space, v, hl, rfl⟩ := ih h
        exact ⟨l, rest, space, v, List.mem_cons_of_mem _ hl, rfl⟩

def ownPaths (es : Entries) : List (List String) :=
  (ownLines [] es).map (·.gist.path)

theorem ownPaths_append (es fs : Entries) : ownPaths (es ++ fs) = ownPaths es ++ ownPaths fs := by
  rw [ownPaths, ownLines_append, List.map_append, ownPaths, ownPaths]

theorem ownPaths_table (k : Key) (inside es : Entries) :
    ownPaths ((k, .table .dotted inside) :: es) = (ownPaths inside).map (k.name :: ·) ++ ownPaths es := by
  rw [ownPaths, ownLines, itemLines, List.nil_append, ownLines_eq_map, List.map_append, ownPaths, ownPaths,
    List.map_map, List.map_map]
  refine congrArg (· ++ _) (List.map_congr_left fun l hl => ?_)
  obtain ⟨rest, space, v, -, rfl⟩ := mem_ownLines hl
  rfl

theorem mark_entry {path path' : List Key} (hnames : path.map (·.name) = path'.map (·.name))
    (hlead : lead path = lead path') (space : Space) (v : Value) :
    (Line.entry path space v).mark = (Line.entry path' space v).mark := by
  rw [Line.mark, Line.mark, Line.gist, Line.gist, hnames, Line.comments, Line.comments, hlead]

/-- When a path stands together with the own lines of a table and begins with the key of a table inside that has
lines, then nothing behind that table has lines, and the rest of the path stands together with those inside. -/
theorem last_of_together {name : String} {es inside : Entries} {rest : List String}
    (hfind : find? name es = some (.table .dotted inside)) (hnodup : (names es).Nodup)
    (hlines : ownPaths inside ≠ []) (htogether : Together (ownPaths es ++ [name :: rest])) :
    ∃ before k after, es = before ++ (k, .table .dotted inside) :: after ∧ k.name = name ∧
      (∀ new, replace name new es = before ++ (k, new) :: after) ∧ ownLines [] after = [] ∧
      Together (ownPaths inside ++ [rest]) := by
  obtain ⟨before, k, after, rfl, hk, -, hreplace⟩ := exists_of_find? hfind
  have hpaths : ownPaths (before ++ (k, .table .dotted inside) :: after) ++ [name :: rest] =
      ownPaths before ++ ((ownPaths inside).map (name :: ·) ++ (ownPaths after ++ [name :: rest])) := by
    rw [ownPaths_append, ownPaths_table, hk]
    simp
  rw [hpaths] at htogether
  have hlast : Together _ := (List.triplewise_append.mp htogether).2.1
  have hafter : ownLines [] after = [] := by
    obtain ⟨p, ps, hp⟩ := List.exists_cons_of_ne_nil hlines
    have hp : name :: p ∈ (ownPaths inside).map (name :: ·) :=
      List.mem_map_of_mem (hp ▸ List.mem_cons_self)
    refine List.eq_nil_iff_forall_not_mem.mpr fun line hline => ?_
    have hhead := hlast.between hp (List.mem_map_of_mem hline)
    obtain ⟨l, more, space, v, hl, rfl⟩ := name_of_mem_ownLines hline
    rw [names_append, names_cons] at hnodup
    have hsame : l.name = name := by simpa [Line.gist, Gist.path] using hhead
    exact (List.nodup_cons.mp (List.nodup_append.mp hnodup).2.1).1 (hk.trans hsame.symm ▸ hl)
  have hnone : ownPaths after = [] := by rw [ownPaths, hafter, List.map_nil]
  have hinner : Together ((ownPaths inside ++ [rest]).map (name :: ·)) := by
    simpa [hnone] using hlast
  exact ⟨before, k, after, rfl, hk, hreplace, hafter, hinner.of_map_cons⟩

/-- An entry is added behind the own lines of a table if it stands together with them, and if what stands under
its first key of several holds no headers. -/
theorem addValue_order {start : Bool} {kind : TableKind} {space : Space} {v : Value} {path : List Key}
    {es es' : Entries} (h : addValue start kind (.value space v) path es = some es')
    (hes : Sound m own depth true es) (htogether : Together (ownPaths es ++ [path.map (·.name)]))
    (hfree : ∀ k l rest i, path = k :: l :: rest → find? k.name es = some i → itemPlaces i = []) :
    (∀ pre, (ownLines pre es').map Line.mark =
      (ownLines pre es).map Line.mark ++ [(Line.entry (pre ++ path) space v).mark]) ∧
      ∀ pre, sections pre es' = sections pre es := by
  fun_induction addValue start kind (.value space v) path es generalizing own depth es' with
  | case1 | case2 | case5 | case6 | case8 => cases h
  | case3 start kind k es =>
      cases h
      refine ⟨fun pre => ?_, fun pre => ?_⟩
      · simp [ownLines_append, ownLines, itemLines]
      · simp [sections_append, sections, itemSections]
  | case4 start kind k l path es hnone ih =>
      obtain ⟨inside, hinside, heq⟩ := Option.bind_eq_some_iff.mp h
      cases heq
      have hnew : Sound m (own + 1) (depth + 1) true [] := sound_nil
      obtain ⟨hmarks, hsections⟩ := ih hinside hnew (.cons .nil .nil)
        (fun _ _ _ _ _ hfind => by cases hfind)
      refine ⟨fun pre => ?_, fun pre => ?_⟩
      · have hmarks := hmarks (pre ++ [k])
        simpa [ownLines_append, ownLines, itemLines] using hmarks
      · simp [sections_append, sections, itemSections, ownSection, hsections]
  | case7 start kind k l path es old inside hfind hkind ih =>
      obtain ⟨inside', hinside, heq⟩ := Option.bind_eq_some_iff.mp h
      cases heq
      obtain ⟨-, hnone⟩ := List.append_eq_nil_iff.mp (hfree k l path _ rfl hfind)
      obtain ⟨k', -, -, -, hfit⟩ := hes.find hfind
      obtain rfl : old = .dotted := by
        cases old with
        | headed place space => exact absurd rfl (hkind place space)
        | implied => exact absurd hnone hfit.2.1
        | dotted => rfl
      obtain ⟨-, -, hlines, hnodup, hfits⟩ := hfit
      have hpaths : ownPaths inside ≠ [] := fun hnil =>
        hlines.resolve_right (fun hne => hne hnone) (List.map_eq_nil_iff.mp hnil)
      obtain ⟨before, key, after, rfl, hkey, hreplace, hafter, hinner⟩ :=
        last_of_together hfind hes.nodup hpaths htogether
      obtain ⟨hmarks, hsections⟩ := ih hinside ⟨hnodup, hfits⟩ hinner fun k l rest i _ hfind => by
        obtain ⟨k', hmem, -⟩ := mem_of_find? hfind
        exact List.eq_nil_of_subset_nil (hnone ▸ itemPlaces_subset hmem)
      refine ⟨fun pre => ?_, fun pre => ?_⟩
      · have hafter : ownLines pre after = [] := ownLines_eq_nil_iff.mpr hafter
        have hmark : (Line.entry (pre ++ key :: l :: path) space v).mark =
            (Line.entry (pre ++ k :: l :: path) space v).mark :=
          mark_entry (by simp [hkey]) (by rw [lead_append, lead_append, lead_cons, lead_cons] <;> simp) space v
        have hmarks := hmarks (pre ++ [key])
        simp only [List.append_assoc, List.cons_append, List.nil_append, hmark] at hmarks
        simp only [hreplace, ownLines_append, ownLines, itemLines, hafter, hmarks, List.map_append,
          List.append_assoc, List.append_nil]
      · simp only [hreplace, sections_append, sections, itemSections, ownSection, hsections]
  | case9 start kind k l path es elements hfind old inside hlast ih =>
      have hplaces := hfree k l path _ rfl hfind
      obtain ⟨k', -, -, -, hfit⟩ := hes.find hfind
      exact absurd hplaces (elementPlaces_ne_nil hfit.2.2.1 hfit.2.2.2)

end Entries

end ServerLink.Toml

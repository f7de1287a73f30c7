import Mathlib.Data.Prod.Lex
import ServerLink.Release.Notice

namespace ServerLink.Release

/-- The rank of a version: its numbers, the first of them first. -/
def Version.rank (v : Version) : ℕ ×ₗ ℕ ×ₗ ℕ :=
  toLex (v.major, toLex (v.minor, v.patch))

theorem Version.rank_lt_iff {u v : Version} : u.rank < v.rank ↔
    u.major < v.major ∨ u.major = v.major ∧
      (u.minor < v.minor ∨ u.minor = v.minor ∧ u.patch < v.patch) := by
  simp [rank, Prod.Lex.lt_iff]

theorem Version.compare_eq_gt_iff {u v : Version} : compare v u = .gt ↔ u.rank < v.rank := by
  rw [rank_lt_iff]
  simp only [compare, instOrdVersion.ord, compareOfLessAndEq]
  repeat' split
  all_goals simp_all
  all_goals omega

theorem Version.read?_ne_nil {text : List Char} {v : Version} (h : read? text = some v) : text ≠ [] := by
  rintro rfl
  cases h

namespace Notice

theorem evaluate_self {current : String} (h : current ≠ "") : evaluate (some current) current = none := by
  simp [evaluate, h]

theorem evaluate_of_read? {previous current : String} {u v : Version}
    (hu : Version.read? previous.toList = some u) (hv : Version.read? current.toList = some v) :
    evaluate (some previous) current = if u.rank < v.rank then some (.updated current) else none := by
  have hne : previous ≠ "" := fun hempty => Version.read?_ne_nil hu (by simp [hempty])
  by_cases hsame : previous = current
  · subst hsame
    obtain rfl : u = v := Option.some.inj (hu.symm.trans hv)
    simp [evaluate_self hne]
  · simp [evaluate, hne, hsame, hu, hv, Version.compare_eq_gt_iff]

end Notice

end ServerLink.Release

import ServiceDoc.FileTree.Basic
import ServiceDoc.Proofs.OrderedMap.LastWrite
/-!
# Reading a file that was written

A file that is written under a path is found under it again (`read_of_write`). Writing changes the
entry of one place, and that place is no directory, while a walk to it only goes through
directories: so the way to the file is the same before and after.
-/

namespace ServiceDoc.FileTree

variable {t u : FileTree} {place : Place} {e : Entry}

theorem lookup_setEntry (place q : Place) (e : Entry) (entries : List (Place × Entry)) :
    (setEntry place e entries).lookup q = if q = place then some e else entries.lookup q := by
  induction entries with
  | nil => exact lookup_cons_eq_ite place q e []
  | cons f rest ih =>
      obtain ⟨r, f⟩ := f
      by_cases hr : r = place
      · subst hr
        simp only [setEntry, lookup_cons_eq_ite, if_true]
        split <;> rfl
      · simp only [setEntry, lookup_cons_eq_ite, if_neg hr, ih]
        by_cases h : q = r
        · subst h
          rw [if_pos rfl, if_pos rfl, if_neg hr]
        · rw [if_neg h, if_neg h]

/-- What stands at a place after an entry was set where there is no directory. -/
theorem entry?_set (h : t.entry? place ≠ some .directory) (q : Place) :
    entry? (t.set place e) q = if q = place then some e else t.entry? q := by
  have hplace : place.isPrefixOf t.workingDirectory = false := by
    by_contra hprefix
    rw [Bool.not_eq_false] at hprefix
    exact h (if_pos hprefix)
  rw [ entry?, entry?, set, lookup_setEntry]
  by_cases hq : q = place
  · rw [if_pos hq, if_pos hq, hq, hplace]
    rfl
  · rw [if_neg hq, if_neg hq]

theorem entry?_set_self (h : t.entry? place ≠ some .directory) :
    entry? (t.set place e) place = some e := by
  rw [entry?_set h, if_pos rfl]

/-- A way through directories stays as it is. -/
theorem walk_set (h : t.entry? place ≠ some .directory) {start goal : Place}
    {segments : List String} (hwalk : t.walk start segments = .ok goal) :
    (t.set place e).walk start segments = .ok goal := by
  induction segments generalizing start with
  | nil => exact hwalk
  | cons s r ih =>
      rw [walk] at hwalk ⊢
      by_cases hup : s = ".."
      · rw [if_pos hup] at hwalk ⊢
        exact ih hwalk
      · by_cases hlong : maxNameSize < s.utf8ByteSize
        · rw [if_neg hup, if_pos hlong] at hwalk
          cases hwalk
        · rw [if_neg hup, if_neg hlong] at hwalk ⊢
          cases hentry : t.entry? (start ++ [s]) with
          | none =>
              rw [hentry] at hwalk
              cases hwalk
          | some f =>
              cases f with
              | file content =>
                  rw [hentry] at hwalk
                  cases hwalk
              | directory =>
                  have hne : start ++ [s] ≠ place := by
                    rintro rfl
                    exact h hentry
                  rw [entry?_set h, if_neg hne, hentry]
                  rw [hentry] at hwalk
                  exact ih hwalk

/-- Where a path ends stays as it is. -/
theorem target_set {p : Path} {goal : Target} (h : t.entry? place ≠ some .directory)
    (htarget : t.target p = .ok goal) : (t.set place e).target p = .ok goal := by
  rw [target] at htarget ⊢
  by_cases hnul : p.toText.contains '\x00'
  · rw [if_pos hnul] at htarget
    cases htarget
  · by_cases hlong : maxPathSize < p.toText.utf8ByteSize
    · rw [if_neg hnul, if_pos hlong] at htarget
      cases htarget
    · rw [if_neg hnul, if_neg hlong] at htarget ⊢
      cases hlast : p.segments.getLast? with
      | none =>
          rw [hlast] at htarget
          exact htarget
      | some last =>
          rw [hlast] at htarget
          cases hwalk : t.walk (t.start p) p.segments.dropLast with
          | error f =>
              simp only [hwalk] at htarget
              cases htarget
          | ok goal =>
              have hwalk' := walk_set (e := e) h hwalk
              simp only [hwalk] at htarget
              simp only [show (t.set place e).start p = t.start p from rfl, hwalk', htarget]

/-- Where a write succeeds, and what it leaves. -/
theorem eq_set_of_write {p : Path} {content : List UInt8} (h : t.write p content = .ok u) :
    ∃ place, t.target p = .ok (.name place) ∧ t.entry? place ≠ some .directory ∧
      u = t.set place (.file content) := by
  rw [write] at h
  cases htarget : t.target p with
  | error f =>
      rw [htarget] at h
      cases h
  | ok goal =>
      rw [htarget] at h
      cases goal with
      | passed => cases h
      | name place =>
          simp only at h
          split at h
          · cases h
          · next hentry => exact ⟨place, rfl, hentry, (Except.ok.inj h).symm⟩

/-- A file that was written is read back. -/
theorem read_of_write {p : Path} {content : List UInt8} (h : t.write p content = .ok u) :
    u.read p = .ok content := by
  obtain ⟨place, htarget, hentry, rfl⟩ := eq_set_of_write h
  rw [read, target_set hentry htarget]
  simp only [entry?_set_self hentry]

end ServiceDoc.FileTree

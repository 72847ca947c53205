import ServiceDoc.Proofs.FileTree.EmbeddedNul
import ServiceDoc.Proofs.FileTree.Frame
/-!
# Faults that have a number

A fault that the system tells has a number; only an embedded NUL is found before the system is
asked. So where the path of a directory holds none, directories are not made and files in it are not
written for faults that have a number alone: what else fails on the way is the fault of a path that
this one begins with.
-/

namespace ServiceDoc

namespace FileFault

theorem exists_number_iff (f : FileFault) : (∃ n, f.number? = some n) ↔ f ≠ .embeddedNul := by
  cases f <;> simp [number?]

end FileFault

namespace Path

/-- A path holds what the paths hold that it begins with. -/
theorem mem_toText_of_isOnWayTo {c : Char} (hslash : c ≠ '/') (hdot : c ≠ '.') {a p : Path}
    (ha : a.IsOnWayTo p) (hc : c ∈ a.toText.toList) : c ∈ p.toText.toList := by
  rw [mem_toText_iff hslash hdot] at hc ⊢
  rcases hc with hroot | ⟨s, hs, hc⟩
  · exact .inl (ha.1 ▸ hroot)
  · exact .inr ⟨s, ha.2.subset hs, hc⟩

theorem notMem_toText_child {c : Char} (hslash : c ≠ '/') (hdot : c ≠ '.') {p : Path}
    {name : String} (hp : c ∉ p.toText.toList) (hname : c ∉ name.toList) :
    c ∉ (p.child name).toText.toList := by
  rw [mem_toText_iff hslash hdot, not_or] at hp ⊢
  refine ⟨hp.1, ?_⟩
  rintro ⟨s, hs, hc⟩
  rcases List.mem_append.1 hs with hs | hs
  · exact hp.2 ⟨s, hs, hc⟩
  · rw [List.mem_singleton.1 hs] at hc
    exact hname hc

end Path

namespace FileTree

variable {t : FileTree} {p : Path} {f : FileFault}

/-! ## Directories -/

theorem makeDirectory_eq_embeddedNul_iff (t : FileTree) (p : Path) :
    t.makeDirectory p = .error .embeddedNul ↔ '\x00' ∈ p.toText.toList := by
  rw [← target_eq_embeddedNul_iff t, makeDirectory]
  cases t.target p with
  | error f => simp
  | ok goal =>
      cases goal with
      | passed => simp
      | name place => cases hentry : t.entry? place <;> simp [hentry]

theorem makeDirectory_of_ensureDirectory_eq_error (h : t.ensureDirectory p = .error f) :
    t.makeDirectory p = .error f := by
  rw [ensureDirectory] at h
  split at h
  · cases h
  · next f' hmake =>
    split at h
    · cases h
    · rw [hmake, Except.error.inj h]

/-- What keeps directories from being made is the fault of a path on the way. -/
theorem exists_ensureDirectory_of_ensureDirectories_eq_error {q : Path}
    (h : (t.ensureDirectories p).2 = .error (f, q)) :
    q.IsOnWayTo p ∧ ∃ u : FileTree, u.ensureDirectory q = .error f := by
  fun_induction FileTree.ensureDirectories t p with
  | case1 => cases h
  | case2 p hnil hensure =>
      cases h
      exact ⟨Path.isOnWayTo_refl q, t, hensure⟩
  | case3 p hne u e hways hensure ih =>
      obtain ⟨hq, hfault⟩ := ih (by rw [hways]; exact h)
      exact ⟨Path.isOnWayTo_of_parent hq, hfault⟩
  | case4 => cases h
  | case5 p hne u hways g hlast =>
      cases h
      exact ⟨Path.isOnWayTo_refl q, u, hlast⟩
  | case6 p g hensure =>
      cases h
      exact ⟨Path.isOnWayTo_refl q, t, hensure⟩

theorem exists_number_of_ensureDirectories_eq_error {q : Path} (hnul : '\x00' ∉ p.toText.toList)
    (h : (t.ensureDirectories p).2 = .error (f, q)) : ∃ n, f.number? = some n := by
  obtain ⟨hq, u, hfault⟩ := exists_ensureDirectory_of_ensureDirectories_eq_error h
  rw [FileFault.exists_number_iff]
  rintro rfl
  have hmem := (u.makeDirectory_eq_embeddedNul_iff q).1
    (makeDirectory_of_ensureDirectory_eq_error hfault)
  exact hnul (Path.mem_toText_of_isOnWayTo (by decide) (by decide) hq hmem)

/-! ## Files -/

theorem write_eq_embeddedNul_iff (t : FileTree) (p : Path) (content : List UInt8) :
    t.write p content = .error .embeddedNul ↔ '\x00' ∈ p.toText.toList := by
  rw [← target_eq_embeddedNul_iff t, write]
  cases t.target p with
  | error f => simp
  | ok goal =>
      cases goal with
      | passed => simp
      | name place =>
          dsimp only
          split <;> simp

theorem exists_number_of_write_eq_error {content : List UInt8} (hnul : '\x00' ∉ p.toText.toList)
    (h : t.write p content = .error f) : ∃ n, f.number? = some n := by
  rw [FileFault.exists_number_iff]
  rintro rfl
  exact hnul ((t.write_eq_embeddedNul_iff p content).1 h)

end FileTree

end ServiceDoc

import ServiceDoc.Proofs.FileTree.Write
/-!
# What writing into a directory changes

Files are written into a directory in steps: a directory is made on the way, where nothing stood, or
a file is written in the directory (`Filled`). No step takes a directory away, so a path that leads
somewhere leads there ever after, and what changes is told by where the paths lead in the end: new
directories stand at beginnings of the path of the directory, and new contents at the names in it
(`Filled.fate`).
-/

namespace ServiceDoc

/-- A path that another one begins with, as it is written. -/
def Path.IsOnWayTo (a p : Path) : Prop := a.root = p.root ∧ a.segments <+: p.segments

theorem Path.isOnWayTo_refl (p : Path) : p.IsOnWayTo p := ⟨rfl, List.prefix_rfl⟩

theorem Path.isOnWayTo_of_parent {a p : Path} (h : a.IsOnWayTo p.parent) : a.IsOnWayTo p :=
  ⟨h.1, h.2.trans (List.dropLast_prefix p.segments)⟩

/-- The paths of names in one directory are written alike up to the name. -/
theorem Path.exists_toText_child (p : Path) :
    ∃ text, ∀ name, (p.child name).toText = text ++ name := by
  have htext (name : String) :
      (p.child name).toText = p.root ++ "/".intercalate (p.segments ++ [name]) := by
    rw [toText, if_neg]
    · rfl
    · simp [child]
  by_cases hnil : p.segments = []
  · refine ⟨p.root, fun name => ?_⟩
    rw [htext, hnil, List.nil_append, String.intercalate_singleton]
  · refine ⟨p.root ++ "/".intercalate p.segments ++ "/", fun name => ?_⟩
    rw [htext, String.intercalate_append_of_ne_nil hnil (List.cons_ne_nil name []),
      String.intercalate_singleton]
    simp only [String.append_assoc]

namespace FileTree

/-- Trees of which one comes from the other by filling a directory with files of some names. -/
inductive Filled (p : Path) (names : List String) : FileTree → FileTree → Prop where
  | refl (t : FileTree) : Filled p names t t
  | directory {t u : FileTree} {a : Path} {place : Place} (h : Filled p names t u)
    (ha : a.IsOnWayTo p) (htarget : u.target a = .ok (.name place))
    (hplace : u.entry? place = none) : Filled p names t (u.set place .directory)
  | file {t u : FileTree} {name : String} {place : Place} (content : List UInt8)
    (h : Filled p names t u) (hname : name ∈ names)
    (htarget : u.target (p.child name) = .ok (.name place))
    (hplace : u.entry? place ≠ some .directory) :
    Filled p names t (u.set place (.file content))

/-- What becomes of a place when a directory is filled: it is kept, it is a new directory on the
way, or it is one of the files, whose content may be new. -/
inductive Fate (p : Path) (names : List String) (t u : FileTree) (q : Place) : Prop where
  | kept (h : u.entry? q = t.entry? q)
  | directory (a : Path) (hbefore : t.entry? q = none) (hafter : u.entry? q = some .directory)
    (ha : a.IsOnWayTo p) (htarget : u.target a = .ok (.name q))
  | file (name : String) (content : List UInt8) (hbefore : t.entry? q ≠ some .directory)
    (hafter : u.entry? q = some (.file content)) (hname : name ∈ names)
    (htarget : u.target (p.child name) = .ok (.name q))

/-! ## Directories -/

/-- Making a directory leaves the tree as it is, or makes it where nothing stood. -/
theorem eq_set_of_ensureDirectory {t u : FileTree} {p : Path} (h : t.ensureDirectory p = .ok u) :
    u = t ∨ ∃ place, t.target p = .ok (.name place) ∧ t.entry? place = none ∧
      u = t.set place .directory := by
  rw [ensureDirectory, makeDirectory] at h
  cases htarget : t.target p with
  | error f =>
      simp only [htarget] at h
      split at h
      · exact .inl (Except.ok.inj h).symm
      · cases h
  | ok goal =>
      cases goal with
      | passed =>
          simp only [htarget] at h
          split at h
          · exact .inl (Except.ok.inj h).symm
          · cases h
      | name place =>
          cases hentry : t.entry? place with
          | some e =>
              simp only [htarget, hentry] at h
              split at h
              · exact .inl (Except.ok.inj h).symm
              · cases h
          | none =>
              simp only [htarget, hentry] at h
              exact .inr ⟨place, rfl, hentry, (Except.ok.inj h).symm⟩

/-- An entry that is set elsewhere does not change the fate of a place. -/
theorem Fate.set {p : Path} {names : List String} {t u : FileTree} {place q : Place} {e : Entry}
    (h : Fate p names t u q) (hplace : u.entry? place ≠ some .directory) (hq : q ≠ place) :
    Fate p names t (u.set place e) q := by
  have hentry : FileTree.entry? (u.set place e) q = u.entry? q := by
    rw [entry?_set hplace, if_neg hq]
  cases h with
  | kept h => exact .kept (hentry.trans h)
  | directory a hbefore hafter ha htarget =>
      exact .directory a hbefore (hentry.trans hafter) ha (target_set hplace htarget)
  | file name content hbefore hafter hname htarget =>
      exact .file name content hbefore (hentry.trans hafter) hname (target_set hplace htarget)

namespace Filled

variable {p : Path} {names : List String} {t u v : FileTree}

theorem trans (h : Filled p names t u) (h' : Filled p names u v) : Filled p names t v := by
  induction h' with
  | refl => exact h
  | directory _ ha htarget hplace ih => exact ih.directory ha htarget hplace
  | file content _ hname htarget hplace ih => exact ih.file content hname htarget hplace

theorem of_subset {names' : List String} (hnames : names ⊆ names') (h : Filled p names t u) :
    Filled p names' t u := by
  induction h with
  | refl => exact .refl t
  | directory _ ha htarget hplace ih => exact ih.directory ha htarget hplace
  | file content _ hname htarget hplace ih => exact ih.file content (hnames hname) htarget hplace

theorem of_parent (h : Filled p.parent [] t u) : Filled p names t u := by
  induction h with
  | refl => exact .refl t
  | directory _ ha htarget hplace ih =>
      exact ih.directory (Path.isOnWayTo_of_parent ha) htarget hplace
  | file _ _ hname => cases hname

theorem of_ensureDirectory (h : t.ensureDirectory p = .ok u) : Filled p names t u := by
  rcases eq_set_of_ensureDirectory h with rfl | ⟨place, htarget, hplace, rfl⟩
  · exact .refl u
  · exact (Filled.refl t).directory (Path.isOnWayTo_refl p) htarget hplace

/-- Making a directory with all directories on the way is filling it with nothing, also where it
fails half-way. -/
theorem ensureDirectories (t : FileTree) (p : Path) :
    Filled p [] t (t.ensureDirectories p).1 := by
  fun_induction FileTree.ensureDirectories t p with
  | case1 p u hensure => exact of_ensureDirectory hensure
  | case2 => exact .refl t
  | case3 p hne u e hways hensure ih =>
      rw [hways] at ih
      exact ih.of_parent
  | case4 p hne u hways v hlast hensure ih =>
      rw [hways] at ih
      exact ih.of_parent.trans (of_ensureDirectory hlast)
  | case5 p hne u hways g hlast hensure ih =>
      rw [hways] at ih
      exact ih.of_parent
  | case6 => exact .refl t

/-! ## What stays and what changes -/

/-- Where a path leads stays as it is. -/
theorem target (h : Filled p names t u) {a : Path} {goal : Target}
    (hgoal : t.target a = .ok goal) : u.target a = .ok goal := by
  induction h with
  | refl => exact hgoal
  | directory _ _ _ hplace ih =>
      exact target_set (by rw [hplace]; exact nofun) ih
  | file content _ _ _ hplace ih => exact target_set hplace ih

/-- Every place has its fate. -/
theorem fate (h : Filled p names t u) (q : Place) : Fate p names t u q := by
  induction h with
  | refl => exact .kept rfl
  | @directory u a place _ ha htarget hplace ih =>
      have hdirectory : u.entry? place ≠ some .directory := by
        rw [hplace]
        exact nofun
      by_cases hq : q = place
      · subst hq
        have hnone : t.entry? q = none := by
          cases ih with
          | kept h => rw [← h, hplace]
          | directory _ _ hafter => rw [hplace] at hafter; cases hafter
          | file _ _ _ hafter => rw [hplace] at hafter; cases hafter
        exact .directory a hnone (entry?_set_self hdirectory) ha (target_set hdirectory htarget)
      · exact ih.set hdirectory hq
  | @file u name place content _ hname htarget hplace ih =>
      by_cases hq : q = place
      · subst hq
        have hbefore : t.entry? q ≠ some .directory := by
          cases ih with
          | kept h => rw [← h]; exact hplace
          | directory _ _ hafter => exact absurd hafter hplace
          | file _ _ hbefore => exact hbefore
        exact .file name content hbefore (entry?_set_self hplace) hname
          (target_set hplace htarget)
      · exact ih.set hplace hq

/-- No directory goes. -/
theorem entry?_directory (h : Filled p names t u) {q : Place}
    (hq : t.entry? q = some .directory) : u.entry? q = some .directory := by
  cases h.fate q with
  | kept h => rw [h, hq]
  | directory _ _ hafter => exact hafter
  | file _ _ hbefore => exact absurd hq hbefore

/-- No file goes. -/
theorem exists_entry?_file (h : Filled p names t u) {q : Place} {content : List UInt8}
    (hq : t.entry? q = some (.file content)) :
    ∃ content', u.entry? q = some (.file content') := by
  cases h.fate q with
  | kept h => exact ⟨content, h.trans hq⟩
  | directory _ hbefore =>
      rw [hq] at hbefore
      cases hbefore
  | file _ content' _ hafter => exact ⟨content', hafter⟩

end Filled

/-! ## Where names lead -/

/-- When a path leads to a name, and which one. -/
theorem target_eq_name_iff {t : FileTree} {p : Path} {place : Place} :
    t.target p = .ok (.name place) ↔
      '\x00' ∉ p.toText.toList ∧ p.toText.utf8ByteSize ≤ maxPathSize ∧
        ∃ last above, p.segments.getLast? = some last ∧ last ≠ ".." ∧
          last.utf8ByteSize ≤ maxNameSize ∧
          t.walk (t.start p) p.segments.dropLast = .ok above ∧ place = above ++ [last] := by
  rw [target, String.contains_char_eq]
  by_cases hnul : '\x00' ∈ p.toText.toList
  · simp [hnul]
  · by_cases hlong : maxPathSize < p.toText.utf8ByteSize
    · simp [hnul, hlong, Nat.not_le.2 hlong]
    · cases hlast : p.segments.getLast? with
      | none => simp [hnul, hlong]
      | some last =>
          cases hwalk : t.walk (t.start p) p.segments.dropLast with
          | error f => simp [hnul, hlong]
          | ok above =>
              by_cases hup : last = ".."
              · simp [hnul, hlong, hup]
              · by_cases hname : maxNameSize < last.utf8ByteSize
                · simp [hnul, hlong, hup, hname, Nat.not_le.2 hname]
                · simp [hnul, hlong, hup, hname, Nat.le_of_not_lt hlong, Nat.le_of_not_lt hname,
                    eq_comm]

/-- When a name in a directory leads to its place below that of the directory. -/
theorem target_child_eq_name_iff {t : FileTree} {p : Path} {name : String} {place : Place} :
    t.target (p.child name) = .ok (.name place) ↔
      '\x00' ∉ (p.child name).toText.toList ∧ (p.child name).toText.utf8ByteSize ≤ maxPathSize ∧
        name ≠ ".." ∧ name.utf8ByteSize ≤ maxNameSize ∧
        ∃ above, t.walk (t.start p) p.segments = .ok above ∧ place = above ++ [name] := by
  have hlast : (p.child name).segments.getLast? = some name := by
    rw [Path.child, List.getLast?_append, List.getLast?_singleton, Option.some_or]
  have hwalk : t.walk (t.start (p.child name)) (p.child name).segments.dropLast =
      t.walk (t.start p) p.segments := by
    rw [Path.child, List.dropLast_concat]
    rfl
  rw [target_eq_name_iff, hlast, hwalk]
  constructor
  · rintro ⟨hnul, hlong, last, above, heq, hup, hmax, habove, hplace⟩
    obtain rfl := Option.some.inj heq
    exact ⟨hnul, hlong, hup, hmax, above, habove, hplace⟩
  · rintro ⟨hnul, hlong, hup, hmax, above, habove, hplace⟩
    exact ⟨hnul, hlong, name, above, rfl, hup, hmax, habove, hplace⟩

/-- Names in one directory lead to places next to each other. -/
theorem exists_above_of_target_child {t : FileTree} {p : Path} {name other : String}
    {place place' : Place} (h : t.target (p.child name) = .ok (.name place))
    (h' : t.target (p.child other) = .ok (.name place')) :
    ∃ above, place = above ++ [name] ∧ place' = above ++ [other] := by
  obtain ⟨-, -, -, -, above, hwalk, hplace⟩ := target_child_eq_name_iff.1 h
  obtain ⟨-, -, -, -, above', hwalk', hplace'⟩ := target_child_eq_name_iff.1 h'
  rw [hwalk] at hwalk'
  obtain rfl := Except.ok.inj hwalk'
  exact ⟨above, hplace, hplace'⟩

/-- Where one name in a directory leads somewhere, a shorter one leads to its own place there. -/
theorem target_child_of_le {t : FileTree} {p : Path} {name other : String} {above : Place}
    (h : t.target (p.child name) = .ok (.name (above ++ [name]))) (hnul : '\x00' ∉ other.toList)
    (hup : other ≠ "..") (hsize : other.utf8ByteSize ≤ name.utf8ByteSize) :
    t.target (p.child other) = .ok (.name (above ++ [other])) := by
  obtain ⟨hnul', hlong, -, hmax, above', habove, heq⟩ := target_child_eq_name_iff.1 h
  obtain ⟨text, htext⟩ := Path.exists_toText_child p
  obtain rfl := (List.append_inj_left' heq rfl)
  rw [htext, String.toList_append, List.mem_append, not_or] at hnul'
  rw [htext, String.utf8ByteSize_append] at hlong
  refine target_child_eq_name_iff.2 ⟨?_, ?_, hup, Nat.le_trans hsize hmax, above, habove, rfl⟩
  · rw [htext, String.toList_append, List.mem_append, not_or]
    exact ⟨hnul'.1, hnul⟩
  · rw [htext, String.utf8ByteSize_append]
    omega

/-- Without `..`, segments lead straight down. -/
theorem eq_append_of_walk {t : FileTree} {segments : List String} (hup : ".." ∉ segments)
    {start goal : Place} (h : t.walk start segments = .ok goal) : goal = start ++ segments := by
  induction segments generalizing start with
  | nil =>
      rw [walk] at h
      rw [Except.ok.inj h, List.append_nil]
  | cons s r ih =>
      rw [List.mem_cons, not_or] at hup
      rw [walk, if_neg (Ne.symm hup.1)] at h
      split at h
      · cases h
      · split at h
        · cases h
        · rw [ih hup.2 h, List.append_assoc, List.singleton_append]
        · cases h

/-- Without `..`, no name in a directory stands on the way to it. -/
theorem target_ne_of_isOnWayTo {t : FileTree} {p a : Path} {name : String} {place : Place}
    (hup : ".." ∉ p.segments) (ha : a.IsOnWayTo p)
    (h : t.target (p.child name) = .ok (.name place)) : t.target a ≠ .ok (.name place) := by
  intro hplace
  obtain ⟨-, -, -, -, above, habove, rfl⟩ := target_child_eq_name_iff.1 h
  obtain ⟨-, -, last, before, hlast, -, -, hbefore, heq⟩ := target_eq_name_iff.1 hplace
  have hup' : ".." ∉ a.segments.dropLast := fun hmem =>
    hup (ha.2.subset (List.dropLast_subset a.segments hmem))
  have hstart : t.start a = t.start p := by
    rw [start, start, ha.1]
  rw [eq_append_of_walk hup habove, eq_append_of_walk hup' hbefore, hstart, List.append_assoc,
    List.append_assoc, List.append_cancel_left_eq, List.dropLast_append_getLast? last hlast] at heq
  have hle := ha.2.length_le
  rw [← heq, List.length_append, List.length_singleton] at hle
  omega

end FileTree

end ServiceDoc

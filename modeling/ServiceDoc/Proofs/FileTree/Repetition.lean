import ServiceDoc.Proofs.FileTree.Frame
/-!
# What is there already

Operations on files that find what they are about to make. A directory that can be walked into is
made once more without a change, with all directories on the way (`ensureDirectories_of_walk`), and
so is a file with the content that it has (`set_eq_self`). A file that is read before other files
are written is read after them as well (`Filled.read`).
-/

namespace ServiceDoc

/-- The path of a directory is written without the character that ends paths, and not at too great a
length, if that of a name in it is. The text of the working directory is no part of the other
one. -/
theorem Path.toText_of_child {p : Path} {name : String} {limit : Nat} (hlimit : 0 < limit)
    (hnul : '\x00' ∉ (p.child name).toText.toList)
    (hsize : (p.child name).toText.utf8ByteSize ≤ limit) :
    '\x00' ∉ p.toText.toList ∧ p.toText.utf8ByteSize ≤ limit := by
  by_cases hhere : (p.root.isEmpty && p.segments.isEmpty) = true
  · rw [toText, if_pos hhere]
    exact ⟨by decide, hlimit⟩
  · obtain ⟨rest, hrest⟩ : ∃ rest, (p.child name).toText = p.toText ++ rest := by
      rw [toText, toText, if_neg hhere, if_neg (by simp [child])]
      by_cases hnil : p.segments = []
      · exact ⟨name, by simp [child, hnil]⟩
      · refine ⟨"/" ++ name, ?_⟩
        rw [child, String.intercalate_append_of_ne_nil hnil (List.cons_ne_nil name []),
          String.intercalate_singleton]
        simp only [String.append_assoc]
    rw [hrest, String.toList_append, List.mem_append, not_or] at hnul
    rw [hrest, String.utf8ByteSize_append] at hsize
    exact ⟨hnul.1, by omega⟩

namespace FileTree

variable {t u : FileTree} {p : Path} {place above : Place}

/-! ## Directories -/

theorem walk_concat {start : Place} {segments : List String} {s : String}
    (h : t.walk start (segments ++ [s]) = .ok place) :
    ∃ above, t.walk start segments = .ok above ∧ t.walk above [s] = .ok place := by
  induction segments generalizing start with
  | nil => exact ⟨start, rfl, h⟩
  | cons r segments ih =>
      rw [List.cons_append, walk] at h
      rw [walk]
      by_cases hup : r = ".."
      · rw [if_pos hup] at h ⊢
        exact ih h
      · rw [if_neg hup] at h ⊢
        by_cases hlong : maxNameSize < r.utf8ByteSize
        · rw [if_pos hlong] at h
          cases h
        · rw [if_neg hlong] at h ⊢
          cases hentry : t.entry? (start ++ [r]) with
          | none =>
              rw [hentry] at h
              cases h
          | some e =>
              rw [hentry] at h
              cases e with
              | file content => cases h
              | directory => exact ih h

/-- A path that can be walked along ends at a directory. -/
theorem target_of_walk (hnul : '\x00' ∉ p.toText.toList)
    (hsize : p.toText.utf8ByteSize ≤ maxPathSize)
    (hwalk : t.walk (t.start p) p.segments = .ok above) :
    t.target p = .ok .passed ∨
      ∃ place, t.target p = .ok (.name place) ∧ t.entry? place = some .directory := by
  have hcontains : ¬ p.toText.contains '\x00' = true := by
    rwa [String.contains_char_eq, decide_eq_true_iff]
  rw [target, if_neg hcontains, if_neg (Nat.not_lt.2 hsize)]
  cases hlast : p.segments.getLast? with
  | none => exact .inl rfl
  | some last =>
      rw [← List.dropLast_append_getLast? last hlast] at hwalk
      obtain ⟨before, hbefore, hstep⟩ := walk_concat hwalk
      rw [hbefore]
      rw [walk] at hstep
      by_cases hup : last = ".."
      · exact .inl (if_pos hup)
      · rw [if_neg hup] at hstep
        by_cases hlong : maxNameSize < last.utf8ByteSize
        · rw [if_pos hlong] at hstep
          cases hstep
        · rw [if_neg hlong] at hstep
          refine .inr ⟨before ++ [last], ?_, ?_⟩
          · dsimp only
            rw [if_neg hup, if_neg hlong]
          · cases hentry : t.entry? (before ++ [last]) with
            | none =>
                rw [hentry] at hstep
                cases hstep
            | some e =>
                cases e with
                | file content =>
                    rw [hentry] at hstep
                    cases hstep
                | directory => rfl

/-- A directory that a name can be looked up in is there. -/
theorem ensureDirectories_of_target_child {name : String}
    (h : t.target (p.child name) = .ok (.name place)) :
    t.ensureDirectories p = (t, .ok ()) := by
  obtain ⟨hnul, hsize, -, -, above, hwalk, -⟩ := target_child_eq_name_iff.1 h
  obtain ⟨hnul, hsize⟩ := Path.toText_of_child (by decide) hnul hsize
  have hmade : t.makeDirectory p = .error .alreadyThere ∧ t.isDirectory p = true := by
    rw [makeDirectory, isDirectory]
    rcases target_of_walk hnul hsize hwalk with htarget | ⟨q, htarget, hentry⟩
    · simp [htarget]
    · simp [htarget, hentry]
  have hensure : t.ensureDirectory p = .ok t := by
    rw [ensureDirectory, hmade.1]
    simp [hmade.2]
  rw [ensureDirectories, hensure]

/-! ## Files -/

theorem setEntry_eq_self {e : Entry} {entries : List (Place × Entry)}
    (h : entries.lookup place = some e) : setEntry place e entries = entries := by
  induction entries with
  | nil => cases h
  | cons f rest ih =>
      obtain ⟨q, f⟩ := f
      rw [lookup_cons_eq_ite] at h
      rw [setEntry]
      by_cases hq : q = place
      · rw [if_pos hq.symm] at h
        rw [if_pos hq, Option.some.inj h]
      · rw [if_neg (Ne.symm hq)] at h
        rw [if_neg hq, ih h]

/-- A file with the content that it has already changes nothing. -/
theorem set_eq_self {content : List UInt8} (h : t.entry? place = some (.file content)) :
    t.set place (.file content) = t := by
  rw [ entry?] at h
  split at h
  · cases h
  · rw [set, setEntry_eq_self h]

/-- When a file is read, and with which content. -/
theorem read_eq_ok_iff {content : List UInt8} :
    t.read p = .ok content ↔
      ∃ place, t.target p = .ok (.name place) ∧ t.entry? place = some (.file content) := by
  rw [read]
  cases t.target p with
  | error f => simp
  | ok goal =>
      cases goal with
      | passed => simp
      | name place =>
          cases hentry : t.entry? place with
          | none => simp [hentry]
          | some e => cases e <;> simp [hentry]

/-- A file that is not one of those written into a directory is read as before. -/
theorem Filled.read {names : List String} (h : Filled p names t u) {a : Path}
    {content : List UInt8} (hread : t.read a = .ok content)
    (hne : ∀ name ∈ names, u.target (p.child name) ≠ u.target a) : u.read a = .ok content := by
  obtain ⟨place, htarget, hentry⟩ := read_eq_ok_iff.1 hread
  have htarget' := h.target htarget
  refine read_eq_ok_iff.2 ⟨place, htarget', ?_⟩
  cases h.fate place with
  | kept hkept => rw [hkept, hentry]
  | directory _ hbefore =>
      rw [hentry] at hbefore
      cases hbefore
  | file name _ _ _ hname hplace => exact absurd (hplace.trans htarget'.symm) (hne name hname)

end FileTree

end ServiceDoc

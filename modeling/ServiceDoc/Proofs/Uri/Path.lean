import Mathlib.Data.List.Basic
import ServiceDoc.Proofs.Uri.Percent
import ServiceDoc.Uri.Basic
/-!
# Paths in normal form

A path behind an authority is empty or begins with a slash. Without dot segments such a path is in
normal form: bringing it into normal form changes nothing (`normalizePath_eq_self`), and neither
does writing it in percent codes bring dot segments back. A last segment that is none is still the
last one in normal form.
-/

namespace ServiceDoc.Uri

/-- A segment that stands for a step along the path. -/
def IsDots (s : List Char) : Prop := s = ['.'] ∨ s = ['.', '.']

instance : DecidablePred IsDots := fun s =>
  inferInstanceAs (Decidable (s = ['.'] ∨ s = ['.', '.']))

/-- A path that can follow an authority. -/
def IsRooted (path : List Char) : Prop := path = [] ∨ path.head? = some '/'

theorem IsRooted.of_isPrefix {path rest : List Char} (h : IsRooted rest) (hpath : path <+: rest) :
    IsRooted path := by
  cases path with
  | nil => exact .inl rfl
  | cons c path =>
      obtain ⟨s, rfl⟩ := hpath
      rcases h with hnil | hslash
      · simp at hnil
      · exact .inr hslash

theorem IsRooted.append_slash {path : List Char} (h : IsRooted path) (rest : List Char) :
    IsRooted (path ++ '/' :: rest) := by
  rcases h with rfl | hslash
  · exact .inr rfl
  · exact .inr (by rw [List.head?_append, hslash]; rfl)

/-! ## Segments -/

theorem segments_cons_slash (path : List Char) : segments ('/' :: path) = [] :: segments path := by
  rw [segments, List.splitOn_cons_eq_if_modifyHead, if_pos (beq_self_eq_true '/')]
  rfl

theorem exists_segments_cons {c : Char} (h : c ≠ '/') (path : List Char) :
    ∃ s ss, segments path = s :: ss ∧ segments (c :: path) = (c :: s) :: ss := by
  obtain ⟨s, ss, hss⟩ := List.exists_cons_of_ne_nil (List.splitOn_ne_nil '/' path)
  refine ⟨s, ss, hss, ?_⟩
  rw [segments, List.splitOn_cons_eq_if_modifyHead, if_neg (by simpa using h), hss]
  rfl

theorem head?_segments_iff {path : List Char} :
    (segments path).head? = some [] ↔ IsRooted path := by
  cases path with
  | nil => simp [segments, IsRooted]
  | cons c path =>
      by_cases h : c = '/'
      · simp [h, segments_cons_slash, IsRooted]
      · obtain ⟨s, ss, -, hcons⟩ := exists_segments_cons h path
        simp [hcons, IsRooted, h]

theorem slash_notMem_of_mem_segments {path s : List Char} (hs : s ∈ segments path) : '/' ∉ s := by
  induction path generalizing s with
  | nil =>
      obtain rfl : s = [] := by simpa [segments] using hs
      exact List.not_mem_nil
  | cons c path ih =>
      by_cases h : c = '/'
      · rw [h, segments_cons_slash, List.mem_cons] at hs
        rcases hs with rfl | hs
        · exact List.not_mem_nil
        · exact ih hs
      · obtain ⟨t, ts, hpath, hcons⟩ := exists_segments_cons h path
        rw [hpath] at ih
        rw [hcons, List.mem_cons] at hs
        rcases hs with rfl | hs
        · exact List.not_mem_cons_of_ne_of_not_mem (Ne.symm h) (ih List.mem_cons_self)
        · exact ih (List.mem_cons_of_mem t hs)

theorem joinSegments_segments (path : List Char) : joinSegments (segments path) = path :=
  List.intercalate_splitOn '/'

theorem segments_joinSegments {ss : List (List Char)} (h : ∀ s ∈ ss, '/' ∉ s) (hne : ss ≠ []) :
    segments (joinSegments ss) = ss :=
  List.splitOn_intercalate '/' h hne

theorem segments_append_slash (path rest : List Char) :
    segments (path ++ '/' :: rest) = segments path ++ segments rest :=
  List.splitOn_append_cons_self path rest

theorem joinSegments_singleton (s : List Char) : joinSegments [s] = s :=
  List.intercalate_singleton

theorem joinSegments_cons {ss : List (List Char)} (hne : ss ≠ []) (s : List Char) :
    joinSegments (s :: ss) = s ++ '/' :: joinSegments ss := by
  rw [joinSegments, List.intercalate_cons_of_ne_nil hne, List.append_assoc]
  rfl

theorem joinSegments_append_singleton {ss : List (List Char)} (hne : ss ≠ []) (s : List Char) :
    joinSegments (ss ++ [s]) = joinSegments ss ++ '/' :: s := by
  induction ss with
  | nil => contradiction
  | cons t ss ih =>
      rw [List.cons_append, joinSegments_cons (List.append_ne_nil_of_right_ne_nil ss (by simp))]
      cases ss with
      | nil => rw [joinSegments_singleton, List.nil_append, joinSegments_singleton]
      | cons u ss =>
          have hne : u :: ss ≠ [] := List.cons_ne_nil u ss
          rw [ih hne, joinSegments_cons hne, List.append_assoc, List.cons_append]

/-! ## Segments in percent codes -/

theorem percentEncode_joinSegments (ss : List (List Char)) :
    percentEncode isPathSafe (joinSegments ss) =
      joinSegments (ss.map (percentEncode isPathSafe)) := by
  induction ss with
  | nil => rfl
  | cons s ss ih =>
      cases ss with
      | nil => rw [List.map_singleton, joinSegments_singleton, joinSegments_singleton]
      | cons t ss =>
          have hmap : (t :: ss).map (percentEncode isPathSafe) ≠ [] := by simp
          rw [List.map_cons, joinSegments_cons hmap, ← ih,
            joinSegments_cons (List.cons_ne_nil t ss), percentEncode_append,
            percentEncode_cons_of_safe (by decide)]

theorem mem_of_mem_percentEncode {isSafe : Char → Bool} {cs : List Char} {c : Char} (hc : c ≠ '%')
    (hdigit : ∀ n < 16, c ≠ upperHexDigit n) (h : c ∈ percentEncode isSafe cs) : c ∈ cs := by
  rcases mem_percentEncode h with ⟨hmem, -⟩ | heq | ⟨n, hn, heq⟩
  · exact hmem
  · exact absurd heq hc
  · exact absurd heq (hdigit n hn)

theorem segments_percentEncode (path : List Char) :
    segments (percentEncode isPathSafe path) =
      (segments path).map (percentEncode isPathSafe) := by
  have hslash : ∀ s ∈ (segments path).map (percentEncode isPathSafe), '/' ∉ s := by
    simp only [List.mem_map]
    rintro _ ⟨s, hs, rfl⟩ h
    exact slash_notMem_of_mem_segments hs (mem_of_mem_percentEncode (by decide) (by decide) h)
  have hne : (segments path).map (percentEncode isPathSafe) ≠ [] := by
    simp [segments]
  rw [← segments_joinSegments hslash hne, ← percentEncode_joinSegments, joinSegments_segments]

/-- Percent codes do not make a step out of a segment that is none. -/
theorem isDots_of_isDots_percentEncode {s : List Char} (h : IsDots (percentEncode isPathSafe s)) :
    IsDots s := by
  have hpercent : '%' ∉ percentEncode isPathSafe s := by
    rcases h with h | h <;> simp [h]
  rwa [percentEncode_eq_self_of_notMem hpercent] at h

/-! ## Removing dot segments -/

theorem removeDots_eq_append {acc ss : List (List Char)} (h : ∀ s ∈ ss, ¬ IsDots s) :
    removeDots acc ss = acc.reverse ++ ss := by
  fun_induction removeDots acc ss with
  | case1 acc => exact (List.append_nil _).symm
  | case2 acc r ih => exact (h _ List.mem_cons_self (.inl rfl)).elim
  | case3 acc r ih => exact (h _ List.mem_cons_self (.inr rfl)).elim
  | case4 acc s r _ _ ih =>
      rw [ih fun t ht => h t (List.mem_cons_of_mem s ht), List.reverse_cons, List.append_assoc]
      rfl

/-- What remains was there before, and is no step. -/
theorem forall_mem_removeDots {p : List Char → Prop} {acc ss : List (List Char)}
    (hacc : ∀ s ∈ acc, p s) (hss : ∀ s ∈ ss, ¬ IsDots s → p s) :
    ∀ s ∈ removeDots acc ss, p s := by
  fun_induction removeDots acc ss with
  | case1 acc => exact fun s hs => hacc s (List.mem_reverse.1 hs)
  | case2 acc r ih => exact ih hacc fun s hs => hss s (List.mem_cons_of_mem _ hs)
  | case3 acc r ih =>
      refine ih (fun s hs => ?_) fun s hs => hss s (List.mem_cons_of_mem _ hs)
      split at hs
      · exact hacc s hs
      · exact hacc s (List.mem_of_mem_tail hs)
  | case4 acc t r hone htwo ih =>
      refine ih (fun s hs => ?_) fun s hs => hss s (List.mem_cons_of_mem t hs)
      rcases List.mem_cons.1 hs with rfl | hs
      · exact hss s List.mem_cons_self fun hdots => hdots.elim hone htwo
      · exact hacc s hs

theorem removeDots_append_singleton {s : List Char} (hs : ¬ IsDots s) (acc ss : List (List Char)) :
    removeDots acc (ss ++ [s]) = removeDots acc ss ++ [s] := by
  fun_induction removeDots acc ss with
  | case1 acc => exact removeDots_eq_append (by simpa using hs)
  | case2 acc r ih => exact ih
  | case3 acc r ih => exact ih
  | case4 acc t r hone htwo ih => rw [List.cons_append, removeDots] <;> assumption

/-- The empty segment that begins an absolute path stays. -/
theorem head?_removeDots {acc ss : List (List Char)} (h : acc.getLast? = some []) :
    (removeDots acc ss).head? = some [] := by
  fun_induction removeDots acc ss with
  | case1 acc => rwa [List.head?_reverse]
  | case2 acc r ih => exact ih h
  | case3 acc r ih =>
      refine ih ?_
      split
      · exact h
      · next hroot =>
        match acc with
        | [_] => exact absurd (by simpa using h) hroot
        | _ :: _ :: _ => rwa [List.getLast?_cons_cons] at h
  | case4 acc t r hone htwo ih =>
      refine ih ?_
      rw [List.getLast?_cons, h]
      rfl

/-! ## Normal form -/

/-- A path that can follow an authority, without steps along it. -/
structure IsNormalPath (path : List Char) : Prop where
  rooted : IsRooted path
  not_isDots : ∀ s ∈ segments path, ¬ IsDots s

theorem normalizePath_eq_self {path : List Char} (h : IsNormalPath path) :
    normalizePath path = path := by
  rw [normalizePath, removeDots_eq_append h.not_isDots, List.reverse_nil, List.nil_append,
    joinSegments_segments]

/-- Percent codes leave a path in normal form. -/
theorem IsNormalPath.percentEncode {path : List Char} (h : IsNormalPath path) :
    IsNormalPath (percentEncode isPathSafe path) := by
  refine ⟨head?_segments_iff.1 ?_, ?_⟩
  · rw [segments_percentEncode, List.head?_map, head?_segments_iff.2 h.rooted]
    rfl
  · rw [segments_percentEncode, List.forall_mem_map]
    exact fun s hs hdots => h.not_isDots s hs (isDots_of_isDots_percentEncode hdots)

section Rooted

variable {path : List Char} (h : IsRooted path)

include h

theorem head?_removeDots_segments : (removeDots [] (segments path)).head? = some [] := by
  obtain ⟨ss, hss⟩ := List.head?_eq_some_iff.1 (head?_segments_iff.2 h)
  rw [hss, removeDots]
  · exact head?_removeDots rfl
  · simp
  · simp

theorem removeDots_segments_ne_nil : removeDots [] (segments path) ≠ [] := by
  intro hnil
  simpa [hnil] using head?_removeDots_segments h

theorem segments_normalizePath :
    segments (normalizePath path) = removeDots [] (segments path) := by
  refine segments_joinSegments ?_ (removeDots_segments_ne_nil h)
  exact forall_mem_removeDots (by simp) fun s hs _ => slash_notMem_of_mem_segments hs

theorem isNormalPath_normalizePath : IsNormalPath (normalizePath path) := by
  refine ⟨head?_segments_iff.1 ?_, ?_⟩
  · rw [segments_normalizePath h]
    exact head?_removeDots_segments h
  · rw [segments_normalizePath h]
    exact forall_mem_removeDots (by simp) fun s _ hdots => hdots

theorem normalizePath_append_slash {s : List Char} (hslash : '/' ∉ s) (hdots : ¬ IsDots s) :
    normalizePath (path ++ '/' :: s) = normalizePath path ++ '/' :: s := by
  have hs : segments s = [s] := List.splitOn_eq_singleton hslash
  rw [normalizePath, segments_append_slash, hs, removeDots_append_singleton hdots,
    joinSegments_append_singleton (removeDots_segments_ne_nil h)]
  rfl

end Rooted

end ServiceDoc.Uri

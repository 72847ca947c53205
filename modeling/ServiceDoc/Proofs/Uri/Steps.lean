import Mathlib
import ServiceDoc.Proofs.Uri.Metadata
import ServiceDoc.Proofs.Uri.Shortening
/-!
# Steps to the root of a service

The path of a service is read for percent codes as a whole before it is extended. Its steps are
found again in the extended path exactly where this makes no difference to reading them one by one
(`removeDots_trimSlashes_iff`): no step holds a slash, none is a dot segment, and none holds a
percent code that could be read once more.
-/

namespace ServiceDoc.Uri

/-- The steps along a path that begins with a slash, each read for percent codes. -/
def steps (path : List Char) : List (List Char) := (segments path).tail.map percentDecode

/-- The steps to the root of a service: those along its path, without empty ones at the end. -/
def serviceSteps (u : Uri) : List (List Char) := (steps u.path.toList).rdropWhile List.isEmpty

/-! ## The path of a service -/

theorem percentDecode_joinSegments (ss : List (List Char)) :
    percentDecode (joinSegments ss) = joinSegments (ss.map percentDecode) := by
  induction ss with
  | nil => exact percentDecode_nil
  | cons s ss ih =>
      cases ss with
      | nil => rw [List.map_singleton, joinSegments_singleton, joinSegments_singleton]
      | cons t ss =>
          have hmap : (t :: ss).map percentDecode ≠ [] := by simp
          rw [List.map_cons, joinSegments_cons hmap, ← ih,
            joinSegments_cons (List.cons_ne_nil t ss), percentDecode_append_slash]

theorem joinSegments_append_replicate {ss : List (List Char)} (hne : ss ≠ []) (n : Nat) :
    joinSegments (ss ++ List.replicate n []) = joinSegments ss ++ List.replicate n '/' := by
  induction n with
  | zero => simp
  | succ n ih =>
      have hss : ss ++ List.replicate n [] ≠ [] := List.append_ne_nil_of_left_ne_nil hne _
      rw [List.replicate_succ', ← List.append_assoc, joinSegments_append_singleton hss, ih,
        List.replicate_succ', List.append_assoc]

theorem exists_append_replicate (ss : List (List Char)) :
    ∃ n, ss = ss.rdropWhile List.isEmpty ++ List.replicate n [] := by
  induction ss using List.reverseRecOn with
  | nil => exact ⟨0, rfl⟩
  | append_singleton ss s ih =>
      by_cases hs : s.isEmpty
      · obtain ⟨n, hn⟩ := ih
        rw [List.rdropWhile_concat_pos _ _ _ hs]
        refine ⟨n + 1, ?_⟩
        rw [List.isEmpty_iff.1 hs, List.replicate_succ', ← List.append_assoc, ← hn]
      · exact ⟨0, by rw [List.rdropWhile_concat_neg _ _ _ hs]; simp⟩

/-- The path of a service leads along its steps and may end with slashes. -/
theorem exists_decodedPath_eq {u : Uri} (h : IsRooted u.path.toList) :
    ∃ n, u.decodedPath = joinSegments ([] :: serviceSteps u) ++ List.replicate n '/' := by
  by_cases hempty : u.path.isEmpty
  · refine ⟨1, ?_⟩
    have hnil : serviceSteps u = [] := by
      rw [serviceSteps, String.isEmpty_iff.1 hempty]
      rfl
    rw [decodedPath, if_pos hempty, hnil]
    cbv
  · obtain ⟨n, hn⟩ := exists_append_replicate (steps u.path.toList)
    obtain ⟨ss, hss⟩ := List.head?_eq_some_iff.1 (head?_segments_iff.2 h)
    refine ⟨n, ?_⟩
    have hsteps : steps u.path.toList = ss.map percentDecode := by
      rw [steps, hss, List.tail_cons]
    rw [decodedPath, if_neg hempty, ← joinSegments_segments u.path.toList, hss,
      percentDecode_joinSegments, List.map_cons, percentDecode_nil, ← hsteps, hn, serviceSteps,
      ← joinSegments_append_replicate (List.cons_ne_nil _ _)]
    rfl

theorem trimSlashes_append_replicate (path : List Char) (n : Nat) :
    trimSlashes (path ++ List.replicate n '/') = trimSlashes path := by
  induction n with
  | zero => simp
  | succ n ih =>
      rw [List.replicate_succ', ← List.append_assoc, ← ih]
      exact List.rdropWhile_concat_pos _ _ _ (by simp)

theorem trimSlashes_decodedPath {u : Uri} (h : IsRooted u.path.toList) :
    trimSlashes u.decodedPath = trimSlashes (joinSegments ([] :: serviceSteps u)) := by
  obtain ⟨n, hn⟩ := exists_decodedPath_eq h
  rw [hn, trimSlashes_append_replicate]

/-- The path of a service holds the characters of its steps, apart from slashes. -/
theorem forall_mem_decodedPath_iff {u : Uri} (h : IsRooted u.path.toList) {p : Char → Prop}
    (hslash : p '/') :
    (∀ c ∈ u.decodedPath, p c) ↔ ∀ s ∈ serviceSteps u, ∀ c ∈ s, p c := by
  obtain ⟨n, hn⟩ := exists_decodedPath_eq h
  have hslashes : ∀ c ∈ List.replicate n '/', p c := fun c hc =>
    List.eq_of_mem_replicate hc ▸ hslash
  rw [hn, List.forall_mem_append, and_iff_left hslashes]
  constructor
  · intro hpath s hs c hc
    by_cases heq : c = '/'
    · exact heq ▸ hslash
    · exact hpath c ((mem_intercalate_iff '/' heq _).2 ⟨s, List.mem_cons_of_mem [] hs, hc⟩)
  · intro hsteps c hc
    rcases mem_intercalate hc with rfl | ⟨s, hs, hc⟩
    · exact hslash
    · rcases List.mem_cons.1 hs with rfl | hs
      · simp at hc
      · exact hsteps s hs c hc

/-! ## Steps that are found again -/

/-- A step that can be read and written again without becoming another one, or several. -/
structure IsPlainStep (s : List Char) : Prop where
  not_slash : '/' ∉ s
  not_isDots : ¬ IsDots s
  /-- No percent code is left in it. -/
  decoded : percentDecode s = s

/-- The steps to the root of a service do not end with an empty one. -/
theorem ne_nil_of_serviceSteps_eq {u : Uri} {ss : List (List Char)} {s : List Char}
    (h : serviceSteps u = ss ++ [s]) : s ≠ [] := by
  rintro rfl
  have hself := List.rdropWhile_idempotent List.isEmpty (steps u.path.toList)
  rw [← serviceSteps, h, List.rdropWhile_concat_pos _ _ _ rfl] at hself
  have hlength := congrArg List.length hself
  have hle := (List.rdropWhile_prefix List.isEmpty ss).length_le
  rw [List.length_append, List.length_singleton] at hlength
  omega

theorem trimSlashes_append_of_notMem {path s : List Char} (hne : s ≠ []) (hslash : '/' ∉ s) :
    trimSlashes (path ++ s) = path ++ s := by
  refine List.rdropWhile_eq_self_iff.2 fun _ => ?_
  rw [List.getLast_append_of_ne_nil _ hne, decide_eq_true_eq]
  exact fun heq => hslash (heq ▸ List.getLast_mem hne)

/-- Steps without slashes are the segments of the path that they make. -/
theorem trimSlashes_joinSegments {u : Uri} (hslash : ∀ s ∈ serviceSteps u, '/' ∉ s) :
    trimSlashes (joinSegments ([] :: serviceSteps u)) = joinSegments ([] :: serviceSteps u) := by
  rcases List.eq_nil_or_concat (serviceSteps u) with hnil | ⟨ss, s, hss⟩
  · rw [hnil]
    rfl
  · rw [List.concat_eq_append] at hss
    have hs : '/' ∉ s := hslash s (by rw [hss]; simp)
    rw [hss, ← List.cons_append, joinSegments_append_singleton (List.cons_ne_nil [] ss),
      List.append_cons]
    exact trimSlashes_append_of_notMem (ne_nil_of_serviceSteps_eq hss) hs

theorem segments_trimSlashes_of_plain {u : Uri} (h : IsRooted u.path.toList)
    (hslash : ∀ s ∈ serviceSteps u, '/' ∉ s) :
    segments (trimSlashes u.decodedPath) = [] :: serviceSteps u := by
  rw [trimSlashes_decodedPath h, trimSlashes_joinSegments hslash]
  exact segments_joinSegments (by simpa using hslash) (List.cons_ne_nil _ _)

/-- The steps to the root of a service are found again behind its path if they are plain, and only
then: whatever else is done to a path makes it shorter. -/
theorem removeDots_trimSlashes_iff {u : Uri} (h : IsRooted u.path.toList) :
    (removeDots [] (segments (trimSlashes u.decodedPath))).map percentDecode =
        [] :: serviceSteps u ↔
      ∀ s ∈ serviceSteps u, IsPlainStep s := by
  constructor
  · intro hfound
    have hsegments : room (segments (trimSlashes u.decodedPath)) ≤
        room ([] :: serviceSteps u) := by
      have hle := (trimSlashes_isPrefix (joinSegments ([] :: serviceSteps u))).length_le
      rw [room_segments, trimSlashes_decodedPath h, ← length_joinSegments (List.cons_ne_nil _ _)]
      omega
    have hdots := room_removeDots_le [] (segments (trimSlashes u.decodedPath))
    have hcodes := room_map_percentDecode_le
      (removeDots [] (segments (trimSlashes u.decodedPath)))
    rw [room_nil, Nat.zero_add] at hdots
    rw [hfound] at hcodes
    have hnodots : ∀ s ∈ segments (trimSlashes u.decodedPath), ¬ IsDots s :=
      not_isDots_of_room_le [] (by rw [room_nil]; omega)
    rw [removeDots_eq_append hnodots, List.reverse_nil, List.nil_append] at hfound
    have hself : ∀ s ∈ segments (trimSlashes u.decodedPath), percentDecode s = s :=
      percentDecode_eq_self_of_room_le (by rw [hfound]; exact hsegments)
    have heq : segments (trimSlashes u.decodedPath) = [] :: serviceSteps u :=
      ((List.map_congr_left hself).trans (List.map_id _)).symm.trans hfound
    intro s hs
    have hmem : s ∈ segments (trimSlashes u.decodedPath) := by
      rw [heq]
      exact List.mem_cons_of_mem [] hs
    exact ⟨slash_notMem_of_mem_segments hmem, hnodots s hmem, hself s hmem⟩
  · intro hplain
    have hdots : ∀ s ∈ [] :: serviceSteps u, ¬ IsDots s := by
      rw [List.forall_mem_cons]
      exact ⟨by simp [IsDots], fun s hs => (hplain s hs).not_isDots⟩
    have hself : (serviceSteps u).map percentDecode = serviceSteps u :=
      (List.map_congr_left fun s hs => (hplain s hs).decoded).trans (List.map_id _)
    rw [segments_trimSlashes_of_plain h fun s hs => (hplain s hs).not_slash,
      removeDots_eq_append hdots, List.reverse_nil, List.nil_append, List.map_cons,
      percentDecode_nil, hself]

end ServiceDoc.Uri

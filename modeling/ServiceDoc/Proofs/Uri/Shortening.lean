import Mathlib
import ServiceDoc.Proofs.Uri.Path
/-!
# Reading makes paths shorter

What is read for percent codes is shorter than the text with the codes, and so is a path without its
dot segments. A path that keeps its length through both has been left as it was
(`percentDecode_eq_self`, `not_isDots_of_room_le`).
-/

namespace ServiceDoc.Uri

/-! ## Percent codes -/

theorem length_replaceInvalid_le (bytes : List UInt8) :
    (Text.replaceInvalid bytes).length ≤ bytes.length := by
  rw [Text.replaceInvalid]
  fun_induction Text.readUtf8 (fun _ => ['\ufffd']) bytes with
  | case1 => exact Nat.le_refl 0
  | case2 a s c n hc ih =>
      rw [List.length_drop] at ih
      simp only [List.length_cons]
      omega
  | case3 a s n hc ih =>
      rw [List.length_drop] at ih
      simp only [List.length_append, List.length_cons, List.length_nil]
      omega

theorem length_percentBytes_le (cs : List Char) : (percentBytes cs).length ≤ cs.length := by
  fun_induction percentBytes cs <;> simp only [List.length_cons, List.length_nil] at * <;> omega

/-- Only a text without percent codes has as many bytes as characters. -/
theorem percentBytes_eq_map {cs : List Char} (h : cs.length ≤ (percentBytes cs).length) :
    percentBytes cs = cs.map fun c => UInt8.ofNat c.toNat := by
  fun_induction percentBytes cs with
  | case1 => rfl
  | case2 a b r x y ha hb ih =>
      have hle := length_percentBytes_le r
      simp only [List.length_cons] at h
      omega
  | case3 a b r hab ih =>
      rw [List.length_cons (a := '%'), List.length_cons (a := '%'.toUInt8)] at h
      rw [List.map_cons, ih (Nat.le_of_succ_le_succ h)]
      rfl
  | case4 c r hc ih =>
      rw [List.length_cons, List.length_cons] at h
      rw [List.map_cons, ih (Nat.le_of_succ_le_succ h)]
      rfl

theorem length_readRun_le (run : List Char) :
    (Text.replaceInvalid (percentBytes run)).length ≤ run.length :=
  (length_replaceInvalid_le _).trans (length_percentBytes_le run)

theorem readRun_eq_self {run : List Char} (hascii : Text.IsAscii run)
    (h : run.length ≤ (Text.replaceInvalid (percentBytes run)).length) :
    Text.replaceInvalid (percentBytes run) = run := by
  have hbytes := percentBytes_eq_map (le_trans h (length_replaceInvalid_le (percentBytes run)))
  rw [hbytes, ← Text.utf8_of_isAscii hascii]
  exact Text.replaceInvalid_utf8 run

theorem length_percentDecodeFrom_le (run cs : List Char) :
    (percentDecodeFrom run cs).length ≤ run.reverse.length + cs.length := by
  induction cs generalizing run with
  | nil => exact length_readRun_le run.reverse
  | cons c cs ih =>
      rw [percentDecodeFrom]
      split
      · have hrest := ih (c :: run)
        simp only [List.length_reverse, List.length_cons] at hrest ⊢
        omega
      · have hread := length_readRun_le run.reverse
        have hrest := ih []
        simp only [List.length_append, List.length_cons, List.length_reverse,
          List.length_nil] at hread hrest ⊢
        omega

/-- Each run of ASCII characters is read as a text that is not longer, so if nothing is lost in the
end, nothing is lost in any of them. -/
theorem percentDecodeFrom_eq_self (run : List Char) {cs : List Char}
    (hascii : Text.IsAscii run.reverse)
    (h : run.reverse.length + cs.length ≤ (percentDecodeFrom run cs).length) :
    percentDecodeFrom run cs = run.reverse ++ cs := by
  induction cs generalizing run with
  | nil =>
      rw [List.append_nil]
      exact readRun_eq_self hascii h
  | cons c cs ih =>
      rw [percentDecodeFrom] at h ⊢
      split at h
      · next hc =>
        have hrun : Text.IsAscii (c :: run).reverse := by
          rw [List.reverse_cons, Text.isAscii_append, Text.isAscii_cons]
          exact ⟨hascii, hc, Text.isAscii_nil⟩
        have hlength : (c :: run).reverse.length + cs.length ≤
            (percentDecodeFrom (c :: run) cs).length := by
          simp only [List.length_reverse, List.length_cons] at h ⊢
          omega
        rw [if_pos hc, ih (c :: run) hrun hlength, List.reverse_cons, List.append_assoc,
          List.singleton_append]
      · next hc =>
        have hread := length_readRun_le run.reverse
        have hrest := length_percentDecodeFrom_le [] cs
        simp only [List.length_append, List.length_cons, List.length_reverse,
          List.length_nil] at h hread hrest
        rw [if_neg hc, readRun_eq_self hascii (by rw [List.length_reverse]; omega),
          ih [] Text.isAscii_nil (by simp only [List.length_reverse, List.length_nil]; omega)]
        rfl

theorem length_percentDecode_le (cs : List Char) : (percentDecode cs).length ≤ cs.length := by
  have hle := length_percentDecodeFrom_le [] cs
  rwa [List.reverse_nil, List.length_nil, Nat.zero_add] at hle

/-- Only a text without percent codes is read as one of its own length, which is the text itself. -/
theorem percentDecode_eq_self {cs : List Char} (h : cs.length ≤ (percentDecode cs).length) :
    percentDecode cs = cs :=
  percentDecodeFrom_eq_self [] Text.isAscii_nil
    (by rwa [List.reverse_nil, List.length_nil, Nat.zero_add])

/-! ## Segments -/

/-- The room that segments take in a path, each with the slash before it. -/
def room (ss : List (List Char)) : Nat := (ss.map fun s => s.length + 1).sum

@[simp] theorem room_nil : room [] = 0 := rfl

@[simp] theorem room_cons (s : List Char) (ss : List (List Char)) :
    room (s :: ss) = s.length + 1 + room ss := by
  rw [room, List.map_cons, List.sum_cons]
  rfl

theorem room_reverse (ss : List (List Char)) : room ss.reverse = room ss := by
  rw [room, List.map_reverse, List.sum_reverse]
  rfl

/-- A step back along a path does not take more room. -/
theorem room_stepBack_le (acc : List (List Char)) :
    room (if acc = [[]] then acc else acc.tail) ≤ room acc := by
  split
  · exact Nat.le_refl _
  · cases acc with
    | nil => exact Nat.le_refl 0
    | cons s acc =>
        rw [List.tail_cons, room_cons]
        omega

/-- A path takes the room of its segments, but for the slash before the first one. -/
theorem length_joinSegments {ss : List (List Char)} (hne : ss ≠ []) :
    (joinSegments ss).length + 1 = room ss := by
  induction ss with
  | nil => contradiction
  | cons s ss ih =>
      cases ss with
      | nil => rw [joinSegments_singleton, room_cons, room_nil, Nat.add_zero]
      | cons t ss =>
          have hrest := ih (List.cons_ne_nil t ss)
          rw [joinSegments_cons (List.cons_ne_nil t ss), room_cons, ← hrest, List.length_append,
            List.length_cons]
          omega

theorem room_segments (path : List Char) : room (segments path) = path.length + 1 := by
  have hne : segments path ≠ [] := List.splitOn_ne_nil '/' path
  rw [← length_joinSegments hne, joinSegments_segments]

theorem room_removeDots_le (acc ss : List (List Char)) :
    room (removeDots acc ss) ≤ room acc + room ss := by
  fun_induction removeDots acc ss with
  | case1 acc => rw [room_reverse, room_nil, Nat.add_zero]
  | case2 acc r ih =>
      rw [room_cons]
      omega
  | case3 acc r ih =>
      have hback := room_stepBack_le acc
      rw [room_cons]
      omega
  | case4 acc s r _ _ ih =>
      rw [room_cons] at ih ⊢
      omega

/-- Segments that keep their room when dot segments are removed have none among them. -/
theorem not_isDots_of_room_le (acc : List (List Char)) {ss : List (List Char)}
    (h : room acc + room ss ≤ room (removeDots acc ss)) : ∀ s ∈ ss, ¬ IsDots s := by
  fun_induction removeDots acc ss with
  | case1 acc => simp
  | case2 acc r ih =>
      have hle := room_removeDots_le acc r
      rw [room_cons] at h
      omega
  | case3 acc r ih =>
      have hle := room_removeDots_le (if acc = [[]] then acc else acc.tail) r
      have hback := room_stepBack_le acc
      rw [room_cons] at h
      omega
  | case4 acc s r hone htwo ih =>
      rw [room_cons] at h ih
      rw [List.forall_mem_cons]
      exact ⟨fun hdots => hdots.elim hone htwo, ih (by omega)⟩

theorem room_map_percentDecode_le (ss : List (List Char)) :
    room (ss.map percentDecode) ≤ room ss := by
  induction ss with
  | nil => exact Nat.le_refl 0
  | cons s ss ih =>
      have hle := length_percentDecode_le s
      rw [List.map_cons, room_cons, room_cons]
      omega

/-- Segments that keep their room when they are read for percent codes hold none. -/
theorem percentDecode_eq_self_of_room_le {ss : List (List Char)}
    (h : room ss ≤ room (ss.map percentDecode)) : ∀ s ∈ ss, percentDecode s = s := by
  induction ss with
  | nil => simp
  | cons s ss ih =>
      have hle := length_percentDecode_le s
      have hrest := room_map_percentDecode_le ss
      rw [List.map_cons, room_cons, room_cons] at h
      rw [List.forall_mem_cons]
      exact ⟨percentDecode_eq_self (by omega), ih (by omega)⟩

end ServiceDoc.Uri

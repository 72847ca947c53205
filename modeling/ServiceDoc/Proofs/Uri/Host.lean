import Mathlib
import ServiceDoc.Uri.Host
/-!
# What looks like a numeric host

A text that looks like a numeric address has four runs of digits with one other character between
each two. So it matters only where the digits of a text are, and there are no more than three other
characters.
-/

namespace ServiceDoc.Uri

theorem dottedStages_congr {c d : Char} (h : c.isDigit = d.isDigit) (stages : List Nat) :
    dottedStages c stages = dottedStages d stages := by
  rw [dottedStages, dottedStages, h]

/-- Whether a text looks like a numeric address depends on where its digits are. -/
theorem looksIpv4_congr {s t : List Char} (h : s.map Char.isDigit = t.map Char.isDigit) :
    looksIpv4 s = looksIpv4 t := by
  have hstages (stages : List Nat) :
      s.foldl (fun stages c => dottedStages c stages) stages =
        t.foldl (fun stages c => dottedStages c stages) stages := by
    induction s generalizing t stages with
    | nil =>
        obtain rfl : t = [] := by simpa using h.symm
        rfl
    | cons c s ih =>
        obtain ⟨d, t, rfl⟩ : ∃ d t', t = d :: t' := by
          cases t with
          | nil => simp at h
          | cons d t => exact ⟨d, t, rfl⟩
        rw [List.map_cons, List.map_cons, List.cons.injEq] at h
        rw [List.foldl_cons, List.foldl_cons, dottedStages_congr h.1, ih h.2]
  rw [looksIpv4, looksIpv4, hstages]

/-- Between two stages are at most as many separators as the later one counts. -/
theorem exists_mem_of_mem_dottedStages {c : Char} {stages : List Nat} {m : Nat}
    (h : m ∈ dottedStages c stages) :
    ∃ n ∈ stages, n / 2 + (if c.isDigit then 0 else 1) ≤ m / 2 := by
  rw [dottedStages, List.mem_eraseDups, List.mem_flatMap] at h
  obtain ⟨n, hn, hm⟩ := h
  refine ⟨n, hn, ?_⟩
  split_ifs at hm ⊢ <;> simp at hm <;> omega

theorem exists_mem_of_mem_foldl {cs : List Char} {stages : List Nat} {m : Nat}
    (h : m ∈ cs.foldl (fun stages c => dottedStages c stages) stages) :
    ∃ n ∈ stages, n / 2 + cs.countP (fun c => !c.isDigit) ≤ m / 2 := by
  induction cs generalizing stages with
  | nil => exact ⟨m, h, Nat.le_refl _⟩
  | cons c cs ih =>
      obtain ⟨k, hk, hkm⟩ := ih h
      obtain ⟨n, hn, hnk⟩ := exists_mem_of_mem_dottedStages hk
      refine ⟨n, hn, ?_⟩
      rw [List.countP_cons]
      cases hc : c.isDigit <;> simp [hc] at hnk ⊢ <;> omega

/-- Between four runs of digits are three separators. -/
theorem countP_le_of_looksIpv4 {cs : List Char} (h : looksIpv4 cs = true) :
    cs.countP (fun c => !c.isDigit) ≤ 3 := by
  rw [looksIpv4, List.contains_iff_mem] at h
  obtain ⟨n, hn, hle⟩ := exists_mem_of_mem_foldl h
  rw [List.mem_singleton] at hn
  omega

end ServiceDoc.Uri

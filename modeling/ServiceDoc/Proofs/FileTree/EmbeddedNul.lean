import Mathlib
import ServiceDoc.FileTree.Basic
import ServiceDoc.Proofs.Uri.Idna
/-!
# Paths with an embedded NUL

A file cannot be read for an embedded NUL exactly where the text of the path, as it was written,
holds that character (`read_ofText_embeddedNul_iff`): what a path leaves out of the text it is made
of consists of slashes and dots.
-/

namespace ServiceDoc

namespace Path

theorem notMem_root_splitRoot {c : Char} (hc : c ≠ '/') (s : List Char) :
    c ∉ (splitRoot s).1.toList := by
  fun_cases splitRoot s <;> simp [hc]

theorem mem_rest_splitRoot_iff {c : Char} (hc : c ≠ '/') (s : List Char) :
    c ∈ (splitRoot s).2 ↔ c ∈ s := by
  fun_cases splitRoot s <;> simp [hc]

theorem exists_mem_segments_ofText_iff {c : Char} (hslash : c ≠ '/') (hdot : c ≠ '.')
    (text : String) :
    (∃ s ∈ (ofText text).segments, c ∈ s.toList) ↔ c ∈ text.toList := by
  have hpieces : ['/'].intercalate ((splitRoot text.toList).2.splitOn '/') =
      (splitRoot text.toList).2 := List.intercalate_splitOn '/'
  rw [← mem_rest_splitRoot_iff hslash text.toList, ← hpieces, Uri.mem_intercalate_iff '/' hslash]
  simp only [ofText, List.mem_filter, List.mem_map]
  constructor
  · rintro ⟨-, ⟨⟨piece, hpiece, rfl⟩, -⟩, hc⟩
    exact ⟨piece, hpiece, by rwa [String.toList_ofList] at hc⟩
  · rintro ⟨piece, hpiece, hc⟩
    have hc' : c ∈ (String.ofList piece).toList := by rwa [String.toList_ofList]
    refine ⟨_, ⟨⟨piece, hpiece, rfl⟩, ?_⟩, hc'⟩
    have hempty : String.ofList piece ≠ "" := by
      intro h
      rw [h] at hc'
      simp at hc'
    have hself : String.ofList piece ≠ "." := by
      intro h
      rw [h] at hc'
      exact hdot (by simpa using hc')
    simp [hempty, hself]

/-- Which characters the text of a path has, beside the slashes and dots that it is written with. -/
theorem mem_toText_iff {c : Char} (hslash : c ≠ '/') (hdot : c ≠ '.') (p : Path) :
    c ∈ p.toText.toList ↔ c ∈ p.root.toList ∨ ∃ s ∈ p.segments, c ∈ s.toList := by
  rw [toText]
  split
  · next hempty =>
    obtain ⟨hroot, hsegments⟩ := Bool.and_eq_true_iff.1 hempty
    rw [List.isEmpty_iff.1 hsegments, String.isEmpty_iff.1 hroot]
    simpa using hdot
  · rw [String.toList_append, List.mem_append, String.toList_intercalate]
    exact or_congr_right ((Uri.mem_intercalate_iff '/' hslash _).trans (by simp))

theorem mem_toText_ofText_iff {c : Char} (hslash : c ≠ '/') (hdot : c ≠ '.') (text : String) :
    c ∈ (ofText text).toText.toList ↔ c ∈ text.toList := by
  have hroot : c ∉ (ofText text).root.toList := notMem_root_splitRoot hslash text.toList
  rw [mem_toText_iff hslash hdot, or_iff_right hroot,
    exists_mem_segments_ofText_iff hslash hdot text]

end Path

namespace FileTree

theorem walk_ne_embeddedNul (t : FileTree) (place : Place) (segments : List String) :
    t.walk place segments ≠ .error .embeddedNul := by
  fun_induction walk t place segments <;> simp_all

theorem target_eq_embeddedNul_iff (t : FileTree) (p : Path) :
    t.target p = .error .embeddedNul ↔ '\x00' ∈ p.toText.toList := by
  rw [target, String.contains_char_eq]
  split
  · next hnul => simpa using hnul
  · next hnul =>
    refine iff_of_false ?_ (by simpa using hnul)
    split
    · simp
    · cases p.segments.getLast? with
      | none => simp
      | some last =>
          have hwalk := t.walk_ne_embeddedNul (t.start p) p.segments.dropLast
          cases hplace : t.walk (t.start p) p.segments.dropLast with
          | error f => simpa [hplace] using hwalk
          | ok place =>
              dsimp only
              split
              · simp
              · split <;> simp

theorem read_eq_embeddedNul_iff (t : FileTree) (p : Path) :
    t.read p = .error .embeddedNul ↔ '\x00' ∈ p.toText.toList := by
  rw [← target_eq_embeddedNul_iff t, read]
  cases t.target p with
  | error f => simp
  | ok target =>
      cases target with
      | passed => simp
      | name place =>
          cases hentry : t.entry? place with
          | none => simp [hentry]
          | some entry => cases entry <;> simp [hentry]

theorem read_ofText_embeddedNul_iff (t : FileTree) (text : String) :
    t.read (.ofText text) = .error .embeddedNul ↔ '\x00' ∈ text.toList := by
  rw [read_eq_embeddedNul_iff, Path.mem_toText_ofText_iff (by decide) (by decide)]

end FileTree

end ServiceDoc

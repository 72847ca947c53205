import Mathlib
import ServiceDoc.Proofs.Text.Words
import ServiceDoc.Text.CodePage
/-!
# Names in tables

The tables of code pages are written in lines of words, so that a name is not among them if it is no
word of any line.
-/

namespace ServiceDoc

namespace CodeSet

open String

/-- A name is no word of a table if it is no word of any of its lines. -/
theorem notMem_words_cons {name line : List Char} {lines : List String}
    (hline : name ∉ line.splitOn ' ') (hlines : ofList name ∉ words lines) :
    ofList name ∉ words (ofList line :: lines) := by
  rw [words, List.flatMap_cons, List.mem_append, not_or]
  refine ⟨?_, hlines⟩
  rw [splitOn_blank, toList_ofList, List.mem_map_of_injective (fun _ _ => ofList_inj.1)]
  exact hline

theorem notMem_words_nil (name : String) : name ∉ words [] := List.not_mem_nil

end CodeSet

namespace CodePage

open CodeSet (words notMem_words_cons notMem_words_nil)

theorem find?_ofLines_cons {name : String} {names codes : List String} {pages : List CodePage}
    (hnames : name ∉ words names)
    (hpages : pages.find? (fun p => p.isNamed name || p.isNamed name) = none) :
    (ofLines names codes :: pages).find? (fun p => p.isNamed name || p.isNamed name) = none := by
  rw [List.find?_cons_of_neg, hpages]
  simpa [isNamed, ofLines] using hnames

theorem find?_all_klingon :
    all.find? (fun p => p.isNamed "klingon" || p.isNamed "klingon") = none := by
  unfold all
  repeat' first
    | refine find?_ofLines_cons ?_ ?_
    | refine notMem_words_cons (by decide +kernel) ?_
    | exact notMem_words_nil "klingon"
    | exact List.find?_nil

theorem klingon_notMem_others {names : List String} (h : names ∈ [foreign, wide, binary]) :
    "klingon" ∉ names := by
  revert names
  simp only [List.forall_mem_cons]
  unfold foreign wide binary
  refine ⟨?_, ?_, ?_, nofun⟩
  all_goals
    repeat' first
      | refine notMem_words_cons (by decide +kernel) ?_
      | exact notMem_words_nil "klingon"

end CodePage

end ServiceDoc

import Mathlib
import ServiceDoc.Text.CodeTable
/-!
# Words of a line

The lines of a table are cut into words, and some words into parts, by a scan over byte positions.
Here the scan is told as a split of the list of characters (`splitOn_singleton`).
-/

namespace ServiceDoc

namespace CodeSet

open String

/-- The scan of a text for a separator: `l` holds what has been cut off already, `m` the part so
far, and `r` what is left. -/
theorem splitOnAux_singleton (separator : Char) (l m r : List Char) (acc : List String) :
    splitOnAux (ofList (l ++ m ++ r)) (singleton separator) ⟨utf8Len l⟩ ⟨utf8Len l + utf8Len m⟩ 0
        acc =
      acc.reverse ++ (List.splitOnPPrepend (· == separator) r m.reverse).map ofList := by
  induction r generalizing l m acc with
  | nil =>
      have hend : Pos.Raw.atEnd (ofList (l ++ m ++ [])) ⟨utf8Len l + utf8Len m⟩ = true := by
        simp only [atEnd_iff, rawEndPos_ofList, utf8Len_append, utf8Len_nil, Nat.add_zero,
          Pos.Raw.mk_le_mk, Nat.le_refl]
      unfold splitOnAux
      rw [if_pos hend, extract_of_valid]
      simp
  | cons c r ih =>
      have hend : ¬ Pos.Raw.atEnd (ofList (l ++ m ++ c :: r)) ⟨utf8Len l + utf8Len m⟩ = true := by
        have hsize := c.utf8Size_pos
        simp only [atEnd_iff, rawEndPos_ofList, utf8Len_append, utf8Len_cons, Pos.Raw.mk_le_mk]
        omega
      have hget : Pos.Raw.get (ofList (l ++ m ++ c :: r)) ⟨utf8Len l + utf8Len m⟩ = c := by
        rw [← utf8Len_append, get_of_valid]
        rfl
      have hnext : Pos.Raw.next (ofList (l ++ m ++ c :: r)) ⟨utf8Len l + utf8Len m⟩ =
          ⟨utf8Len l + utf8Len m + c.utf8Size⟩ := by
        rw [← utf8Len_append, next_of_valid]
      have hseparator : singleton separator = ofList [separator] := singleton_eq_ofList
      have hseparatorGet : Pos.Raw.get (singleton separator) 0 = separator := by
        rw [hseparator]
        exact get_of_valid [] [separator]
      have hseparatorNext : Pos.Raw.next (singleton separator) 0 = ⟨separator.utf8Size⟩ := by
        rw [hseparator]
        simpa using next_of_valid [] separator []
      have hseparatorEnd :
          Pos.Raw.atEnd (singleton separator) ⟨separator.utf8Size⟩ = true := by
        simp only [hseparator, atEnd_iff, rawEndPos_ofList, utf8Len_cons, utf8Len_nil, Nat.zero_add,
          Pos.Raw.mk_le_mk, Nat.le_refl]
      unfold splitOnAux
      rw [if_neg hend, hget, hseparatorGet, hseparatorNext]
      dsimp only
      rw [if_pos hseparatorEnd, hnext, List.splitOnPPrepend_cons_eq_if]
      by_cases hc : c = separator
      · subst hc
        have hpart : Pos.Raw.extract (ofList (l ++ m ++ c :: r)) ⟨utf8Len l⟩
            (Pos.Raw.unoffsetBy ⟨utf8Len l + utf8Len m + c.utf8Size⟩ ⟨c.utf8Size⟩) = ofList m := by
          rw [Pos.Raw.unoffsetBy, Nat.add_sub_cancel]
          exact extract_of_valid l m (c :: r)
        rw [if_pos (beq_self_eq_true c), if_pos (beq_self_eq_true c), hpart]
        simpa [Nat.add_assoc] using ih (l ++ m ++ [c]) [] (ofList m :: acc)
      · have hpart := ih l (m ++ [c]) acc
        have hsame : Pos.Raw.unoffsetBy ⟨utf8Len l + utf8Len m⟩ 0 = ⟨utf8Len l + utf8Len m⟩ := rfl
        rw [if_neg (by simpa using hc), if_neg (by simpa using hc), hsame, hnext]
        simpa [Nat.add_assoc] using hpart

theorem splitOn_singleton (separator : Char) (text : String) :
    text.splitOn (singleton separator) = (text.toList.splitOn separator).map ofList := by
  have h := splitOnAux_singleton separator [] [] text.toList []
  rw [String.splitOn, if_neg (by simp [← String.toList_inj])]
  simpa [List.splitOn] using h

theorem splitOn_blank (line : String) :
    line.splitOn " " = (line.toList.splitOn ' ').map ofList :=
  splitOn_singleton ' ' line

end CodeSet

end ServiceDoc
